import Muster.Proofs.Handle.Lookups

/-!
# After lookups that failed

A lookup that has failed, or whose caller was dropped, leaves its handle as if nobody had used it.
So whoever waits can still be served (`exists_served`): the caller on a lookup comes to its end, and
callers that come one after another look the dictionary up until one of them succeeds. They do,
because each failure uses up a part of what is planned to fail (`exists_resolved`).
-/

namespace Muster

namespace Handle

open Setting (IsAnswered)

variable {store : String} {world : World} {handle : Handle} {moves : List (Move Handle)}
  {id : TaskId} {stand : Stand}

/-- With the answer to its call a caller gets further, and no other does. -/
structure Advanced (store : String) (world : World) (moves more : List (Move Handle))
    (handle : Handle) (id : TaskId) (stand : Stand) : Prop where
  /-- It has got to a stand. -/
  stands : Stands ((callers store).run world (moves ++ more)) id handle stand
  /-- The others are as they were. -/
  others : ∀ id', id' ≠ id → ((callers store).run world (moves ++ more)).caller? id' =
    ((callers store).run world moves).caller? id'

/-- The next call of a caller is answered, unless it waits while the dictionary is looked up. -/
theorem Stands.exists_advanced (hs : Stands ((callers store).run world moves) id handle stand)
    (hnot : ∀ result, stand ≠ .returned result)
    (hready : stand = .asking → ((callers store).run world moves).system.world.handles.find?
      handle ≠ some .resolving) :
    ∃ stand', Advanced store world moves [.call id] handle id stand' ∧
      Turn ((callers store).run world moves) ((callers store).run world (moves ++ [.call id])) id
        handle stand stand' := by
  -- The call is answered.
  have hanswered : ∃ c reply, IsAnswered ((callers store).run world moves) id c reply := by
    obtain ⟨-, context, htask, -⟩ := stands_iff.1 hs
    obtain ⟨c, go, hcall⟩ := Stand.exists_call handle hnot
    rw [hcall] at htask
    rcases Handle.exists_turn hs htask with ⟨hasking, hresolving, -⟩ |
      ⟨w', me', reply, -, hperform, -⟩
    · exact absurd hresolving (hready hasking)
    · exact ⟨c, reply, context, go, htask, by rw [hperform]⟩
  obtain ⟨c, reply, hreply⟩ := hanswered
  cases goes_run store world moves (.call id) with
  | still same handles silent => exact absurd hreply (silent rfl c reply)
  | started who => cases who
  | dropped who => cases who
  | @turns id' handle' before' behind' who before behind others turn =>
    obtain rfl := Move.call.inj who
    obtain rfl := hs.handle_eq before
    obtain rfl := hs.stand_eq before
    exact ⟨behind', ⟨behind, others⟩, turn⟩

/-- A caller that advances by some moves and then by others advances by all of them. -/
theorem Advanced.trans {front back : List (Move Handle)} {stand' : Stand}
    (h₁ : Advanced store world moves front handle id stand)
    (h₂ : Advanced store world (moves ++ front) back handle id stand') :
    Advanced store world moves (front ++ back) handle id stand' := by
  have hmoves : moves ++ (front ++ back) = moves ++ front ++ back := (List.append_assoc ..).symm
  refine ⟨by rw [hmoves]; exact h₂.stands, fun id' hid => ?_⟩
  rw [hmoves, h₂.others id' hid, h₁.others id' hid]

/-! ## Lookups come to an end -/

/-- How a lookup may end: the dictionary is known, or the handle is as if nobody had used it and
fewer lookups than `due` are still planned to fail. -/
def Ended (store : String) (world : World) (moves : List (Move Handle)) (handle : Handle)
    (due : Nat) : Prop :=
  ((callers store).run world moves).system.world.handles.find? handle = some .resolved ∨
    ((callers store).run world moves).system.world.handles.find? handle = none ∧
      dueLookups ((callers store).run world moves).system.world handle < due

/-- A lookup that leaves few failures planned leaves fewer than any larger number. -/
theorem Ended.mono {due due' : Nat} (he : Ended store world moves handle due) (hle : due ≤ due') :
    Ended store world moves handle due' :=
  he.imp_right fun ⟨hnone, hlt⟩ => ⟨hnone, Nat.lt_of_lt_of_le hlt hle⟩

/-- A caller that has asked the store comes to its end. -/
theorem Stands.exists_settled {failure? : Option String}
    (hs : Stands ((callers store).run world moves) id handle (.tried failure?)) :
    ∃ stand, Advanced store world moves [.call id] handle id stand ∧
      ((callers store).run world (moves ++ [.call id])).system.world =
        ((callers store).run world moves).system.world.settle handle failure?.isNone := by
  obtain ⟨stand, hadvanced, hturn⟩ := hs.exists_advanced (by simp) (by simp)
  cases hturn with
  | settled reply hworld => exact ⟨_, hadvanced, hworld⟩

/-- A caller that is about to ask the store comes to its end. If the store fails, less is planned to
fail than before. -/
theorem Stands.exists_ended_of_trying
    (hs : Stands ((callers store).run world moves) id handle .trying) :
    ∃ more stand, Advanced store world moves more handle id stand ∧
      Ended store world (moves ++ more) handle
        (dueLookups ((callers store).run world moves).system.world handle) := by
  obtain ⟨stand, hadvanced, hturn⟩ := hs.exists_advanced (by simp) (by simp)
  cases hturn with
  | @tried failure? reply hhandles hdue =>
    obtain ⟨stand', hsettled, hworld⟩ := hadvanced.stands.exists_settled
    refine ⟨_, stand', hadvanced.trans hsettled, ?_⟩
    rw [← List.append_assoc, Ended, hworld, World.find?_settle_self]
    cases failure? with
    | none => exact .inl rfl
    | some message => exact .inr ⟨rfl, hdue rfl⟩

/-- So does one that is to look the dictionary up. -/
theorem Stands.exists_ended_of_chosen
    (hs : Stands ((callers store).run world moves) id handle .chosen) :
    ∃ more stand, Advanced store world moves more handle id stand ∧
      Ended store world (moves ++ more) handle
        (dueLookups ((callers store).run world moves).system.world handle) := by
  obtain ⟨stand, hadvanced, hturn⟩ := hs.exists_advanced (by simp) (by simp)
  cases hturn with
  | told reply hhandles hdue =>
    obtain ⟨more, stand', hadvanced', hended⟩ := hadvanced.stands.exists_ended_of_trying
    refine ⟨_, stand', hadvanced.trans hadvanced', ?_⟩
    rw [hdue] at hended
    rw [← List.append_assoc]
    exact hended

/-- Whoever is on a lookup comes to its end. -/
theorem Stands.exists_ended (hs : Stands ((callers store).run world moves) id handle stand)
    (hresolving : stand.resolving handle = some handle) :
    ∃ more stand, Advanced store world moves more handle id stand ∧
      ∃ due, Ended store world (moves ++ more) handle due := by
  -- A caller that is on a lookup has some of its calls ahead, and all of them are answered.
  cases stand with
  | asking => exact absurd hresolving (by simp [Stand.resolving])
  | returned result => exact absurd hresolving (by simp [Stand.resolving])
  | chosen =>
    obtain ⟨more, stand, hadvanced, hended⟩ := hs.exists_ended_of_chosen
    exact ⟨more, stand, hadvanced, _, hended⟩
  | trying =>
    obtain ⟨more, stand, hadvanced, hended⟩ := hs.exists_ended_of_trying
    exact ⟨more, stand, hadvanced, _, hended⟩
  | tried failure? =>
    obtain ⟨stand, hsettled, hworld⟩ := hs.exists_settled
    refine ⟨_, stand, hsettled,
      dueLookups ((callers store).run world moves).system.world handle + 1, ?_⟩
    rw [Ended, hworld, World.find?_settle_self]
    cases failure? with
    | none => exact .inl rfl
    | some message => exact .inr ⟨rfl, Nat.lt_succ_self _⟩

/-! ## Waiting callers can be served -/

/-- A caller that has just been started, and the others as they were. -/
theorem started_run (store : String) (world : World) (moves : List (Move Handle)) (handle : Handle)
    (isCancelled : Bool) (trigger : Trigger) :
    Advanced store world moves [.start handle isCancelled trigger] handle
        ((callers store).run world moves).jobs.length .asking ∧
      ((callers store).run world (moves ++ [.start handle isCancelled trigger])).system.world =
        ((callers store).run world moves).system.world := by
  cases goes_run store world moves (.start handle isCancelled trigger) with
  | still same handles silent kept unstarted => exact absurd rfl unstarted
  | started who new behind others hworld =>
    obtain ⟨rfl, -, -⟩ := Move.start.inj who
    exact ⟨⟨behind, others⟩, hworld⟩
  | turns who => cases who
  | dropped who => cases who

/-- A caller is served when the dictionary is known. -/
theorem Stands.served (hs : Stands ((callers store).run world moves) id handle .asking)
    (hknown : ((callers store).run world moves).system.world.handles.find? handle =
      some .resolved) :
    ((callers store).run world (moves ++ [.call id])).result? id = some (.ok ()) := by
  obtain ⟨stand, hadvanced, hturn⟩ := hs.exists_advanced (by simp) (by simp [hknown])
  cases hturn with
  | served =>
    obtain ⟨-, context, htask, -⟩ := stands_iff.1 hadvanced.stands
    rw [History.result?, htask]
    rfl
  | chosen reply => exact absurd (hknown.symm.trans reply.find?_of_mine) (by simp)

/-- A caller that waits stays so while another advances. -/
theorem Advanced.waits {more : List (Move Handle)} {id' : TaskId}
    (ha : Advanced store world moves more handle id' stand) (hid : id ≠ id')
    (hs : Stands ((callers store).run world moves) id handle .asking) :
    Stands ((callers store).run world (moves ++ more)) id handle .asking :=
  (ha.others id hid).trans hs

/-- A caller that comes when nobody is on a lookup looks the dictionary up. If the store fails, less
is planned to fail than before. -/
theorem exists_ended_of_free
    (hfree : ((callers store).run world moves).system.world.handles.find? handle = none) :
    ∃ more stand,
      Advanced store world moves more handle ((callers store).run world moves).jobs.length stand ∧
      Ended store world (moves ++ more) handle
        (dueLookups ((callers store).run world moves).system.world handle) := by
  obtain ⟨hstarted, hworld⟩ := started_run store world moves handle false .never
  obtain ⟨stand, hcalled, hturn⟩ := hstarted.stands.exists_advanced (by simp)
    (by rw [hworld, hfree]; simp)
  -- The handle is free, so the caller is chosen.
  cases hturn with
  | served reply =>
    have hknown := reply.find?_of_resolved
    rw [hworld, hfree] at hknown
    exact absurd hknown (by simp)
  | chosen reply hhandles hdue =>
    obtain ⟨more, stand, hadvanced, hended⟩ := hcalled.stands.exists_ended_of_chosen
    refine ⟨_, stand, hstarted.trans (hcalled.trans hadvanced), ?_⟩
    rw [hdue, hworld] at hended
    rw [← List.append_assoc, ← List.append_assoc]
    exact hended

/-- **Callers that come one after another find the dictionary** if nobody is on a lookup, while
another caller waits. -/
theorem exists_resolved (hs : Stands ((callers store).run world moves) id handle .asking)
    {due : Nat} (he : Ended store world moves handle due) :
    ∃ more, Stands ((callers store).run world (moves ++ more)) id handle .asking ∧
      ((callers store).run world (moves ++ more)).system.world.handles.find? handle =
        some .resolved := by
  induction due generalizing moves with
  | zero =>
    rcases he with hknown | ⟨-, hlt⟩
    · exact ⟨[], by rwa [List.append_nil], by rwa [List.append_nil]⟩
    · exact absurd hlt (Nat.not_lt_zero _)
  | succ due ih =>
    rcases he with hknown | ⟨hfree, hlt⟩
    · exact ⟨[], by rwa [List.append_nil], by rwa [List.append_nil]⟩
    · -- Another caller comes and looks the dictionary up.
      obtain ⟨more, stand, hadvanced, hended⟩ := exists_ended_of_free hfree
      have hnew : id ≠ ((callers store).run world moves).jobs.length := by
        obtain ⟨job, hjob, -⟩ := Option.map_eq_some_iff.1 (stands_iff.1 hs).1
        exact Nat.ne_of_lt (List.getElem?_eq_some_iff.1 hjob).1
      obtain ⟨later, hwaits, hknown⟩ := ih (hadvanced.waits hnew hs)
        (hended.mono (Nat.le_of_lt_succ hlt))
      rw [List.append_assoc] at hwaits hknown
      exact ⟨_, hwaits, hknown⟩

/-- **A caller that waits can be served.** -/
theorem exists_served (hnew : world.handles.find? handle = none)
    (hs : Stands ((callers store).run world moves) id handle .asking) :
    ∃ more, ((callers store).run world (moves ++ more)).result? id = some (.ok ()) := by
  -- The caller that is on a lookup, if there is one, comes to its end first.
  have hended : ∃ more due, Stands ((callers store).run world (moves ++ more)) id handle .asking ∧
      Ended store world (moves ++ more) handle due := by
    have hf := fits_run store hnew moves
    cases hstate : ((callers store).run world moves).system.world.handles.find? handle with
    | none =>
      refine ⟨[], dueLookups ((callers store).run world moves).system.world handle + 1, ?_⟩
      rw [List.append_nil]
      exact ⟨hs, .inr ⟨hstate, Nat.lt_succ_self _⟩⟩
    | some state =>
      cases state with
      | resolved =>
        refine ⟨[], 0, ?_⟩
        rw [List.append_nil]
        exact ⟨hs, .inl hstate⟩
      | resolving =>
        rw [hstate] at hf
        obtain ⟨-, who, hwho⟩ := hf
        have hon := (hwho who).2 rfl
        obtain ⟨stand, hstands, hresolving⟩ :=
          (allStand_run store world moves).exists_stands hon
        obtain ⟨more, stand', hadvanced, due, hended⟩ := hstands.exists_ended hresolving
        have hid : id ≠ who := by
          rintro rfl
          exact absurd (hs.isOn_iff.1 hon) (by simp [Stand.resolving])
        exact ⟨more, due, hadvanced.waits hid hs, hended⟩
  obtain ⟨more, due, hwaits, hended⟩ := hended
  obtain ⟨later, hwaits', hknown⟩ := exists_resolved hwaits hended
  have hserved := hwaits'.served hknown
  rw [List.append_assoc, List.append_assoc] at hserved
  exact ⟨_, hserved⟩

end Handle

end Muster
