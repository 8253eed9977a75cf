import Muster.Proofs.Handle.Callers

/-!
# Lookups of a dictionary

A lookup of a dictionary starts when a caller is told to look it up, and it is under way until the
caller has said whether the dictionary was found or has been dropped. In a run that begins with a
handle which nobody has used, the state of the handle tells exactly what has happened (`Fits`):
either no lookup is under way and none has succeeded, or one caller is on a lookup and none has
succeeded, or one has succeeded and none is under way. Every move keeps this (`fits_run`).
-/

namespace Muster

namespace Setting

variable {ι ρ : Type} {h : History ι ρ} {id : TaskId} {handle : Handle}

/-- Who is to look a dictionary up is the first to use its handle. -/
theorem IsAnswered.find?_of_mine (hmine : IsAnswered h id (.claim handle) .mine) :
    h.system.world.handles.find? handle = none := by
  obtain ⟨context, go, -, hreply⟩ := hmine
  cases hfound : h.system.world.handles.find? handle with
  | none => rfl
  | some state =>
    rw [World.perform, hfound] at hreply
    cases state with
    | resolving => exact absurd hreply (by simp)
    | resolved => exact absurd hreply (by simp)

/-- Who is served uses a handle whose dictionary is known. -/
theorem IsAnswered.find?_of_resolved (hserved : IsAnswered h id (.claim handle) .resolved) :
    h.system.world.handles.find? handle = some .resolved := by
  obtain ⟨context, go, -, hreply⟩ := hserved
  cases hfound : h.system.world.handles.find? handle with
  | none =>
    rw [World.perform, hfound] at hreply
    exact absurd hreply (by simp)
  | some state =>
    rw [World.perform, hfound] at hreply
    cases state with
    | resolving => exact absurd hreply (by simp)
    | resolved => rfl

end Setting

namespace Handle

open Setting (IsAnswered)

variable {store : String} {world : World} {handle handle' : Handle} {moves : List (Move Handle)}
  {move : Move Handle} {id id' : TaskId} {n n' : Nat} {h h' : Calls} {stand stand' : Stand}

/-! ## What is seen of lookups -/

/-- With the `n`-th move a lookup of the dictionary starts: its caller is told to look it up. -/
def Starts (store : String) (world : World) (moves : List (Move Handle)) (handle : Handle)
    (n : Nat) (id : TaskId) : Prop :=
  (callers store).WasAnswered world moves n id (.claim handle) .mine

/-- With the `n`-th move a lookup of the dictionary ends: its caller says whether the dictionary was
found. -/
def Settles (store : String) (world : World) (moves : List (Move Handle)) (handle : Handle)
    (isFound : Bool) (n : Nat) (id : TaskId) : Prop :=
  (callers store).WasAnswered world moves n id (.settle handle isFound) ()

/-- With the `n`-th move a caller asks the store for the dictionary, and the store fails if there is
a message. -/
def Asks (store : String) (world : World) (moves : List (Move Handle)) (handle : Handle)
    (failure? : Option String) (n : Nat) (id : TaskId) : Prop :=
  (callers store).WasAnswered world moves n id (.attempt handle.store .resolve) failure?

/-- With the `n`-th move a caller is told that the dictionary is known. -/
def IsServed (store : String) (world : World) (moves : List (Move Handle)) (handle : Handle)
    (n : Nat) (id : TaskId) : Prop :=
  (callers store).WasAnswered world moves n id (.claim handle) .resolved

/-- The lookup of a caller has started, and since then the caller has neither said whether the
dictionary was found nor been dropped. -/
def IsUnderWay (store : String) (world : World) (moves : List (Move Handle)) (handle : Handle)
    (id : TaskId) : Prop :=
  ∃ n, Starts store world moves handle n id ∧ ∀ m, n < m →
    moves[m]? ≠ some (.abandon id) ∧ ∀ isFound, ¬ Settles store world moves handle isFound m id

/-- A lookup is under way behind one more move if it starts with it, or if it was under way and the
move does not end it. -/
theorem isUnderWay_concat : IsUnderWay store world (moves ++ [move]) handle id ↔
    (move = .call id ∧ IsAnswered ((callers store).run world moves) id (.claim handle) .mine) ∨
      IsUnderWay store world moves handle id ∧ move ≠ .abandon id ∧
        ∀ isFound, ¬ (move = .call id ∧
          IsAnswered ((callers store).run world moves) id (.settle handle isFound) ()) := by
  constructor
  -- A lookup under way was started before, or it is started by the last move.
  · rintro ⟨n, hstarts, hbehind⟩
    rcases Setting.wasAnswered_concat.1 hstarts with hold | ⟨-, hlast⟩
    · have hon : IsUnderWay store world moves handle id := by
        refine ⟨n, hold, fun m hm => ⟨fun habandon => ?_, fun isFound hsettles => ?_⟩⟩
        · have hlt := (List.getElem?_eq_some_iff.1 habandon).1
          exact (hbehind m hm).1 (by rw [List.getElem?_append_left hlt, habandon])
        · exact (hbehind m hm).2 isFound (hsettles.concat move)
      have hnow := hbehind moves.length hold.lt
      refine .inr ⟨hon, fun habandon => ?_, fun isFound hsettles => ?_⟩
      · subst habandon
        exact hnow.1 List.getElem?_concat_length
      · exact hnow.2 isFound (Setting.wasAnswered_concat.2 (.inr ⟨rfl, hsettles⟩))
    · exact .inl hlast
  · rintro (hlast | ⟨⟨n, hstarts, hbehind⟩, habandon, hsettles⟩)
    -- The last move starts it, and nothing has happened behind that.
    · refine ⟨moves.length, Setting.wasAnswered_concat.2 (.inr ⟨rfl, hlast⟩), fun m hm => ?_⟩
      have hlength : (moves ++ [move]).length ≤ m := by
        rw [List.length_append, List.length_singleton]
        exact hm
      refine ⟨fun hfound => ?_, fun isFound hlate => absurd hlate.lt (Nat.not_lt.2 hlength)⟩
      rw [List.getElem?_eq_none hlength] at hfound
      exact absurd hfound (by simp)
    -- It was under way before, and the last move neither drops nor settles it.
    · refine ⟨n, hstarts.concat move, fun m hm => ⟨fun hfound => ?_, fun isFound hlate => ?_⟩⟩
      · rcases getElem?_concat_cases hfound with ⟨-, hmove⟩ | ⟨-, hold⟩
        · exact habandon hmove.symm
        · exact (hbehind m hm).1 hold
      · rcases Setting.wasAnswered_concat.1 hlate with hold | ⟨-, hlast⟩
        · exact (hbehind m hm).2 isFound hold
        · exact hsettles isFound hlast

/-- A move that does not concern the caller leaves its lookup as it is. -/
theorem isUnderWay_concat_of_silent
    (hsilent : ∀ c reply, move = .call id →
      ¬ IsAnswered ((callers store).run world moves) id c reply)
    (hkept : IsUnderWay store world moves handle id → move ≠ .abandon id) :
    IsUnderWay store world (moves ++ [move]) handle id ↔
      IsUnderWay store world moves handle id := by
  rw [isUnderWay_concat]
  constructor
  · rintro (⟨hmove, hmine⟩ | ⟨hon, -⟩)
    · exact absurd hmine (hsilent _ _ hmove)
    · exact hon
  · exact fun hon => .inr ⟨hon, hkept hon, fun isFound ⟨hmove, hsettles⟩ =>
      hsilent _ _ hmove hsettles⟩

/-! ## Who is on a lookup -/

/-- A caller is on a lookup of the dictionary. -/
def IsOn (h : Calls) (id : TaskId) (handle : Handle) : Prop :=
  ∃ what program, h.caller? id = some (what, program, some handle)

/-- Whether a caller is on a lookup can be told from what the caller is at. -/
theorem isOn_congr (hsame : h'.caller? id = h.caller? id) :
    IsOn h' id handle ↔ IsOn h id handle := by
  unfold IsOn
  rw [hsame]

/-- A caller that is not there is on no lookup. -/
theorem not_isOn_of_none (hnone : h.caller? id = none) : ¬ IsOn h id handle := by
  rintro ⟨what, program, hcaller⟩
  exact absurd (hnone.symm.trans hcaller) (by simp)

/-- A caller resolves no handle but the one that it was started for. -/
theorem Stand.resolving_eq_some (hresolving : stand.resolving handle' = some handle) :
    handle' = handle := by
  cases stand with
  | asking => exact absurd hresolving (by simp [Stand.resolving])
  | returned result => exact absurd hresolving (by simp [Stand.resolving])
  | _ => exact Option.some.inj hresolving

/-- Whether a caller is on a lookup can be told from where it stands. -/
theorem Stands.isOn_iff (hs : Stands h id handle' stand) :
    IsOn h id handle ↔ stand.resolving handle' = some handle := by
  constructor
  · rintro ⟨what, program, hcaller⟩
    obtain ⟨rfl, hrest⟩ := Prod.mk.inj (Option.some.inj (hs.symm.trans hcaller))
    exact (Prod.mk.inj hrest).2
  · intro hresolving
    exact ⟨handle', stand.rest handle', by rw [← hresolving]; exact hs⟩

/-- A caller of another handle is not on a lookup. -/
theorem Stands.not_isOn_of_ne (hs : Stands h id handle' stand) (hne : handle ≠ handle') :
    ¬ IsOn h id handle := fun hon =>
  hne (Stand.resolving_eq_some (hs.isOn_iff.1 hon)).symm

/-- Who is on a lookup of the dictionary is a caller of its handle. -/
theorem AllStand.exists_stands (hall : AllStand h) (hon : IsOn h id handle) :
    ∃ stand, Stands h id handle stand ∧ stand.resolving handle = some handle := by
  obtain ⟨what, program, hcaller⟩ := hon
  obtain ⟨job, -, hfound⟩ := Option.bind_eq_some_iff.1 hcaller
  obtain ⟨task, htask, -⟩ := Option.map_eq_some_iff.1 hfound
  obtain ⟨handle', stand, hstand⟩ := hall id task htask
  have hresolving := hstand.isOn_iff.1 ⟨what, program, hcaller⟩
  obtain rfl := Stand.resolving_eq_some hresolving
  exact ⟨stand, hstand, hresolving⟩

/-- A caller that has just been started is on no lookup. -/
theorem isOn_started {new : TaskId} (hnew : h.caller? new = none)
    (hbehind : Stands h' new handle' .asking)
    (hothers : ∀ id, id ≠ new → h'.caller? id = h.caller? id) :
    IsOn h' id handle ↔ IsOn h id handle := by
  by_cases hid : id = new
  · subst hid
    refine iff_of_false (fun hon => ?_) (not_isOn_of_none hnew)
    exact absurd (hbehind.isOn_iff.1 hon) (by simp [Stand.resolving])
  · exact isOn_congr (hothers id hid)

/-- A caller that is told to look a dictionary up is chosen. -/
theorem Turn.isAnswered_mine_iff (turn : Turn h h' id handle' stand stand') :
    IsAnswered h id (.claim handle) .mine ↔ handle = handle' ∧ stand' = .chosen := by
  constructor
  · intro hmine
    cases turn with
    | chosen reply => exact ⟨Call.claim.inj (Sigma.mk.inj (hmine.unique reply)).1, rfl⟩
    | served reply => cases hmine.unique reply
    | told reply => cases hmine.unique reply
    | tried reply => cases hmine.unique reply
    | settled reply => cases hmine.unique reply
  · rintro ⟨rfl, rfl⟩
    cases turn with
    | chosen reply => exact reply

/-- A caller that says whether a dictionary was found has asked the store for it. -/
theorem Turn.isAnswered_settle_iff (turn : Turn h h' id handle' stand stand') {isFound : Bool} :
    IsAnswered h id (.settle handle isFound) () ↔
      handle = handle' ∧ ∃ failure?, stand = .tried failure? ∧ isFound = failure?.isNone := by
  constructor
  · intro hsettles
    -- Of all turns only the one behind the store settles.
    cases turn with
    | @settled failure? reply =>
      obtain ⟨hhandle, hfound⟩ := Call.settle.inj (Sigma.mk.inj (hsettles.unique reply)).1
      exact ⟨hhandle, failure?, rfl, hfound⟩
    | served reply => cases hsettles.unique reply
    | chosen reply => cases hsettles.unique reply
    | told reply => cases hsettles.unique reply
    | tried reply => cases hsettles.unique reply
  · rintro ⟨rfl, failure?, rfl, rfl⟩
    cases turn with
    | settled reply => exact reply

/-- **A lookup is under way exactly as long as its caller is on it.** -/
theorem isUnderWay_iff_isOn (store : String) (world : World) (moves : List (Move Handle))
    (handle : Handle) (id : TaskId) : IsUnderWay store world moves handle id ↔
      IsOn ((callers store).run world moves) id handle := by
  induction moves using List.reverseRecOn with
  | nil =>
    refine iff_of_false ?_ ?_
    · rintro ⟨n, hstarts, -⟩
      exact absurd hstarts.lt (Nat.not_lt_zero n)
    · exact not_isOn_of_none rfl
  | append_singleton moves move ih =>
    cases goes_run store world moves move with
    | still same handles silent kept =>
      rw [isUnderWay_concat_of_silent (fun c reply hmove => silent hmove c reply), ih,
        isOn_congr (same id)]
      -- Who stays as it is has not moved, so nothing ends its lookup.
      intro hunderWay hmove
      obtain ⟨stand, hstand, hresolving⟩ :=
        (allStand_run store world moves).exists_stands (ih.1 hunderWay)
      exact absurd ((kept hmove hstand).symm.trans hresolving) (by simp)
    | started who new behind others =>
      subst who
      rw [isUnderWay_concat_of_silent (fun c reply hmove => absurd hmove (by simp))
        (fun _ => by simp), ih, isOn_started new behind others]
    | @turns id' handle' stand stand' who before behind others turn =>
      subst who
      by_cases hid : id = id'
      · subst hid
        -- Whether it is on a lookup can be read off its turn.
        simp only [isUnderWay_concat, ih, true_and, before.isOn_iff, behind.isOn_iff,
          turn.isAnswered_mine_iff, turn.isAnswered_settle_iff]
        cases turn with
        | served => simp [Stand.resolving]
        | chosen => simp [Stand.resolving, eq_comm]
        | told => simp [Stand.resolving]
        | tried => simp [Stand.resolving]
        | settled => simp [Stand.resolving, eq_comm]
      -- Another caller than the one that has moved is where it was.
      · have hsilent : (Move.call id' : Move Handle) ≠ .call id :=
          fun hmove => hid (Move.call.inj hmove).symm
        rw [isUnderWay_concat_of_silent (fun c reply hmove => absurd hmove hsilent)
          (fun _ => by simp), ih, isOn_congr (others id hid)]
    | @dropped id' handle' stand who before behind others handles =>
      subst who
      by_cases hid : id = id'
      · subst hid
        -- The one that was dropped is gone, and its lookup with it.
        rw [isUnderWay_concat]
        refine iff_of_false ?_ (not_isOn_of_none behind)
        rintro (⟨hmove, -⟩ | ⟨-, hmove, -⟩)
        · exact absurd hmove (by simp)
        · exact hmove rfl
      · have hkept : (Move.abandon id' : Move Handle) ≠ .abandon id := fun hmove =>
          hid (Move.abandon.inj hmove).symm
        rw [isUnderWay_concat_of_silent (fun c reply hmove => absurd hmove (by simp))
          (fun _ => hkept), ih, isOn_congr (others id hid)]

/-! ## What the state of a handle tells -/

/-- What has happened to the lookups of a dictionary when its handle is in a state. -/
def Fits (store : String) (world : World) (moves : List (Move Handle)) (handle : Handle) :
    Option HandleState → Prop
  | none => (∀ n id, ¬ Settles store world moves handle true n id) ∧
    ∀ id, ¬ IsOn ((callers store).run world moves) id handle
  | some .resolving => (∀ n id, ¬ Settles store world moves handle true n id) ∧
    ∃ id, ∀ id', IsOn ((callers store).run world moves) id' handle ↔ id' = id
  | some .resolved => (∃ n id, Settles store world moves handle true n id) ∧
    ∀ id, ¬ IsOn ((callers store).run world moves) id handle

/-- A move that says nothing of the dictionary and leaves the lookups as they are. -/
theorem Fits.concat {state : Option HandleState} (hf : Fits store world moves handle state)
    (hon : ∀ id, IsOn ((callers store).run world (moves ++ [move])) id handle ↔
      IsOn ((callers store).run world moves) id handle)
    (hsilent : ∀ id, move = .call id →
      ¬ IsAnswered ((callers store).run world moves) id (.settle handle true) ()) :
    Fits store world (moves ++ [move]) handle state := by
  -- Who has not settled before the last move and does not settle with it has not settled.
  have hnever : (∀ n id, ¬ Settles store world moves handle true n id) →
      ∀ n id, ¬ Settles store world (moves ++ [move]) handle true n id := by
    intro hnone n id hsettles
    rcases Setting.wasAnswered_concat.1 hsettles with hold | ⟨-, hmove, hlast⟩
    · exact hnone n id hold
    · exact hsilent id hmove hlast
  rcases state with - | - | -
  · exact ⟨hnever hf.1, fun id => mt (hon id).1 (hf.2 id)⟩
  · obtain ⟨hnone, who, hwho⟩ := hf
    exact ⟨hnever hnone, who, fun id => (hon id).trans (hwho id)⟩
  · obtain ⟨⟨n, id, hsettles⟩, hnobody⟩ := hf
    exact ⟨⟨n, id, hsettles.concat move⟩, fun id => mt (hon id).1 (hnobody id)⟩

/-- As long as a caller is on a lookup, the dictionary is not known. -/
theorem Fits.eq_resolving {state : Option HandleState} (hf : Fits store world moves handle state)
    (hon : IsOn ((callers store).run world moves) id handle) : state = some .resolving := by
  rcases state with - | - | -
  · exact absurd hon (hf.2 id)
  · rfl
  · exact absurd hon (hf.2 id)

/-- The answer to a caller leaves the handles of others as they are. -/
theorem Turn.find?_of_ne (turn : Turn h h' id handle' stand stand') (hne : handle ≠ handle') :
    h'.system.world.handles.find? handle = h.system.world.handles.find? handle := by
  cases turn with
  | served reply hworld => rw [hworld]
  | chosen reply handles => rw [handles, SortedMap.find?_insert_of_ne _ _ hne]
  | told reply handles => rw [handles]
  | tried reply handles => rw [handles]
  | settled reply hworld => rw [hworld, World.find?_settle_of_ne _ _ hne]

/-- The answer to a caller of the handle. -/
theorem Fits.turn
    (hf : Fits store world moves handle
      (((callers store).run world moves).system.world.handles.find? handle))
    (before : Stands ((callers store).run world moves) id handle stand)
    (behind : Stands ((callers store).run world (moves ++ [.call id])) id handle stand')
    (others : ∀ id', id' ≠ id → ((callers store).run world (moves ++ [.call id])).caller? id' =
      ((callers store).run world moves).caller? id')
    (turn : Turn ((callers store).run world moves)
      ((callers store).run world (moves ++ [.call id])) id handle stand stand') :
    Fits store world (moves ++ [.call id]) handle
      (((callers store).run world (moves ++ [.call id])).system.world.handles.find? handle) := by
  -- Nobody but the caller comes to a lookup or leaves one.
  have hon : stand'.resolving handle = stand.resolving handle →
      ∀ id', IsOn ((callers store).run world (moves ++ [.call id])) id' handle ↔
        IsOn ((callers store).run world moves) id' handle := by
    intro hsame id'
    by_cases hid : id' = id
    · subst hid
      rw [behind.isOn_iff, before.isOn_iff, hsame]
    · exact isOn_congr (others id' hid)
  have hquiet : (∀ failure?, stand ≠ .tried failure?) → ∀ id',
      (Move.call id : Move Handle) = .call id' →
        ¬ IsAnswered ((callers store).run world moves) id' (.settle handle true) () := by
    intro hnot id' hmove hsettles
    obtain rfl := Move.call.inj hmove
    obtain ⟨-, failure?, hstand, -⟩ := turn.isAnswered_settle_iff.1 hsettles
    exact hnot failure? hstand
  cases turn with
  | served reply hworld =>
    rw [hworld]
    exact hf.concat (hon rfl) (hquiet fun failure? => by simp)
  | told reply handles =>
    rw [handles]
    exact hf.concat (hon rfl) (hquiet fun failure? => by simp)
  | tried reply handles =>
    rw [handles]
    exact hf.concat (hon rfl) (hquiet fun failure? => by simp)
  | chosen reply handles =>
    rw [reply.find?_of_mine] at hf
    rw [handles, SortedMap.find?_insert_self]
    refine ⟨fun n id' hsettles => ?_, id, fun id' => ?_⟩
    · rcases Setting.wasAnswered_concat.1 hsettles with hold | ⟨-, hmove, hlast⟩
      · exact hf.1 n id' hold
      · exact hquiet (fun failure? => by simp) id' hmove hlast
    · by_cases hid : id' = id
      · subst hid
        exact iff_of_true (behind.isOn_iff.2 rfl) rfl
      · exact iff_of_false (fun hon' => hf.2 id' ((isOn_congr (others id' hid)).1 hon')) hid
  | @settled failure? reply hworld =>
    have hbefore : IsOn ((callers store).run world moves) id handle := before.isOn_iff.2 rfl
    rw [hf.eq_resolving hbefore] at hf
    obtain ⟨hnone, who, hwho⟩ := hf
    obtain rfl := (hwho id).1 hbefore
    have hnobody : ∀ id', ¬ IsOn ((callers store).run world (moves ++ [.call id])) id' handle := by
      intro id' hon'
      by_cases hid : id' = id
      · subst hid
        exact absurd (behind.isOn_iff.1 hon') (by simp [Stand.resolving])
      · exact hid ((hwho id').1 ((isOn_congr (others id' hid)).1 hon'))
    rw [hworld, World.find?_settle_self]
    cases failure? with
    | none =>
      exact ⟨⟨moves.length, id, Setting.wasAnswered_concat.2 (.inr ⟨rfl, rfl, reply⟩)⟩, hnobody⟩
    | some message =>
      refine ⟨fun n id' hsettles => ?_, hnobody⟩
      rcases Setting.wasAnswered_concat.1 hsettles with hold | ⟨-, hmove, hlast⟩
      · exact hnone n id' hold
      · obtain rfl := Move.call.inj hmove
        have hfound := (Call.settle.inj (Sigma.mk.inj (reply.unique hlast)).1).2
        exact absurd hfound (by simp)

/-- A caller that is dropped while it is on a lookup ends it without a result: the handle is as if
nobody had used it. -/
theorem Fits.abandoned (hf : Fits store world moves handle (some .resolving))
    (hon : IsOn ((callers store).run world moves) id handle)
    (behind : ((callers store).run world (moves ++ [.abandon id])).caller? id = none)
    (others : ∀ id', id' ≠ id → ((callers store).run world (moves ++ [.abandon id])).caller? id' =
      ((callers store).run world moves).caller? id') :
    Fits store world (moves ++ [.abandon id]) handle none := by
  obtain ⟨hnone, who, hwho⟩ := hf
  -- The one that was dropped was the only one on the lookup.
  obtain rfl := (hwho id).1 hon
  refine ⟨fun n id' hsettles => ?_, fun id' hon' => ?_⟩
  · rcases Setting.wasAnswered_concat.1 hsettles with hold | ⟨-, hmove, -⟩
    · exact hnone n id' hold
    · exact absurd hmove (by simp)
  · by_cases hid : id' = id
    · subst hid
      exact not_isOn_of_none behind hon'
    · exact hid ((hwho id').1 ((isOn_congr (others id' hid)).1 hon'))

/-- **The state of a handle tells what has happened to its lookups.** -/
theorem fits_run (store : String) (hnew : world.handles.find? handle = none)
    (moves : List (Move Handle)) :
    Fits store world moves handle
      (((callers store).run world moves).system.world.handles.find? handle) := by
  induction moves using List.reverseRecOn with
  | nil =>
    have hstate : ((callers store).run world []).system.world.handles.find? handle = none := hnew
    rw [hstate]
    exact ⟨fun n id hsettles => absurd hsettles.lt (Nat.not_lt_zero n),
      fun id => not_isOn_of_none rfl⟩
  | append_singleton moves move ih =>
    cases goes_run store world moves move with
    | still same handles silent kept =>
      rw [handles]
      exact ih.concat (fun id => isOn_congr (same id)) fun id hmove => silent hmove _ _
    | started who new behind others hworld =>
      rw [hworld]
      refine ih.concat (fun id => isOn_started new behind others) fun id hmove => ?_
      exact absurd (who.symm.trans hmove) (by simp)
    | @turns id' handle' stand stand' who before behind others turn =>
      subst who
      by_cases hhandle : handle' = handle
      · subst hhandle
        exact ih.turn before behind others turn
      · -- The move concerns a caller of another handle.
        rw [turn.find?_of_ne (Ne.symm hhandle)]
        refine ih.concat (fun id => ?_) fun id hmove hsettles => ?_
        · by_cases hid : id = id'
          · subst hid
            exact iff_of_false (behind.not_isOn_of_ne (Ne.symm hhandle))
              (before.not_isOn_of_ne (Ne.symm hhandle))
          · exact isOn_congr (others id hid)
        · obtain rfl := Move.call.inj hmove
          exact hhandle (turn.isAnswered_settle_iff.1 hsettles).1.symm
    | @dropped id' handle' stand who before behind others handles =>
      subst who
      by_cases hon : IsOn ((callers store).run world moves) id' handle
      · have hresolving := before.isOn_iff.1 hon
        obtain rfl := Stand.resolving_eq_some hresolving
        rw [ih.eq_resolving hon] at ih
        rw [handles, hresolving]
        dsimp only
        rw [SortedMap.find?_erase_self]
        exact ih.abandoned hon behind others
      · have hsame :
            ((callers store).run world (moves ++ [.abandon id'])).system.world.handles.find? handle =
              ((callers store).run world moves).system.world.handles.find? handle := by
          rw [handles]
          cases hresolving : stand.resolving handle' with
          | none => rfl
          | some handle'' =>
            obtain rfl := Stand.resolving_eq_some hresolving
            refine SortedMap.find?_erase_of_ne _ fun heq => hon ?_
            rw [before.isOn_iff, hresolving, heq]
        rw [hsame]
        refine ih.concat (fun id => ?_) fun id hmove => absurd hmove (by simp)
        by_cases hid : id = id'
        · subst hid
          exact iff_of_false (not_isOn_of_none behind) hon
        · exact isOn_congr (others id hid)

end Handle

end Muster
