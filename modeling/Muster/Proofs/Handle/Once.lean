import Muster.Proofs.Handle.Recovery

/-!
# A dictionary is looked up once

Any number of callers use one handle, at once or one after another, in any interleaving; lookups may
fail, and callers may be dropped while they wait and while they look the dictionary up. Even so at
most one lookup is under way at any time, at most one ever succeeds, none starts behind it, and what
callers return is borne out by it or by their own failure (`resolved_once`). A lookup that has
failed or was dropped leaves nothing behind: whoever waits or comes later can still be served.

What callers have returned is borne out (`borneOut_run`) because every stand that a caller gets to
is. For the last part, callers that come one after another look the dictionary up until one of them
succeeds, which uses up what is planned to fail (`exists_resolved`).
-/

namespace Muster

namespace Handle

open Setting (IsAnswered)

variable {store : String} {world : World} {handle handle' : Handle} {moves : List (Move Handle)}
  {move : Move Handle} {id id' : TaskId} {n n' : Nat} {h h' : Calls} {stand stand' : Stand}

/-! ## What bears callers out -/

/-- What has happened when a caller stands where it stands: if it has asked the store, this has
answered; if it has returned a dictionary, that is the one that was found, by itself or before it
was told so; and if it has failed, the store has failed when it asked itself. -/
def BorneOut (store : String) (world : World) (moves : List (Move Handle)) (handle : Handle)
    (id : TaskId) : Stand → Prop
  | .tried failure? => ∃ n, Asks store world moves handle failure? n id
  | .returned (.ok ()) => ∃ n owner, Settles store world moves handle true n owner ∧
    (owner = id ∨ ∃ m, n < m ∧ IsServed store world moves handle m id)
  | .returned (.error failure) => ∃ n message, Asks store world moves handle (some message) n id ∧
    failure = .store (.planned message)
  | _ => True

/-- What has happened has happened also when more has. -/
theorem BorneOut.concat (move : Move Handle) (hb : BorneOut store world moves handle id stand) :
    BorneOut store world (moves ++ [move]) handle id stand := by
  -- What is borne out by an answer is borne out by the same answer later.
  cases stand with
  | asking => exact trivial
  | chosen => exact trivial
  | trying => exact trivial
  | tried failure? =>
    obtain ⟨n, hasks⟩ := hb
    exact ⟨n, hasks.concat move⟩
  | returned result =>
    cases result with
    | error failure =>
      obtain ⟨n, message, hasks, hfailure⟩ := hb
      exact ⟨n, message, hasks.concat move, hfailure⟩
    | ok found =>
      obtain ⟨n, owner, hsettles, hserved⟩ := hb
      refine ⟨n, owner, hsettles.concat move, hserved.imp_right fun ⟨m, hm, hserved⟩ => ?_⟩
      exact ⟨m, hm, hserved.concat move⟩

/-- The answer to its call bears out where the caller gets to. -/
theorem BorneOut.turn (hb : BorneOut store world moves handle id stand)
    (hf : Fits store world moves handle
      (((callers store).run world moves).system.world.handles.find? handle))
    (turn : Turn ((callers store).run world moves) h' id handle stand stand') :
    BorneOut store world (moves ++ [.call id]) handle id stand' := by
  -- The answer of this turn is the last one of the run.
  have hlast : ∀ {c : Call} {reply : c.Reply},
      IsAnswered ((callers store).run world moves) id c reply →
      (callers store).WasAnswered world (moves ++ [.call id]) moves.length id c reply :=
    fun hreply => Setting.wasAnswered_concat.2 (.inr ⟨rfl, rfl, hreply⟩)
  cases turn with
  | served reply =>
    -- The dictionary was known, so somebody has settled it before.
    rw [reply.find?_of_resolved] at hf
    obtain ⟨⟨n, owner, hsettles⟩, -⟩ := hf
    exact ⟨n, owner, hsettles.concat _, .inr ⟨moves.length, hsettles.lt, hlast reply⟩⟩
  | chosen => exact trivial
  | told => exact trivial
  | tried reply => exact ⟨moves.length, hlast reply⟩
  | @settled failure? reply =>
    cases failure? with
    | none => exact ⟨moves.length, id, hlast reply, .inl rfl⟩
    | some message =>
      obtain ⟨n, hasks⟩ := hb
      exact ⟨n, message, hasks.concat _, rfl⟩

/-- **Every caller is borne out.** -/
theorem borneOut_run (hnew : world.handles.find? handle = none) (moves : List (Move Handle))
    (hs : Stands ((callers store).run world moves) id handle stand) :
    BorneOut store world moves handle id stand := by
  induction moves using List.reverseRecOn generalizing stand with
  | nil => exact absurd hs (by simp [Stands, History.caller?, Setting.run, Setting.begin])
  | append_singleton moves move ih =>
    -- Who is where it was is borne out as it was.
    have hold : ((callers store).run world (moves ++ [move])).caller? id =
        ((callers store).run world moves).caller? id →
        BorneOut store world (moves ++ [move]) handle id stand :=
      fun hsame => (ih (hsame.symm.trans hs)).concat move
    cases goes_run store world moves move with
    | still same => exact hold (same id)
    | started who new behind others =>
      by_cases hid : id = ((callers store).run world moves).jobs.length
      · subst hid
        obtain rfl := hs.handle_eq behind
        obtain rfl := hs.stand_eq behind
        exact trivial
      · exact hold (others id hid)
    | @turns id' handle' before' behind' who before behind others turn =>
      subst who
      by_cases hid : id = id'
      · subst hid
        obtain rfl := hs.handle_eq behind
        obtain rfl := hs.stand_eq behind
        exact (ih before).turn (fits_run store hnew moves) turn
      · exact hold (others id hid)
    | @dropped id' handle' before' who before behind others =>
      by_cases hid : id = id'
      · subst hid
        exact absurd (behind.symm.trans hs) (by simp)
      · exact hold (others id hid)

/-! ## What a run shows of a handle -/

/-- A task was started to call for a dictionary by its handle. -/
def IsCaller (h : Calls) (id : TaskId) (handle : Handle) : Prop :=
  ∃ job, h.jobs[id]? = some job ∧ job.what = handle

/-- A caller has not been told yet whether the dictionary is known. -/
def Waits (h : Calls) (id : TaskId) (handle : Handle) : Prop :=
  ∃ go, h.program? id = some (.call (.claim handle) go)

/-- What a run shows of a handle that nobody used before. -/
structure IsResolvedOnce (store : String) (world : World) (moves : List (Move Handle))
    (handle : Handle) : Prop where
  /-- At most one lookup is under way. -/
  alone : ∀ {id id'}, IsUnderWay store world moves handle id →
    IsUnderWay store world moves handle id' → id = id'
  /-- The store is asked within lookups only. -/
  within : ∀ {n id failure?}, IsCaller ((callers store).run world moves) id handle →
    Asks store world moves handle failure? n id →
    IsUnderWay store world (moves.take n) handle id ∧
      IsUnderWay store world (moves.take (n + 1)) handle id
  /-- A lookup that ends has found the dictionary exactly if the store has not failed. -/
  asked : ∀ {n id isFound}, Settles store world moves handle isFound n id →
    ∃ m failure?, m < n ∧ Asks store world moves handle failure? m id ∧ isFound = failure?.isNone
  /-- At most one lookup succeeds. -/
  once : ∀ {n id n' id'}, Settles store world moves handle true n id →
    Settles store world moves handle true n' id' → n = n' ∧ id = id'
  /-- None starts behind one that has succeeded. -/
  before : ∀ {n id n' id'}, Settles store world moves handle true n id →
    Starts store world moves handle n' id' → n' < n
  /-- A caller that returns a dictionary has that of the lookup that has succeeded: it was its own,
  or the caller was told behind it that the dictionary is known. -/
  served : ∀ {id}, IsCaller ((callers store).run world moves) id handle →
    ((callers store).run world moves).result? id = some (.ok ()) →
    ∃ n owner, Settles store world moves handle true n owner ∧
      (owner = id ∨ ∃ m, n < m ∧ IsServed store world moves handle m id)
  /-- A caller that fails has asked the store itself, and returns the failure of that. -/
  blamed : ∀ {id failure}, IsCaller ((callers store).run world moves) id handle →
    ((callers store).run world moves).result? id = some (.error failure) →
    ∃ n message, Asks store world moves handle (some message) n id ∧
      failure = .store (.planned message)
  /-- A caller that comes waits. -/
  later : ∀ isCancelled trigger,
    Waits ((callers store).run world (moves ++ [.start handle isCancelled trigger]))
      ((callers store).run world moves).jobs.length handle
  /-- If no lookup is under way and none has succeeded, a caller that waits starts one. -/
  free : ∀ {id}, Waits ((callers store).run world moves) id handle →
    (∀ id', ¬ IsUnderWay store world moves handle id') →
    (∀ n id', ¬ Settles store world moves handle true n id') →
    Starts store world (moves ++ [.call id]) handle moves.length id
  /-- A caller that waits can still be served. -/
  still : ∀ {id}, Waits ((callers store).run world moves) id handle →
    ∃ more, ((callers store).run world (moves ++ more)).result? id = some (.ok ())

/-- A caller with a result has returned. -/
theorem IsCaller.stands {result : Except Failure Unit}
    (hcaller : IsCaller ((callers store).run world moves) id handle)
    (hresult : ((callers store).run world moves).result? id = some result) :
    Stands ((callers store).run world moves) id handle (.returned result) := by
  obtain ⟨job, hjob, rfl⟩ := hcaller
  obtain ⟨task, htask, hdone⟩ := Option.map_eq_some_iff.1 (Setting.result?_eq_some_iff.1 hresult)
  obtain ⟨handle, stand, hs⟩ := allStand_run store world moves id task htask
  obtain ⟨hwhat, context, htask', -⟩ := stands_iff.1 hs
  rw [hjob] at hwhat
  obtain rfl := Option.some.inj hwhat
  obtain rfl := Option.some.inj (htask.symm.trans htask')
  have hsame : stand.rest job.what = (Stand.returned result).rest job.what := hdone
  rwa [Stand.rest_injective job.what hsame] at hs

/-- A caller that waits wants to know whether the dictionary is known. -/
theorem Waits.stands (hw : Waits ((callers store).run world moves) id handle) :
    Stands ((callers store).run world moves) id handle .asking := by
  obtain ⟨go, hprogram⟩ := hw
  obtain ⟨task, htask, hcall⟩ := Option.map_eq_some_iff.1 hprogram
  obtain ⟨handle', stand, hs⟩ := allStand_run store world moves id task htask
  obtain ⟨-, context, htask', -⟩ := stands_iff.1 hs
  obtain rfl := Option.some.inj (htask.symm.trans htask')
  cases stand with
  | asking =>
    have hrest : (Stand.asking.rest handle') = .call (.claim handle) go := hcall
    rw [Stand.rest, run_resolve] at hrest
    rwa [Call.claim.inj (Program.call.inj hrest).1] at hs
  | _ => exact absurd hcall (by simp [Stand.rest, lookup, settling])

/-- A caller that asks for the claim waits until it is given one. -/
theorem Stands.waits (hs : Stands h id handle .asking) : Waits h id handle := by
  obtain ⟨-, context, htask, -⟩ := stands_iff.1 hs
  refine ⟨handle.claimed, ?_⟩
  rw [History.program?_eq htask]
  exact congrArg some (run_resolve handle)

/-- What a task is to do does not change. -/
theorem IsCaller.of_prefix {front : List (Move Handle)} (hfront : front <+: moves)
    (hcaller : IsCaller ((callers store).run world front) id handle) :
    IsCaller ((callers store).run world moves) id handle := by
  obtain ⟨more, rfl⟩ := hfront
  induction more using List.reverseRecOn with
  | nil => rwa [List.append_nil]
  | append_singleton more move ih =>
    obtain ⟨job, hjob, hwhat⟩ := ih
    rw [← List.append_assoc, Setting.run_concat]
    obtain ⟨job', hjob', hsame⟩ := (callers store).exists_job_after move hjob
    exact ⟨job', hjob', hsame.trans hwhat⟩

/-- Whoever stands somewhere is a caller. -/
theorem Stands.isCaller (hs : Stands h id handle stand) : IsCaller h id handle := by
  obtain ⟨job, hjob, hwhat⟩ := Option.map_eq_some_iff.1 (stands_iff.1 hs).1
  exact ⟨job, hjob, hwhat⟩

/-- A caller is one of a single handle. -/
theorem IsCaller.handle_eq (hcaller : IsCaller h id handle) (hcaller' : IsCaller h id handle') :
    handle' = handle := by
  obtain ⟨job, hjob, rfl⟩ := hcaller
  obtain ⟨job', hjob', rfl⟩ := hcaller'
  rw [Option.some.inj (hjob.symm.trans hjob')]

/-- What the answer to a call has done to its caller. -/
theorem turn_of_wasAnswered {c : Call} {reply : c.Reply}
    (ha : (callers store).WasAnswered world moves n id c reply) :
    ∃ front handle stand stand', front ++ [.call id] <+: moves ∧ front.length = n ∧
      IsAnswered ((callers store).run world front) id c reply ∧
      Stands ((callers store).run world front) id handle stand ∧
      Stands ((callers store).run world (front ++ [.call id])) id handle stand' ∧
      Turn ((callers store).run world front) ((callers store).run world (front ++ [.call id])) id
        handle stand stand' := by
  obtain ⟨front, hfront, hlength, hreply⟩ := ha
  -- The call was answered, so the move was not without effect.
  cases goes_run store world front (.call id) with
  | still same handles silent => exact absurd hreply (silent rfl c reply)
  | started who => cases who
  | dropped who => cases who
  | turns who before behind others turn =>
    obtain rfl := Move.call.inj who
    exact ⟨front, _, _, _, hfront, hlength, hreply, before, behind, turn⟩

/-- The store is asked within lookups only. -/
theorem Asks.isUnderWay {failure? : Option String}
    (hcaller : IsCaller ((callers store).run world moves) id handle)
    (hasks : Asks store world moves handle failure? n id) :
    IsUnderWay store world (moves.take n) handle id ∧
      IsUnderWay store world (moves.take (n + 1)) handle id := by
  obtain ⟨front, handle', stand, stand', hfront, rfl, hreply, before, behind, turn⟩ :=
    turn_of_wasAnswered hasks
  obtain rfl := hcaller.handle_eq (behind.isCaller.of_prefix hfront)
  -- The moments around the answer are the runs without it and with it.
  have htake : moves.take front.length = front :=
    (List.prefix_iff_eq_take.1 ((List.prefix_append _ _).trans hfront)).symm
  have htake' : moves.take (front.length + 1) = front ++ [.call id] := by
    have hlength := (List.prefix_iff_eq_take.1 hfront).symm
    rwa [List.length_append, List.length_singleton] at hlength
  rw [htake, htake', isUnderWay_iff_isOn, isUnderWay_iff_isOn, before.isOn_iff, behind.isOn_iff]
  -- Only the call of the store is made at such a moment.
  cases turn with
  | tried => exact ⟨rfl, rfl⟩
  | served reply => cases hreply.unique reply
  | chosen reply => cases hreply.unique reply
  | told reply => cases hreply.unique reply
  | settled reply => cases hreply.unique reply

/-- When a lookup ends, its caller has asked the store and been on it. -/
theorem Settles.exists_asks {isFound : Bool} (hnew : world.handles.find? handle = none)
    (hsettles : Settles store world moves handle isFound n id) :
    (∃ m failure?, m < n ∧ Asks store world moves handle failure? m id ∧
      isFound = failure?.isNone) ∧
    ∃ front, front ++ [.call id] <+: moves ∧ front.length = n ∧
      IsOn ((callers store).run world front) id handle := by
  obtain ⟨front, handle', stand, stand', hfront, rfl, hreply, before, -, turn⟩ :=
    turn_of_wasAnswered hsettles
  obtain ⟨rfl, failure?, rfl, hfound⟩ := turn.isAnswered_settle_iff.1 hreply
  obtain ⟨m, hasks⟩ := borneOut_run hnew front before
  refine ⟨⟨m, failure?, hasks.lt, ?_, hfound⟩, front, hfront, rfl, before.isOn_iff.2 rfl⟩
  exact hasks.mono ((List.prefix_append _ _).trans hfront)

/-- Before a lookup starts or comes to its end, none has succeeded. -/
theorem Fits.not_settles {front : List (Move Handle)} {state : Option HandleState}
    (hf : Fits store world front handle state) (hstate : state ≠ some .resolved)
    (hfront : front <+: moves) (hn : n < front.length) :
    ¬ Settles store world moves handle true n id := by
  intro hsettles
  have hearly := hsettles.of_lt hfront hn
  rcases state with - | - | -
  · exact hf.1 n id hearly
  · exact hf.1 n id hearly
  · exact hstate rfl

/-- A lookup that succeeds is the last that comes to its end with success. -/
theorem Settles.le (hnew : world.handles.find? handle = none)
    (hsettles : Settles store world moves handle true n id)
    (hsettles' : Settles store world moves handle true n' id') : n ≤ n' := by
  obtain ⟨-, front, hfront, rfl, hon⟩ := hsettles.exists_asks hnew
  have hf := fits_run store hnew front
  by_contra hlt
  refine hf.not_settles ?_ ((List.prefix_append _ _).trans hfront) (Nat.lt_of_not_le hlt) hsettles'
  rw [hf.eq_resolving hon]
  simp

/-- No lookup starts behind one that has succeeded. -/
theorem Starts.lt (hnew : world.handles.find? handle = none)
    (hstarts : Starts store world moves handle n id)
    (hsettles : Settles store world moves handle true n' id') : n < n' := by
  obtain ⟨front, hfront, rfl, hmine⟩ := hstarts
  have hf := fits_run store hnew front
  rw [hmine.find?_of_mine] at hf
  rcases Nat.lt_trichotomy front.length n' with hlt | rfl | hgt
  · exact hlt
  · -- One move cannot do both.
    have hanswered :
        (callers store).WasAnswered world moves front.length id (.claim handle) .mine :=
      ⟨front, hfront, rfl, hmine⟩
    cases (hanswered.unique hsettles).2
  · exact absurd hsettles (hf.not_settles (by simp) ((List.prefix_append _ _).trans hfront) hgt)

/-- **A dictionary is looked up once**, however its callers are scheduled, whichever lookups fail,
and whoever is dropped. -/
theorem resolved_once (store : String) (hnew : world.handles.find? handle = none)
    (moves : List (Move Handle)) : IsResolvedOnce store world moves handle where
  -- Both callers are on the lookup, and only one can be.
  alone {id id'} hid hid' := by
    rw [isUnderWay_iff_isOn] at hid hid'
    have hf := fits_run store hnew moves
    rw [hf.eq_resolving hid] at hf
    obtain ⟨-, who, hwho⟩ := hf
    rw [(hwho id).1 hid, (hwho id').1 hid']
  within hcaller hasks := hasks.isUnderWay hcaller
  asked hsettles := (hsettles.exists_asks hnew).1
  -- Neither answer comes before the other, so they are one.
  once hsettles hsettles' := by
    obtain rfl := Nat.le_antisymm (hsettles.le hnew hsettles') (hsettles'.le hnew hsettles)
    exact ⟨rfl, (hsettles.unique hsettles').1⟩
  before hsettles hstarts := hstarts.lt hnew hsettles
  served hcaller hresult := borneOut_run hnew moves (hcaller.stands hresult)
  blamed hcaller hresult := borneOut_run hnew moves (hcaller.stands hresult)
  later isCancelled trigger :=
    (started_run store world moves handle isCancelled trigger).1.stands.waits
  free {id} hw hnobody hnone := by
    have hf := fits_run store hnew moves
    -- Somebody would be on a lookup of a handle that is being resolved.
    have hfree : ((callers store).run world moves).system.world.handles.find? handle ≠
        some .resolving := by
      intro hstate
      rw [hstate] at hf
      obtain ⟨-, who, hwho⟩ := hf
      exact hnobody who ((isUnderWay_iff_isOn ..).2 ((hwho who).2 rfl))
    obtain ⟨stand, -, hturn⟩ := hw.stands.exists_advanced (by simp) fun _ => hfree
    cases hturn with
    | chosen reply => exact Setting.wasAnswered_concat.2 (.inr ⟨rfl, rfl, reply⟩)
    | served reply =>
      rw [reply.find?_of_resolved] at hf
      obtain ⟨⟨n, owner, hsettles⟩, -⟩ := hf
      exact absurd hsettles (hnone n owner)
  still hw := exists_served hnew hw.stands

namespace Sample

/-- A handle of a store whose first lookup is planned to fail. -/
def members : Handle :=
  ⟨"main", "table", "members"⟩

/-- The world in which nobody has used the handle. -/
def flakyWorld : World where
  sites := SortedMap.empty.insert "main"
    { Site.empty Site.defaultLockTimeout with plan := [⟨.resolve, 0, "out of reach"⟩] }
  handles := .empty
  kept := .empty
  etags := ⟨0, fun _ => 0⟩
  clock := 0
  instant := 0
  notices := []

/-- The first caller fails while the second waits, the second is dropped while it looks the
dictionary up, the third finds it while the fourth waits, and the fourth is served. -/
def crowdMoves : List (Move Handle) :=
  List.replicate 4 (.start members false .never) ++
    [.call 0, .call 1, .call 0, .call 0, .call 0, .call 1, .call 2, .call 1, .abandon 1] ++
    [.call 2, .call 3, .call 2, .call 2, .call 2, .call 3]

end Sample

/-- One lookup fails, one is dropped, one succeeds, and the last caller is served. -/
theorem resolved_once_crowdMoves :
    Sample.flakyWorld.handles.find? Sample.members = none ∧
    (let h := (callers "main").run Sample.flakyWorld Sample.crowdMoves
     h.result? 0 = some (.error (.store (.planned "out of reach"))) ∧ h.result? 1 = none ∧
      h.result? 2 = some (.ok ()) ∧ h.result? 3 = some (.ok ())) ∧
    IsResolvedOnce "main" Sample.flakyWorld Sample.crowdMoves Sample.members := by
  refine ⟨rfl, ⟨?_, ?_, ?_, ?_⟩, resolved_once "main" rfl Sample.crowdMoves⟩
  · rfl
  · rfl
  · rfl
  · rfl

end Handle

end Muster
