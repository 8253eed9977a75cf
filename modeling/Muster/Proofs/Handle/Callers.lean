import Muster.Proofs.System.Advances

/-!
# Callers of handles

Any number of programs call for dictionaries by their handles, at once or one after another. How
far one of them has got is its `Stand`, which determines what is left of its program and whether it
looks a dictionary up. `goes_after` says once what a move does: it leaves all callers as they are,
it starts one, it brings one a stand further (`Turn`), or it drops one. Everything that is to be
known of callers follows from these four cases.
-/

namespace Muster

namespace World

/-- What happens to a store changes no handle. -/
theorem handles_withSite (w : World) (name : String) (f : Site → Site) :
    (w.withSite name f).handles = w.handles := by
  rw [withSite]
  split
  · rfl
  · rfl

/-- A lookup that is settled leaves its handle resolved, or as if nobody had used it. -/
theorem find?_settle_self (w : World) (handle : Handle) (isResolved : Bool) :
    (w.settle handle isResolved).handles.find? handle =
      if isResolved then some .resolved else none := by
  unfold settle
  cases isResolved with
  | true => exact SortedMap.find?_insert_self ..
  | false => exact SortedMap.find?_erase_self ..

/-- It leaves the other handles as they are. -/
theorem find?_settle_of_ne (w : World) {handle other : Handle} (isResolved : Bool)
    (hne : other ≠ handle) :
    (w.settle handle isResolved).handles.find? other = w.handles.find? other := by
  unfold settle
  cases isResolved with
  | true => exact SortedMap.find?_insert_of_ne _ _ hne
  | false => exact SortedMap.find?_erase_of_ne _ hne

/-- A program that is dropped takes back the lookup on which it was, and no other. -/
theorem handles_abandon {ρ : Type} (w : World) (me : Context) (p : Program ρ) :
    (w.abandon me p).handles =
      match me.resolving with
      | some handle => w.handles.erase handle
      | none => w.handles := by
  -- Withdrawing and discarding are about stores.
  have hwithdraw : (w.withdraw p).handles = w.handles := by
    unfold withdraw
    split
    · exact handles_withSite w _ _
    · rfl
  have hdiscard : ∀ tickets v, (List.foldl discard v tickets).handles = v.handles := by
    intro tickets
    induction tickets with
    | nil => exact fun v => rfl
    | cons tx tickets ih => exact fun v => (ih _).trans (handles_withSite v _ _)
  have hall := (hdiscard me.tickets (w.withdraw p)).trans hwithdraw
  unfold abandon
  cases me.resolving with
  | some handle => exact congrArg (SortedMap.erase · handle) hall
  | none => exact hall

end World

/-! ## Failures that are still planned -/

/-- How many calls of a kind it takes at most until no more of them is planned to fail. -/
def Site.dueFaults (kind : CallKind) : List PlannedFault → Nat
  | [] => 0
  | fault :: rest =>
    (if fault.kind = kind then fault.before + 1 else 0) + dueFaults kind rest

/-- Faults that come one call earlier are due no later. -/
theorem Site.dueFaults_map_le (kind : CallKind) (plan : List PlannedFault) :
    dueFaults kind (plan.map fun f => if f.kind = kind then { f with before := f.before - 1 } else f)
      ≤ dueFaults kind plan := by
  induction plan with
  | nil => exact Nat.le_refl _
  | cons fault rest ih =>
    rw [List.map_cons, dueFaults, dueFaults]
    by_cases hkind : fault.kind = kind
    · simp only [if_pos hkind]
      omega
    · simp only [if_neg hkind]
      omega

/-- A call that fails uses up a part of the plan. -/
theorem Site.dueFaults_takeFault {kind : CallKind} {plan : List PlannedFault} {message : String}
    (h : (takeFault kind plan).2 = some message) :
    dueFaults kind (takeFault kind plan).1 < dueFaults kind plan := by
  induction plan with
  | nil => exact absurd h (by simp [takeFault])
  | cons fault rest ih =>
    rw [takeFault] at h ⊢
    by_cases hkind : fault.kind = kind
    · rw [if_neg (not_not.2 hkind)] at h ⊢
      by_cases hbefore : fault.before = 0
      · -- The fault is taken, and those behind it come no later than before.
        have hrest := dueFaults_map_le kind rest
        rw [if_pos hbefore, dueFaults, if_pos hkind]
        dsimp only
        omega
      · rw [if_neg hbefore] at h ⊢
        have hrest := ih h
        simp only [dueFaults, if_pos hkind]
        omega
    · rw [if_pos hkind] at h ⊢
      have hrest := ih h
      simp only [dueFaults, if_neg hkind]
      omega

namespace Setting

variable {ι ρ : Type} {S : Setting ι ρ} {world : World} {moves : List (Move ι)} {move : Move ι}
  {id : TaskId} {n : Nat}

/-- The next call of a task is `c`, and its answer is `reply`. -/
def IsAnswered (h : History ι ρ) (id : TaskId) (c : Call) (reply : c.Reply) : Prop :=
  ∃ context go, h.system.tasks.find? id = some ⟨.call c go, context⟩ ∧
    (h.system.world.perform context c).2.2 = some reply

/-- With the `n`-th move of a run a call of a task was answered. -/
def WasAnswered (S : Setting ι ρ) (world : World) (moves : List (Move ι)) (n : Nat) (id : TaskId)
    (c : Call) (reply : c.Reply) : Prop :=
  ∃ front, front ++ [.call id] <+: moves ∧ front.length = n ∧
    IsAnswered (S.run world front) id c reply

/-- The answers of a run with one more move are those given before and the one that it gives. -/
theorem wasAnswered_concat {c : Call} {reply : c.Reply} :
    S.WasAnswered world (moves ++ [move]) n id c reply ↔
      S.WasAnswered world moves n id c reply ∨
        n = moves.length ∧ move = .call id ∧ IsAnswered (S.run world moves) id c reply := by
  constructor
  · rintro ⟨front, hfront, rfl, hanswered⟩
    rcases List.prefix_concat_iff.1 hfront with hall | hold
    · obtain ⟨rfl, hlast⟩ := List.append_inj' hall rfl
      exact .inr ⟨rfl, (List.singleton_inj.1 hlast).symm, hanswered⟩
    · exact .inl ⟨front, hold, rfl, hanswered⟩
  · rintro (⟨front, hfront, hlength, hanswered⟩ | ⟨rfl, rfl, hanswered⟩)
    · exact ⟨front, hfront.trans (List.prefix_append _ _), hlength, hanswered⟩
    · exact ⟨moves, List.prefix_rfl, rfl, hanswered⟩

/-- An answer is given at one of the moves of the run. -/
theorem WasAnswered.lt {c : Call} {reply : c.Reply}
    (h : S.WasAnswered world moves n id c reply) : n < moves.length := by
  obtain ⟨front, hfront, rfl, -⟩ := h
  have hle := hfront.length_le
  rw [List.length_append, List.length_singleton] at hle
  exact hle

/-- What was answered was answered also when more has happened. -/
theorem WasAnswered.mono {c : Call} {reply : c.Reply} {front : List (Move ι)}
    (h : S.WasAnswered world front n id c reply) (hfront : front <+: moves) :
    S.WasAnswered world moves n id c reply := by
  obtain ⟨before, hbefore, hanswered⟩ := h
  exact ⟨before, hbefore.trans hfront, hanswered⟩

/-- An answer that was given stays given when the run goes on. -/
theorem WasAnswered.concat {c : Call} {reply : c.Reply} (move : Move ι)
    (h : S.WasAnswered world moves n id c reply) :
    S.WasAnswered world (moves ++ [move]) n id c reply :=
  h.mono (List.prefix_append _ _)

/-- What was answered early in a run was answered in its first part. -/
theorem WasAnswered.of_lt {c : Call} {reply : c.Reply} {front : List (Move ι)}
    (h : S.WasAnswered world moves n id c reply) (hfront : front <+: moves)
    (hn : n < front.length) :
    S.WasAnswered world front n id c reply := by
  obtain ⟨before, hbefore, rfl, hanswered⟩ := h
  refine ⟨before, List.prefix_of_prefix_length_le hbefore hfront ?_, rfl, hanswered⟩
  rw [List.length_append, List.length_singleton]
  exact hn

/-- A task makes one call at a time, and it is answered in one way. -/
theorem IsAnswered.unique {h : History ι ρ} {c c' : Call} {reply : c.Reply} {reply' : c'.Reply}
    (h₁ : IsAnswered h id c reply) (h₂ : IsAnswered h id c' reply') :
    (⟨c, reply⟩ : (c : Call) × c.Reply) = ⟨c', reply'⟩ := by
  obtain ⟨context, go, htask, hreply⟩ := h₁
  obtain ⟨context', go', htask', hreply'⟩ := h₂
  obtain ⟨hcall, rfl⟩ := Task.mk.inj (Option.some.inj (htask.symm.trans htask'))
  obtain ⟨rfl, -⟩ := Program.call.inj hcall
  rw [Option.some.inj (hreply.symm.trans hreply')]

/-- One move answers one call. -/
theorem WasAnswered.unique {c c' : Call} {reply : c.Reply} {reply' : c'.Reply} {id' : TaskId}
    (h : S.WasAnswered world moves n id c reply) (h' : S.WasAnswered world moves n id' c' reply') :
    id = id' ∧ (⟨c, reply⟩ : (c : Call) × c.Reply) = ⟨c', reply'⟩ := by
  obtain ⟨front, hfront, rfl, hanswered⟩ := h
  obtain ⟨front', hfront', hlength, hanswered'⟩ := h'
  have hlength' : (front ++ [Move.call id]).length = (front' ++ [Move.call id']).length := by
    rw [List.length_append, List.length_append, hlength]
    rfl
  have hsame := (List.prefix_of_prefix_length_le hfront hfront'
    (Nat.le_of_eq hlength')).eq_of_length hlength'
  obtain ⟨rfl, hlast⟩ := List.append_inj' hsame rfl
  obtain rfl := Move.call.inj (List.singleton_inj.1 hlast)
  exact ⟨rfl, hanswered.unique hanswered'⟩

/-- A task of which a run knows what it is to do was there before, or it has been started with the
last move. -/
theorem what?_after (S : Setting ι ρ) (h : History ι ρ) (move : Move ι) (id : TaskId)
    (hold : id < h.jobs.length) :
    ((S.after h move).jobs[id]?).map Job.what = (h.jobs[id]?).map Job.what := by
  have hjob := List.getElem?_eq_getElem hold
  obtain ⟨job, hafter, hwhat⟩ := S.exists_job_after move hjob
  rw [hafter, hjob]
  exact congrArg some hwhat

end Setting

/-- What a task is to do, what is left of its program, and what it looks up. -/
def History.caller? {ι ρ : Type} (h : History ι ρ) (id : TaskId) :
    Option (ι × Program ρ × Option Handle) :=
  (h.jobs[id]?).bind fun job =>
    (h.system.tasks.find? id).map fun task => (job.what, task.program, task.context.resolving)

/-- What a caller is at depends on its job, its program and the handle that it resolves. -/
theorem History.caller?_congr {ι ρ : Type} {h h' : History ι ρ} {id : TaskId}
    (hwhat : (h'.jobs[id]?).map Job.what = (h.jobs[id]?).map Job.what)
    (htask : (h'.system.tasks.find? id).map (fun task => (task.program, task.context.resolving)) =
      (h.system.tasks.find? id).map fun task => (task.program, task.context.resolving)) :
    h'.caller? id = h.caller? id := by
  have heq : ∀ k : History ι ρ, k.caller? id = ((k.jobs[id]?).map Job.what).bind fun what =>
      ((k.system.tasks.find? id).map fun task => (task.program, task.context.resolving)).map
        fun rest => (what, rest) := by
    intro k
    unfold caller?
    cases k.jobs[id]? with
    | none => rfl
    | some job => exact (Option.map_map ..).symm
  rw [heq, heq, hwhat, htask]

namespace Handle

open Setting (IsAnswered)

/-- Those who call for dictionaries by their handles. -/
def callers (store : String) : Setting Handle (Except Failure Unit) :=
  ⟨store, fun handle => (Operation.resolve handle).run⟩

/-! ## How far a caller has got -/

/-- How far a caller has got. -/
inductive Stand
  /-- It wants to know whether the dictionary is known, and waits while it is looked up. -/
  | asking
  /-- It is to look the dictionary up, and about to tell so. -/
  | chosen
  /-- It is about to ask the store. -/
  | trying
  /-- It has asked the store, which has failed if there is a message. -/
  | tried (failure? : Option String)
  /-- It has returned. -/
  | returned (result : Except Failure Unit)

/-- What a caller returns when it has asked the store. -/
def answer : Option String → Except Failure Unit
  | none => .ok ()
  | some message => .error (.store (.planned message))

/-- What is left of a caller that has asked the store. -/
def settling (handle : Handle) (failure? : Option String) : Program (Except Failure Unit) :=
  .call (.settle handle failure?.isNone) fun _ => .done (answer failure?)

/-- What is left of a caller that is to look the dictionary up. -/
def lookup (handle : Handle) : Program (Except Failure Unit) :=
  .call (.note (.resolving handle.dictionary)) fun _ =>
    .call (.attempt handle.store .resolve) handle.settling

/-- What is left of a caller that has been told whether the dictionary is known. -/
def claimed (handle : Handle) : Claim → Program (Except Failure Unit)
  | .resolved => .done (.ok ())
  | .mine => handle.lookup

/-- A lookup begins with the claim of its handle; all that follows is `claimed`. -/
theorem run_resolve (handle : Handle) :
    (Operation.resolve handle).run = .call (.claim handle) handle.claimed := by
  refine congrArg (Program.call (Call.claim handle)) (funext fun claim => ?_)
  cases claim with
  | resolved => rfl
  | mine =>
    refine congrArg (Program.call _) (funext fun _ => ?_)
    refine congrArg (Program.call (Call.attempt handle.store .resolve)) (funext fun failure? => ?_)
    cases failure? with
    | none => rfl
    | some message => rfl

/-- What is left of a caller. -/
def Stand.rest (handle : Handle) : Stand → Program (Except Failure Unit)
  | .asking => (Operation.resolve handle).run
  | .chosen => handle.lookup
  | .trying => .call (.attempt handle.store .resolve) handle.settling
  | .tried failure? => handle.settling failure?
  | .returned result => .done result

/-- What a caller looks up. -/
def Stand.resolving (handle : Handle) : Stand → Option Handle
  | .asking => none
  | .chosen => some handle
  | .trying => some handle
  | .tried _ => some handle
  | .returned _ => none

/-- The programs of callers, and the world. -/
abbrev Calls := History Handle (Except Failure Unit)

variable {store : String} {h h' : Calls} {move : Move Handle} {id : TaskId} {handle : Handle}
  {stand : Stand}

/-- A task is a caller of a handle that has got to a stand. -/
def Stands (h : Calls) (id : TaskId) (handle : Handle) (stand : Stand) : Prop :=
  h.caller? id = some (handle, stand.rest handle, stand.resolving handle)

/-- Where a caller stands, in terms of its job and its task. -/
theorem stands_iff : Stands h id handle stand ↔
    (h.jobs[id]?).map Job.what = some handle ∧ ∃ context,
      h.system.tasks.find? id = some ⟨stand.rest handle, context⟩ ∧
      context.resolving = stand.resolving handle := by
  unfold Stands History.caller?
  constructor
  · intro hcaller
    obtain ⟨job, hjob, hcaller⟩ := Option.bind_eq_some_iff.1 hcaller
    obtain ⟨⟨program, context⟩, htask, hcaller⟩ := Option.map_eq_some_iff.1 hcaller
    simp only [Prod.mk.injEq] at hcaller
    obtain ⟨rfl, rfl, hresolving⟩ := hcaller
    exact ⟨congrArg (Option.map Job.what) hjob, context, htask, hresolving⟩
  · rintro ⟨hwhat, context, htask, hresolving⟩
    obtain ⟨job, hjob, rfl⟩ := Option.map_eq_some_iff.1 hwhat
    rw [hjob, htask, ← hresolving]
    rfl

/-- Every task is a caller. -/
def AllStand (h : Calls) : Prop :=
  ∀ id task, h.system.tasks.find? id = some task → ∃ handle stand, Stands h id handle stand

/-- A caller is one of one handle. -/
theorem Stands.handle_eq {handle' : Handle} {stand' : Stand} (hs : Stands h id handle stand)
    (hs' : Stands h id handle' stand') : handle' = handle :=
  congrArg Prod.fst (Option.some.inj (hs'.symm.trans hs))

/-- Different answers to a claim lead to different results. -/
theorem answer_injective : Function.Injective answer := by
  intro failure? failure?' hsame
  cases failure? with
  | none =>
    cases failure?' with
    | none => rfl
    | some message => exact absurd hsame (by simp [answer])
  | some message =>
    cases failure?' with
    | none => exact absurd hsame (by simp [answer])
    | some message' =>
      simp only [answer, Except.error.injEq, Failure.store.injEq,
        Store.Fault.planned.injEq] at hsame
      rw [hsame]

/-- What is left of a caller shows where it stands. -/
theorem Stand.rest_injective (handle : Handle) : Function.Injective (Stand.rest handle) := by
  intro stand stand' hsame
  cases stand with
  | tried failure? =>
    cases stand' with
    | tried failure?' =>
      -- Both have asked the store, and what they return is what it has said.
      have hdone := congrFun (eq_of_heq (Program.call.inj hsame).2) ()
      rw [answer_injective (Program.done.inj hdone)]
    | _ => exact absurd hsame (by simp [rest, run_resolve, lookup, settling])
  | returned result =>
    cases stand' with
    | returned result' => rw [Program.done.inj hsame]
    | _ => exact absurd hsame (by simp [rest, run_resolve, lookup, settling])
  -- All other programs begin with different calls, or have ended.
  | _ =>
    cases stand' with
    | _ => first | rfl | exact absurd hsame (by simp [rest, run_resolve, lookup, settling])

/-- A caller that has not returned makes a call. -/
theorem Stand.exists_call (handle : Handle) (hnot : ∀ result, stand ≠ .returned result) :
    ∃ c go, stand.rest handle = .call c go := by
  cases stand with
  | asking => exact ⟨_, _, run_resolve handle⟩
  | chosen => exact ⟨_, _, rfl⟩
  | trying => exact ⟨_, _, rfl⟩
  | tried failure? => exact ⟨_, _, rfl⟩
  | returned result => exact absurd rfl (hnot result)

/-- A caller stands in one place. -/
theorem Stands.stand_eq (hs : Stands h id handle stand) (hs' : Stands h id handle stand') :
    stand' = stand :=
  Stand.rest_injective handle
    (Prod.mk.inj (Prod.mk.inj (Option.some.inj (hs'.symm.trans hs))).2).1

/-! ## What a move does -/

/-- How many lookups it takes at most until no more of them is planned to fail. -/
def dueLookups (w : World) (handle : Handle) : Nat :=
  match w.sites.find? handle.store with
  | some site => Site.dueFaults .resolve site.plan
  | none => 0

/-- How the answer to its call brings a caller from one stand to another, and what it does to the
handles. -/
inductive Turn (h h' : Calls) (id : TaskId) (handle : Handle) : Stand → Stand → Prop
  /-- The caller is told that the dictionary is known. -/
  | served (reply : IsAnswered h id (.claim handle) .resolved)
    (world : h'.system.world = h.system.world) : Turn h h' id handle .asking (.returned (.ok ()))
  /-- The caller is to look the dictionary up. -/
  | chosen (reply : IsAnswered h id (.claim handle) .mine)
    (handles : h'.system.world.handles = h.system.world.handles.insert handle .resolving)
    (due : dueLookups h'.system.world handle = dueLookups h.system.world handle) :
    Turn h h' id handle .asking .chosen
  /-- The caller has told that it looks the dictionary up. -/
  | told (reply : IsAnswered h id (.note (.resolving handle.dictionary)) ())
    (handles : h'.system.world.handles = h.system.world.handles)
    (due : dueLookups h'.system.world handle = dueLookups h.system.world handle) :
    Turn h h' id handle .chosen .trying
  /-- The store has answered. -/
  | tried {failure? : Option String}
    (reply : IsAnswered h id (.attempt handle.store .resolve) failure?)
    (handles : h'.system.world.handles = h.system.world.handles)
    (due : failure?.isSome = true →
      dueLookups h'.system.world handle < dueLookups h.system.world handle) :
    Turn h h' id handle .trying (.tried failure?)
  /-- The caller has said whether the dictionary was found. -/
  | settled {failure? : Option String}
    (reply : IsAnswered h id (.settle handle failure?.isNone) ())
    (world : h'.system.world = h.system.world.settle handle failure?.isNone) :
    Turn h h' id handle (.tried failure?) (.returned (answer failure?))

/-- What a move from one history to the next does to callers and handles. -/
inductive Goes (h h' : Calls) (move : Move Handle) : Prop
  /-- It leaves all callers as they are. -/
  | still (same : ∀ id, h'.caller? id = h.caller? id)
    (handles : h'.system.world.handles = h.system.world.handles)
    (silent : ∀ {id}, move = .call id → ∀ c reply, ¬ IsAnswered h id c reply)
    (kept : ∀ {id handle stand}, move = .abandon id → Stands h id handle stand →
      stand.resolving handle = none)
    (unstarted : ∀ {handle isCancelled trigger}, move ≠ .start handle isCancelled trigger)
  /-- It starts a caller. -/
  | started {handle : Handle} {isCancelled : Bool} {trigger : Trigger}
    (who : move = .start handle isCancelled trigger)
    (new : h.caller? h.jobs.length = none)
    (behind : Stands h' h.jobs.length handle .asking)
    (others : ∀ id, id ≠ h.jobs.length → h'.caller? id = h.caller? id)
    (world : h'.system.world = h.system.world)
  /-- It brings a caller a stand further. -/
  | turns {id : TaskId} {handle : Handle} {stand stand' : Stand} (who : move = .call id)
    (before : Stands h id handle stand) (behind : Stands h' id handle stand')
    (others : ∀ id', id' ≠ id → h'.caller? id' = h.caller? id')
    (turn : Turn h h' id handle stand stand')
  /-- It drops a caller, with the lookup on which it is. -/
  | dropped {id : TaskId} {handle : Handle} {stand : Stand} (who : move = .abandon id)
    (before : Stands h id handle stand) (behind : h'.caller? id = none)
    (others : ∀ id', id' ≠ id → h'.caller? id' = h.caller? id')
    (handles : h'.system.world.handles =
      match stand.resolving handle with
      | some handle => h.system.world.handles.erase handle
      | none => h.system.world.handles)

/-- The next call of a caller, unless it has to wait: the reply, and the world behind it. -/
theorem exists_turn {context : Context} {c : Call} {go : c.Reply → Program (Except Failure Unit)}
    (hs : Stands h id handle stand)
    (htask : h.system.tasks.find? id = some ⟨.call c go, context⟩) :
    (stand = .asking ∧ h.system.world.handles.find? handle = some .resolving ∧
      h.system.world.perform context c = (h.system.world, context, none)) ∨
      ∃ w' me' reply stand', h.system.world.perform context c = (w', me', some reply) ∧
        go reply = stand'.rest handle ∧ me'.resolving = stand'.resolving handle ∧
        ∀ h' : Calls, h'.system.world = w' → Turn h h' id handle stand stand' := by
  obtain ⟨-, context', htask', hresolving⟩ := stands_iff.1 hs
  obtain ⟨hprogram, rfl⟩ := Task.mk.inj (Option.some.inj (htask.symm.trans htask'))
  have hanswered : ∀ reply, (h.system.world.perform context c).2.2 = some reply →
      IsAnswered h id c reply := fun reply hreply => ⟨context, go, htask, hreply⟩
  cases stand with
  | asking =>
    rw [Stand.rest, run_resolve] at hprogram
    cases hprogram
    cases hfound : h.system.world.handles.find? handle with
    | none =>
      have hperform : h.system.world.perform context (.claim handle) =
          ({ h.system.world with handles := h.system.world.handles.insert handle .resolving },
            { context with resolving := some handle }, some .mine) := by
        rw [World.perform, hfound]
      refine .inr ⟨_, _, _, .chosen, hperform, rfl, rfl, fun h' hworld => ?_⟩
      refine .chosen (hanswered _ (by rw [hperform])) ?_ ?_
      · rw [hworld]
      · rw [hworld]
        rfl
    | some state =>
      cases state with
      | resolving =>
        -- This is the only call that may have to wait.
        refine .inl ⟨rfl, rfl, ?_⟩
        rw [World.perform, hfound]
      | resolved =>
        have hperform : h.system.world.perform context (.claim handle) =
            (h.system.world, context, some .resolved) := by
          rw [World.perform, hfound]
        refine .inr ⟨_, _, _, .returned (.ok ()), hperform, rfl, hresolving, fun h' hworld => ?_⟩
        exact .served (hanswered _ (by rw [hperform])) hworld
  | chosen =>
    cases hprogram
    refine .inr ⟨_, _, _, .trying, rfl, rfl, hresolving, fun h' hworld => ?_⟩
    refine .told (hanswered _ rfl) ?_ ?_
    · rw [hworld]
    · rw [hworld]
      rfl
  | trying =>
    cases hprogram
    cases hsite : h.system.world.sites.find? handle.store with
    | none =>
      have hperform : h.system.world.perform context (.attempt handle.store .resolve) =
          (h.system.world, context, some none) := by
        rw [World.perform]
        simp only [hsite, reduceCtorEq, if_false]
      refine .inr ⟨_, _, _, .tried none, hperform, rfl, hresolving, fun h' hworld => ?_⟩
      exact .tried (hanswered _ (by rw [hperform])) (by rw [hworld]) (by simp)
    | some site =>
      have hperform : h.system.world.perform context (.attempt handle.store .resolve) =
          ({ h.system.world with
              sites := h.system.world.sites.insert handle.store (site.attempt .resolve).1 },
            context, some (site.attempt .resolve).2) := by
        rw [World.perform]
        simp only [hsite, reduceCtorEq, if_false]
      refine .inr ⟨_, _, _, .tried (site.attempt .resolve).2, hperform, rfl, hresolving,
        fun h' hworld => ?_⟩
      refine .tried (hanswered _ (by rw [hperform])) (by rw [hworld]) fun hfailed => ?_
      obtain ⟨message, hmessage⟩ := Option.isSome_iff_exists.1 hfailed
      unfold dueLookups
      rw [hworld, hsite]
      simp only [SortedMap.find?_insert_self]
      exact Site.dueFaults_takeFault hmessage
  | tried failure? =>
    cases hprogram
    refine .inr ⟨_, _, _, .returned (answer failure?), rfl, rfl, rfl, fun h' hworld => ?_⟩
    exact .settled (hanswered _ rfl) hworld
  | returned result => cases hprogram

/-- The number of the next caller is free. -/
theorem AllStand.next_is_free (hs : AllStand h) : h.system.tasks.find? h.jobs.length = none := by
  rw [Option.eq_none_iff_forall_ne_some]
  intro task htask
  obtain ⟨handle, stand, hstand⟩ := hs _ task htask
  obtain ⟨job, hjob, -⟩ := Option.map_eq_some_iff.1 (stands_iff.1 hstand).1
  exact Nat.lt_irrefl _ (List.getElem?_eq_some_iff.1 hjob).1

/-- A task that is as it was is the caller that it was. -/
theorem AllStand.caller?_after (hs : AllStand h) (move : Move Handle)
    (htask : (((callers store).after h move).system.tasks.find? id).map
        (fun task => (task.program, task.context.resolving)) =
      (h.system.tasks.find? id).map fun task => (task.program, task.context.resolving)) :
    ((callers store).after h move).caller? id = h.caller? id := by
  by_cases hold : id < h.jobs.length
  · exact History.caller?_congr ((callers store).what?_after h move id hold) htask
  -- A number that is not taken yet is that of no task.
  · have hnone : h.system.tasks.find? id = none := by
      rw [Option.eq_none_iff_forall_ne_some]
      intro task hfind
      obtain ⟨handle, stand, hstand⟩ := hs id task hfind
      obtain ⟨job, hjob, -⟩ := Option.map_eq_some_iff.1 (stands_iff.1 hstand).1
      exact hold (List.getElem?_eq_some_iff.1 hjob).1
    have hnone' : ((callers store).after h move).system.tasks.find? id = none := by
      rw [hnone] at htask
      exact Option.map_eq_none_iff.1 htask
    unfold History.caller?
    rw [hnone, hnone']
    simp

/-- A caller never waits for a lock. -/
theorem expire_rest (w : World) (me : Context) (handle : Handle) (stand : Stand) :
    w.expire me (stand.rest handle) = (w, me, stand.rest handle) := by
  cases stand with
  | asking => rw [Stand.rest, run_resolve, World.expire]; simp
  | _ => rfl

/-! ## Each kind of move -/

section Moves

variable {system : System (Except Failure Unit)}

/-- The system behind a move that can be made. -/
theorem system_of_step (hstep : h.system.step ((callers store).event h move) = some system) :
    ((callers store).after h move).system = system := by
  rw [Setting.after, hstep]
  rfl

/-- A move that cannot be made leaves all callers as they are. -/
theorem goes_of_refused (hs : AllStand h)
    (hstep : h.system.step ((callers store).event h move) = none) :
    Goes h ((callers store).after h move) move := by
  have hsame : (callers store).after h move = h := by
    rw [Setting.after, hstep]
  rw [hsame]
  refine .still (fun _ => rfl) rfl (fun {id} hmove c reply hreply => ?_)
    (fun {id handle stand} hmove hstand => ?_) fun {handle isCancelled trigger} hmove => ?_
  · obtain ⟨context, go, htask, hreply⟩ := hreply
    subst hmove
    rw [Setting.event, System.step, htask, Option.bind_eq_bind, Option.bind_some] at hstep
    dsimp only at hstep
    rw [hreply] at hstep
    exact absurd hstep (by simp)
  · -- A caller that looks something up can be dropped.
    obtain ⟨-, context, htask, -⟩ := stands_iff.1 hstand
    subst hmove
    rw [Setting.event, System.step, htask, Option.bind_eq_bind, Option.bind_some] at hstep
    cases stand with
    | asking => rfl
    | returned result => rfl
    | chosen => exact absurd hstep (by simp [Stand.rest, lookup])
    | trying => exact absurd hstep (by simp [Stand.rest])
    | tried failure? => exact absurd hstep (by simp [Stand.rest, settling])
  · subst hmove
    rw [Setting.event, System.step, hs.next_is_free] at hstep
    exact absurd hstep (by simp)

/-- A move that is no start, no call and no drop, and that changes no task and no handle, leaves all
callers as they are. -/
theorem goes_of_quiet (hs : AllStand h)
    (htasks : ∀ id, (((callers store).after h move).system.tasks.find? id).map
        (fun task => (task.program, task.context.resolving)) =
      (h.system.tasks.find? id).map fun task => (task.program, task.context.resolving))
    (hhandles : ((callers store).after h move).system.world.handles = h.system.world.handles)
    (hstart : ∀ handle isCancelled trigger, move ≠ .start handle isCancelled trigger)
    (hcall : ∀ id, move ≠ .call id) (habandon : ∀ id, move ≠ .abandon id) :
    Goes h ((callers store).after h move) move :=
  .still (fun id => hs.caller?_after move (htasks id)) hhandles
    (fun hmove => absurd hmove (hcall _)) (fun hmove => absurd hmove (habandon _))
    (hstart _ _ _)

/-- A caller that starts has not claimed its handle yet, and the others go on as they were. -/
theorem goes_start (hs : AllStand h) {isCancelled : Bool} {trigger : Trigger}
    (hstep : h.system.step ((callers store).event h (.start handle isCancelled trigger)) =
      some system) :
    Goes h ((callers store).after h (.start handle isCancelled trigger))
      (.start handle isCancelled trigger) := by
  have hsystem := system_of_step hstep
  obtain ⟨hfree, rfl⟩ := System.step_start hstep
  have hnone : h.jobs[h.jobs.length]? = none := List.getElem?_eq_none (Nat.le_refl _)
  -- The new task is the only one that changes.
  refine .started rfl ?_ ?_ (fun id hid => hs.caller?_after _ ?_) (by rw [hsystem]; rfl)
  · rw [History.caller?, hnone]
    rfl
  · refine stands_iff.2 ⟨?_, .start isCancelled trigger, ?_, rfl⟩
    · rw [Setting.after, hstep]
      show ((h.jobs ++ [_])[h.jobs.length]?).map Job.what = some handle
      rw [List.getElem?_concat_length]
      rfl
    · rw [hsystem]
      exact SortedMap.find?_insert_self ..
  · rw [hsystem]
    exact congrArg _ (SortedMap.find?_insert_of_ne _ _ hid)

/-- A call brings a caller further, unless it has to wait. -/
theorem goes_call (hs : AllStand h)
    (hstep : h.system.step ((callers store).event h (.call id)) = some system) :
    Goes h ((callers store).after h (.call id)) (.call id) := by
  have hsystem := system_of_step hstep
  obtain ⟨context, c, go, htask, rfl⟩ := System.step_call hstep
  obtain ⟨handle, stand, hstand⟩ := hs id _ htask
  have hothers : ∀ id', id' ≠ id →
      ((callers store).after h (.call id)).caller? id' = h.caller? id' := by
    intro id' hid
    refine hs.caller?_after _ ?_
    rw [hsystem]
    exact congrArg _ (SortedMap.find?_insert_of_ne _ _ hid)
  rcases exists_turn hstand htask with ⟨-, -, hwaits⟩ | ⟨w', me', reply, stand', hperform, hgo,
    hresolving, hturn⟩
  · -- A caller that waits stays as it is.
    have hanswered : System.answered h.system.world context c go = ⟨.call c go, context⟩ := by
      rw [System.answered, hwaits]
    refine .still (fun id' => ?_) (by rw [hsystem, hwaits])
      (fun {id'} hmove c' reply' hreply => ?_) (fun hmove => by cases hmove)
      (fun hmove => by cases hmove)
    · by_cases hid : id' = id
      · subst hid
        refine hs.caller?_after _ ?_
        rw [hsystem, hanswered, SortedMap.find?_insert_self, htask]
      · exact hothers id' hid
    · obtain rfl := Move.call.inj hmove
      obtain ⟨context', go', htask', hreply⟩ := hreply
      obtain ⟨hcall, rfl⟩ := Task.mk.inj (Option.some.inj (htask.symm.trans htask'))
      obtain ⟨rfl, -⟩ := Program.call.inj hcall
      rw [hwaits] at hreply
      exact absurd hreply (by simp)
  · have hanswered : System.answered h.system.world context c go =
        ⟨stand'.rest handle, me'⟩ := by
      rw [System.answered, hperform, ← hgo]
    refine .turns rfl hstand ?_ hothers (hturn _ (by rw [hsystem, hperform]))
    obtain ⟨hwhat, -⟩ := stands_iff.1 hstand
    obtain ⟨job, hjob, -⟩ := Option.map_eq_some_iff.1 hwhat
    refine stands_iff.2 ⟨?_, me', ?_, hresolving⟩
    · rw [(callers store).what?_after h _ id (List.getElem?_eq_some_iff.1 hjob).1]
      exact hwhat
    · rw [hsystem, hanswered]
      exact SortedMap.find?_insert_self ..

/-- A caller that is dropped settles the handle that it was resolving, and the others go on as they
were. -/
theorem goes_abandon (hs : AllStand h)
    (hstep : h.system.step ((callers store).event h (.abandon id)) = some system) :
    Goes h ((callers store).after h (.abandon id)) (.abandon id) := by
  have hsystem := system_of_step hstep
  obtain ⟨task, htask, rfl⟩ := System.step_abandon hstep
  obtain ⟨handle, stand, hstand⟩ := hs id _ htask
  obtain ⟨-, context, htask', hresolving⟩ := stands_iff.1 hstand
  obtain rfl := Option.some.inj (htask.symm.trans htask')
  -- The dropped task is the only one that changes, and its handle goes with it.
  refine .dropped rfl hstand ?_ (fun id' hid => hs.caller?_after _ ?_) ?_
  · unfold History.caller?
    rw [hsystem, SortedMap.find?_erase_self]
    simp
  · rw [hsystem]
    exact congrArg _ (SortedMap.find?_erase_of_ne _ hid)
  · rw [hsystem, ← hresolving]
    exact World.handles_abandon ..

/-- **A move leaves all callers as they are, starts one, brings one further, or drops one.** -/
theorem goes_after (hs : AllStand h) (move : Move Handle) :
    Goes h ((callers store).after h move) move := by
  cases hstep : h.system.step ((callers store).event h move) with
  | none => exact goes_of_refused hs hstep
  | some system =>
    have hsystem := system_of_step hstep
    cases move with
    | start handle isCancelled trigger => exact goes_start hs hstep
    | call id => exact goes_call hs hstep
    | abandon id => exact goes_abandon hs hstep
    | expire id =>
      obtain ⟨task, htask, rfl⟩ := System.step_expire hstep
      obtain ⟨handle, stand, hstand⟩ := hs id _ htask
      obtain ⟨-, context, htask', -⟩ := stands_iff.1 hstand
      obtain rfl := Option.some.inj (htask.symm.trans htask')
      -- A caller never waits with a deadline, so the end of one changes nothing.
      rw [expire_rest] at hsystem
      refine goes_of_quiet hs (fun id' => ?_) (by rw [hsystem]) (by simp) (by simp) (by simp)
      rw [hsystem, SortedMap.find?_insert]
      split
      · rename_i hid
        rw [hid, htask]
      · rfl
    | cancel id =>
      obtain ⟨task, htask, rfl⟩ := System.step_cancel hstep
      refine goes_of_quiet hs (fun id' => ?_) (by rw [hsystem]; rfl) (by simp) (by simp) (by simp)
      rw [hsystem, System.withTask, SortedMap.find?_insert]
      split
      · rename_i hid
        rw [hid, htask]
        rfl
      · rfl
    | wait micros =>
      obtain rfl := Option.some.inj hstep
      exact goes_of_quiet hs (fun id' => by rw [hsystem]) (by rw [hsystem]) (by simp) (by simp)
        (by simp)
    | tick nanos =>
      obtain rfl := Option.some.inj hstep
      exact goes_of_quiet hs (fun id' => by rw [hsystem]) (by rw [hsystem]) (by simp) (by simp)
        (by simp)

end Moves

/-! ## Runs -/

/-- **In every run every task is a caller.** -/
theorem allStand_run (store : String) (world : World) (moves : List (Move Handle)) :
    AllStand ((callers store).run world moves) := by
  induction moves using List.reverseRecOn with
  | nil => exact fun id task htask => absurd htask (by simp [Setting.run, Setting.begin])
  | append_singleton moves move ih =>
    intro id task htask
    -- The task is that of a job, so it is a caller; where it was one before, it stood somewhere.
    have hknown := ((callers store).follows_run world (moves ++ [move])).known htask
    have hcaller : ∃ caller,
        ((callers store).run world (moves ++ [move])).caller? id = some caller := by
      unfold History.caller?
      rw [List.getElem?_eq_getElem hknown, htask]
      exact ⟨_, rfl⟩
    obtain ⟨caller, hcaller⟩ := hcaller
    rw [Setting.run_concat] at hcaller ⊢
    have hsame : ((callers store).after ((callers store).run world moves) move).caller? id =
        ((callers store).run world moves).caller? id →
        ∃ handle stand, Stands ((callers store).after ((callers store).run world moves) move) id
          handle stand := by
      intro hsame
      have hbefore := hsame.symm.trans hcaller
      obtain ⟨job, -, hfound⟩ := Option.bind_eq_some_iff.1 hbefore
      obtain ⟨task', htask', -⟩ := Option.map_eq_some_iff.1 hfound
      obtain ⟨handle, stand, hstand⟩ := ih id task' htask'
      exact ⟨handle, stand, hsame.trans hstand⟩
    cases goes_after ih move with
    | still same => exact hsame (same id)
    | started who new behind others =>
      by_cases hid : id = ((callers store).run world moves).jobs.length
      · subst hid
        exact ⟨_, _, behind⟩
      · exact hsame (others id hid)
    | @turns id' handle stand stand' who before behind others turn =>
      by_cases hid : id = id'
      · subst hid
        exact ⟨_, _, behind⟩
      · exact hsame (others id hid)
    | @dropped id' handle stand who before behind others handles =>
      by_cases hid : id = id'
      · subst hid
        exact absurd (behind.symm.trans hcaller) (by simp)
      · exact hsame (others id hid)

/-- What a move does in a run. -/
theorem goes_run (store : String) (world : World) (moves : List (Move Handle))
    (move : Move Handle) : Goes ((callers store).run world moves)
      ((callers store).run world (moves ++ [move])) move := by
  rw [Setting.run_concat]
  exact goes_after (allStand_run store world moves) move

end Handle

end Muster
