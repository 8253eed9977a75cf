import Muster.Program.Operation
import Muster.Proofs.Store.Replay

/-!
# Programs that heed what they are told

A program that has been told to give up hears of it only when it looks (`Call.IsLook`). It heeds
this if from then on it only parts: it tells something, discards its transaction and ends with the
failure that says so (`Program.Quits`). `Program.Heeds` says this of a program whatever replies it
gets, and that it never ends with that failure otherwise.

As long as a program has heard nothing, its `Sign`s are kept in their order: where it has looked,
what its transaction was answered, and its commit. So it can be said between which of its requests a
program looks.
-/

namespace Muster

/-- What can be seen of a program that has not heard that it has to give up. -/
inductive Sign
  /-- It has looked. -/
  | looked
  /-- Its transaction was answered. -/
  | asked (answered : Answered)
  /-- It has committed its transaction. -/
  | committed

/-- What a transaction was answered, if that is the sign. -/
def Sign.asked? : Sign → Option Answered
  | .asked answered => some answered
  | _ => none

namespace Call

/-- With the call a program looks whether it has been told to give up. -/
def IsLook : Call → Prop
  | .isCancelled => True
  | .next _ => True
  | _ => False

/-- From the reply the program hears that it has been told to give up. -/
def Hears : (c : Call) → c.Reply → Prop
  | .isCancelled, told => told = true
  | .next _, told => told = true
  | _, _ => False

/-- What can be seen of a program when its call is answered. -/
def signs : (c : Call) → c.Reply → List Sign
  | .isCancelled, _ => [.looked]
  | .next _, _ => [.looked]
  | .ask _ request, .ok reply => [.asked ⟨request, reply⟩]
  | .commit _, _ => [.committed]
  | _, _ => []

/-- A call with which a program parts. -/
def IsParting : Call → Prop
  | .note _ => True
  | .discard _ => True
  | _ => False

end Call

namespace Program

variable {α β : Type}

/-- The program only parts, and ends with the failure that says so. -/
def Quits : Program (Except Failure α) → Prop
  | done result => result = .error .cancelled
  | call c go => c.IsParting ∧ ∀ reply, Quits (go reply)

/-- Whatever replies it gets, the program quits once it has heard that it has to. Otherwise it ends
with a result and signs that fit `Q`, or with a failure that does not say so. -/
def Heeds (Q : α → List Sign → Prop) : Program (Except Failure α) → List Sign → Prop
  | done result, signs =>
    match result with
    | .ok a => Q a signs
    | .error failure => failure ≠ .cancelled
  | call c go, signs => ∀ reply, (c.Hears reply → (go reply).Quits) ∧
    (¬ c.Hears reply → Heeds Q (go reply) (signs ++ c.signs reply))

variable {p : Program (Except Failure α)} {f : Except Failure α → Program (Except Failure β)}
  {signs : List Sign}

/-- A program quits if its first part does and the rest does, too, behind the failure that says
so. -/
theorem Quits.bind (h : p.Quits) (hf : (f (.error .cancelled)).Quits) : (p >>= f).Quits := by
  induction p with
  | done result =>
    obtain rfl : result = .error .cancelled := h
    exact hf
  | call c go ih => exact ⟨h.1, fun reply => ih reply (h.2 reply)⟩

/-- What is asked of the end may be weakened. -/
theorem Heeds.mono {Q R : α → List Sign → Prop} (h : p.Heeds Q signs)
    (himp : ∀ a signs, Q a signs → R a signs) : p.Heeds R signs := by
  induction p generalizing signs with
  | done result =>
    cases result with
    | ok a => exact himp a signs h
    | error failure => exact h
  | call c go ih => exact fun reply => ⟨(h reply).1, fun hnot => ih reply ((h reply).2 hnot)⟩

/-- One program after another; what the first hears is heeded by the second. -/
theorem Heeds.bind {Q : β → List Sign → Prop} {R : α → List Sign → Prop} (h : p.Heeds R signs)
    (hok : ∀ a signs, R a signs → (f (.ok a)).Heeds Q signs)
    (herror : ∀ failure signs, failure ≠ .cancelled → (f (.error failure)).Heeds Q signs)
    (hquits : (f (.error .cancelled)).Quits) : (p >>= f).Heeds Q signs := by
  induction p generalizing signs with
  | done result =>
    cases result with
    | ok a => exact hok a signs h
    | error failure => exact herror failure signs h
  | call c go ih =>
    intro reply
    obtain ⟨hquit, hgo⟩ := h reply
    exact ⟨fun hhears => (hquit hhears).bind hquits, fun hnot => ih reply (hgo hnot)⟩

end Program

namespace Operation

variable {α β : Type} {signs : List Sign}

/-- The operation heeds what it is told, and succeeds only with a result and signs that fit `Q`. -/
def Heeds (p : Operation α) (signs : List Sign) (Q : α → List Sign → Prop) : Prop :=
  Program.Heeds Q p.run signs

/-- An operation that does nothing shows no sign. -/
theorem heeds_pure {Q : α → List Sign → Prop} {a : α} (h : Q a signs) : Heeds (pure a) signs Q :=
  h

/-- An operation may fail of its own accord, but not by saying that it has been told to. -/
theorem heeds_throw {Q : α → List Sign → Prop} {failure : Failure} (h : failure ≠ .cancelled) :
    Heeds (throw failure) signs Q :=
  h

/-- The second operation goes on with the signs of the first. -/
theorem heeds_bind {Q : β → List Sign → Prop} {p : Operation α} {f : α → Operation β}
    (h : p.Heeds signs fun a signs => (f a).Heeds signs Q) : (p >>= f).Heeds signs Q :=
  Program.Heeds.bind h (fun _ _ hrest => hrest) (fun _ _ hfailure => hfailure) rfl

/-- A call with which a program does not look. -/
theorem heeds_perform {c : Call} {Q : c.Reply → List Sign → Prop} (hlook : ¬ c.IsLook)
    (h : ∀ reply, Q reply (signs ++ c.signs reply)) : (perform c).Heeds signs Q := by
  refine fun reply => ⟨fun hhears => absurd ?_ hlook, fun _ => h reply⟩
  cases c with
  | isCancelled => trivial
  | next isRow => trivial
  | _ => exact hhears.elim

/-- A call of which nothing can be seen. -/
theorem heeds_silent {c : Call} {Q : c.Reply → List Sign → Prop} (hlook : ¬ c.IsLook)
    (hsigns : ∀ reply, c.signs reply = []) (h : ∀ reply, Q reply signs) :
    (perform c).Heeds signs Q := by
  refine heeds_perform hlook fun reply => ?_
  rw [hsigns reply, List.append_nil]
  exact h reply

/-! ## The steps of operations -/

/-- A notice is no sign. -/
theorem heeds_note {Q : Unit → List Sign → Prop} (notice : Notice) (h : Q () signs) :
    (note notice).Heeds signs Q :=
  heeds_silent id (fun _ => rfl) fun _ => h

/-- Any number of notices are none. -/
theorem heeds_forM_note {Q : Unit → List Sign → Prop} (notices : List Notice) (h : Q () signs) :
    Heeds (notices.forM note) signs Q := by
  induction notices with
  | nil => exact heeds_pure h
  | cons notice rest ih => exact heeds_bind (heeds_note _ ih)

/-- Reading stored texts shows no sign. -/
theorem heeds_read {Q : α → List Sign → Prop} {result : Except Stored.Fault α}
    (h : ∀ a, result = .ok a → Q a signs) : (read result).Heeds signs Q := by
  cases result with
  | ok a => exact heeds_pure (h a rfl)
  | error fault => exact heeds_throw (by simp)

/-- A call that may be planned to fail shows no sign. -/
theorem heeds_attempt {Q : Unit → List Sign → Prop} (store : String) (kind : CallKind)
    (h : Q () signs) : (attempt store kind).Heeds signs Q := by
  refine heeds_bind (heeds_silent id (fun _ => rfl) fun reply => ?_)
  cases reply with
  | none => exact heeds_pure h
  | some message => exact heeds_throw (by simp)

/-- Looking up a dictionary shows no sign. -/
theorem heeds_resolve {Q : Unit → List Sign → Prop} (handle : Handle) (h : Q () signs) :
    (resolve handle).Heeds signs Q := by
  refine heeds_bind (heeds_silent id (fun _ => rfl) fun reply => ?_)
  cases reply with
  | resolved => exact heeds_pure h
  | mine =>
    refine heeds_bind (heeds_note _ ?_)
    refine heeds_bind (heeds_silent id (fun _ => rfl) fun reply => ?_)
    cases reply with
    | none => exact heeds_silent id (fun _ => rfl) fun _ => h
    | some message =>
      exact heeds_bind (heeds_silent id (fun _ => rfl) fun _ => heeds_throw (by simp))

/-- Beginning a transaction shows no sign. -/
theorem heeds_begin {Q : Ticket → List Sign → Prop} (store : String) (h : ∀ tx, Q tx signs) :
    (begin store).Heeds signs Q := by
  refine heeds_bind (heeds_attempt _ _ ?_)
  refine heeds_bind (heeds_silent id (fun _ => rfl) fun tx => ?_)
  exact heeds_bind (heeds_silent id (fun _ => rfl) fun _ => heeds_pure (h tx))

/-- A request that is answered shows its answer. -/
theorem heeds_ask {store : String} {tx : Ticket} {request : Request}
    {Q : request.Reply → List Sign → Prop}
    (h : ∀ reply, Q reply (signs ++ [.asked ⟨request, reply⟩])) :
    (ask store tx request).Heeds signs Q := by
  refine heeds_bind (heeds_attempt _ _ ?_)
  dsimp only
  split
  · exact heeds_bind (heeds_throw (by simp))
  · refine heeds_bind (heeds_perform id fun reply => ?_)
    cases reply with
    | ok reply => exact heeds_pure (h reply)
    | error fault => exact heeds_throw (by simp)

/-- Discarding a transaction shows no sign. -/
theorem heeds_discard {Q : Unit → List Sign → Prop} (tx : Ticket) (h : Q () signs) :
    (discard tx).Heeds signs Q :=
  heeds_silent id (fun _ => rfl) fun _ => h

/-- Committing a transaction shows. -/
theorem heeds_commit {Q : Unit → List Sign → Prop} (tx : Ticket)
    (h : Q () (signs ++ [.committed])) : (commit tx).Heeds signs Q := by
  refine heeds_bind (heeds_silent id (fun _ => rfl) fun reply => ?_)
  cases reply with
  | none => exact heeds_perform id fun _ => h
  | some message => exact heeds_bind (heeds_discard tx (heeds_throw (by simp)))

/-- A transaction whose body gives up is discarded. -/
theorem heeds_within {store : String} {body : Ticket → Operation α} {Q : α → List Sign → Prop}
    (h : ∀ tx, (body tx).Heeds signs Q) : (within store body).Heeds signs Q := by
  refine heeds_bind (heeds_begin store fun tx => ?_)
  refine Program.Heeds.bind (h tx) (fun a signs ha => heeds_pure ha) ?_
    ⟨trivial, fun _ => rfl⟩
  exact fun failure signs hfailure => heeds_bind (heeds_discard tx (heeds_throw hfailure))

/-! ## Looking -/

/-- Looking whether one has been told to give up shows, and a program that has been told quits. -/
theorem heeds_checkCancelled {Q : Unit → List Sign → Prop} (h : Q () (signs ++ [.looked])) :
    checkCancelled.Heeds signs Q := by
  intro reply
  cases reply with
  | false => exact ⟨fun hhears => absurd hhears (by simp [Call.Hears]), fun _ => h⟩
  | true => exact ⟨fun _ => rfl, fun hnot => absurd rfl hnot⟩

/-- Rows arrive with a look before each of them and one before their end. -/
theorem heeds_deliver {handle : Handle} {rows : List Row} {Q : Unit → List Sign → Prop}
    (h : Q () (signs ++ List.replicate (rows.length + 1) .looked)) :
    (deliver handle rows).Heeds signs Q := by
  -- One sign more for each row, and one for the look at the end.
  induction rows generalizing signs with
  | nil =>
    intro reply
    cases reply with
    | false => exact ⟨fun hhears => absurd hhears (by simp [Call.Hears]), fun _ => h⟩
    | true => exact ⟨fun _ => ⟨trivial, fun _ => rfl⟩, fun hnot => absurd rfl hnot⟩
  | cons row rest ih =>
    intro reply
    cases reply with
    | false =>
      refine ⟨fun hhears => absurd hhears (by simp [Call.Hears]), fun _ => ?_⟩
      refine heeds_bind (heeds_attempt _ _ (ih ?_))
      rw [List.append_assoc]
      exact h
    | true => exact ⟨fun _ => ⟨trivial, fun _ => rfl⟩, fun hnot => absurd rfl hnot⟩

/-- The signs of a scan that has given rows. -/
def scanSigns (dictionary : String) (rows : List Row) : List Sign :=
  .looked :: .asked ⟨.scan dictionary, rows⟩ :: List.replicate (rows.length + 1) .looked

/-- A scan gives all rows that it was answered, unless it gives up. -/
theorem heeds_scan {handle : Handle} {tx : Ticket} {Q : List Row → List Sign → Prop}
    (h : ∀ rows, Q rows (signs ++ scanSigns handle.dictionary rows)) :
    (scan handle tx).Heeds signs Q := by
  refine heeds_bind (heeds_checkCancelled ?_)
  refine heeds_bind (heeds_ask fun rows => ?_)
  refine heeds_bind (heeds_deliver (heeds_pure ?_))
  rw [List.append_assoc, List.append_assoc]
  exact h rows

end Operation

end Muster
