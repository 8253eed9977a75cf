import Muster.Proofs.Program.Course

/-!
# Programs that lock in ascending order

Cells are in order, and a program climbs if it asks to lock only cells that it has locked already or
that are above all of those (`Program.Climbs`). What it has locked is known from the replies: a
request that was answered has locked its cell, one that failed has not. It is found as the course of
a program is, by going through the text of an operation from top to bottom; calls other than
requests leave the cells as they are.

A program that removes what a scan has found climbs because the rows of a scan ascend, so replies
are taken to be of that kind (`Call.IsOrdered`).
-/

namespace Muster

/-- The cell that a call asks to lock. -/
def Call.lock? : Call → Option Cell
  | .ask _ request => request.lock?
  | _ => none

/-- The cells that are locked after a call and its reply. -/
def Call.lockedAfter : (c : Call) → c.Reply → List Cell → List Cell
  | .ask _ request, .ok _, cells => request.lock?.toList ++ cells
  | _, _, cells => cells

/-- Calls other than requests lock nothing. -/
theorem Call.lockedAfter_of_ne_ask {c : Call} (hc : ∀ tx r, c ≠ .ask tx r) (reply : c.Reply)
    (cells : List Cell) : c.lockedAfter reply cells = cells := by
  cases c with
  | ask tx request => exact absurd rfl (hc tx request)
  | _ => rfl

/-- A reply as a store gives it: the rows of a scan ascend. -/
def Call.IsOrdered : (c : Call) → c.Reply → Prop
  | .ask _ (.scan _), .ok rows => rows.Pairwise fun row row' => compare row.1 row'.1 = .lt
  | _, _ => True

/-- A request that has failed gives no rows that could be out of order. -/
theorem Call.isOrdered_error (tx : Ticket) (request : Request) (fault : Store.Fault) :
    Call.IsOrdered (.ask tx request) (.error fault) := by
  cases request with
  | _ => trivial

/-- The cells that a course has locked. -/
def Course.locked (k : Course) : List Cell :=
  k.requests.filterMap fun answered => answered.1.lock?

/-- The cells of a course after a call. -/
theorem Course.locked_after (k : Course) (c : Call) (reply : c.Reply) :
    (k.after c reply).locked = c.lockedAfter reply k.locked := by
  cases c with
  | ask tx request =>
    cases reply with
    | ok reply =>
      show (⟨request, reply⟩ :: k.requests).filterMap _ = request.lock?.toList ++ k.locked
      cases hlock : request.lock? with
      | none => exact List.filterMap_cons_none hlock
      | some cell => exact List.filterMap_cons_some hlock
    | error fault => rfl
  | _ => rfl

/-- A cell is one of those that are locked, or it is above all of them. -/
def IsNext (cells : List Cell) (cell : Cell) : Prop :=
  cell ∈ cells ∨ ∀ locked ∈ cells, compare locked cell = .lt

/-- Where nothing is locked, every cell is next. -/
theorem isNext_nil (cell : Cell) : IsNext [] cell :=
  .inr fun _ hlocked => absurd hlocked (by simp)

/-- A cell that is locked may be asked for again. -/
theorem isNext_singleton (cell : Cell) : IsNext [cell] cell :=
  .inl (List.mem_singleton.2 rfl)

namespace Program

variable {α β : Type}

/-- The program asks to lock cells in ascending order, whatever replies it gets, and ends with a
result and locked cells that fit `Q`. -/
def Climbs (Q : α → List Cell → Prop) : Program α → List Cell → Prop
  | done a, cells => Q a cells
  | call c go, cells => (∀ cell, c.lock? = some cell → IsNext cells cell) ∧
    ∀ reply, c.IsOrdered reply → Climbs Q (go reply) (c.lockedAfter reply cells)

/-- What is asked of the end may be weakened. -/
theorem Climbs.mono {Q R : α → List Cell → Prop} {p : Program α} {cells : List Cell}
    (h : p.Climbs Q cells) (himp : ∀ a cells, Q a cells → R a cells) : p.Climbs R cells := by
  induction p generalizing cells with
  | done a => exact himp a cells h
  | call c go ih => exact ⟨h.1, fun reply hreply => ih reply (h.2 reply hreply)⟩

/-- One program after another: the second goes on with the cells that the first has locked. -/
theorem Climbs.bind {Q : α → List Cell → Prop} {R : β → List Cell → Prop} {p : Program α}
    {f : α → Program β} {cells : List Cell} (h : p.Climbs Q cells)
    (hf : ∀ a cells, Q a cells → (f a).Climbs R cells) : (p >>= f).Climbs R cells := by
  induction p generalizing cells with
  | done a => exact hf a cells h
  | call c go ih => exact ⟨h.1, fun reply hreply => ih reply (h.2 reply hreply)⟩

end Program

namespace Operation

variable {α β : Type} {cells : List Cell}

/-- The operation asks to lock cells in ascending order; if it succeeds, its result and the cells
that it has locked fit `Q`. -/
def Climbs (p : Operation α) (cells : List Cell) (Q : α → List Cell → Prop) : Prop :=
  Program.Climbs (fun result cells => ∀ a, result = .ok a → Q a cells) p.run cells

/-- An operation that does nothing locks nothing. -/
theorem climbs_pure {Q : α → List Cell → Prop} {a : α} (h : Q a cells) :
    Climbs (pure a) cells Q := by
  intro a' ha'
  rwa [← Except.ok.inj ha']

/-- An operation that fails may have locked anything. -/
theorem climbs_throw {Q : α → List Cell → Prop} (failure : Failure) :
    Climbs (throw failure) cells Q :=
  fun _ ha => absurd ha (by simp)

/-- One operation after another: the second goes on with the cells that the first has locked. -/
theorem climbs_bind {Q : β → List Cell → Prop} {p : Operation α} {f : α → Operation β}
    (h : Climbs p cells fun a cells => Climbs (f a) cells Q) : Climbs (p >>= f) cells Q := by
  refine Program.Climbs.bind h fun result cells hresult => ?_
  cases result with
  | ok a => exact hresult a rfl
  | error failure => exact climbs_throw failure

/-- To put a result into an answer locks nothing. -/
theorem Climbs.answer {p : Operation α} (h : Climbs p cells fun _ _ => True) (f : α → β) :
    Climbs (do return f (← p)) cells fun _ _ => True := by
  refine Program.Climbs.bind h fun result cells _ => ?_
  cases result with
  | ok a => exact climbs_pure trivial
  | error failure => exact climbs_throw failure

/-- A handler that fails whatever has been locked adds nothing to what the operation does. -/
theorem climbs_tryCatch {Q : α → List Cell → Prop} {p : Operation α}
    {handler : Failure → Operation α} (h : Climbs p cells Q)
    (hhandler : ∀ failure cells, Climbs (handler failure) cells Q) :
    Climbs (tryCatch p handler) cells Q := by
  refine Program.Climbs.bind h fun result cells hresult => ?_
  cases result with
  | ok a => exact climbs_pure (hresult a rfl)
  | error failure => exact hhandler failure cells

/-- A choice between operations asks in order if both do. -/
theorem climbs_ite {c : Prop} [Decidable c] {Q : α → List Cell → Prop} {p q : Operation α}
    (hp : Climbs p cells Q) (hq : Climbs q cells Q) : Climbs (if c then p else q) cells Q := by
  split
  · exact hp
  · exact hq

/-- A call other than a request leaves the cells as they are. -/
theorem climbs_perform {c : Call} {Q : c.Reply → List Cell → Prop} (hc : ∀ tx r, c ≠ .ask tx r)
    (h : ∀ reply, Q reply cells) : Climbs (perform c) cells Q := by
  have hlock : c.lock? = none := by
    cases c with
    | ask tx request => exact absurd rfl (hc tx request)
    | _ => rfl
  refine ⟨fun cell hcell => absurd (hlock.symm.trans hcell) (by simp), fun reply _ => ?_⟩
  rw [Call.lockedAfter_of_ne_ask hc]
  exact climbs_pure (h reply)

/-! ## The steps of operations -/

/-- Notices lock nothing. -/
theorem climbs_note {Q : Unit → List Cell → Prop} (notice : Notice) (h : Q () cells) :
    Climbs (note notice) cells Q :=
  climbs_perform (by simp) fun _ => h

/-- Reading stored texts locks nothing. -/
theorem climbs_read {ε : Type} {Q : ε → List Cell → Prop} (result : Except Stored.Fault ε)
    (h : ∀ a, Q a cells) : Climbs (read result) cells Q := by
  cases result with
  | ok a => exact climbs_pure (h a)
  | error fault => exact climbs_throw _

/-- A call that may be planned to fail locks nothing. -/
theorem climbs_attempt {Q : Unit → List Cell → Prop} (store : String) (kind : CallKind)
    (h : Q () cells) : Climbs (attempt store kind) cells Q := by
  refine climbs_bind (climbs_perform (by simp) fun reply => ?_)
  cases reply with
  | none => exact climbs_pure h
  | some message => exact climbs_throw _

/-- Looking up a dictionary locks nothing. -/
theorem climbs_resolve {Q : Unit → List Cell → Prop} (handle : Handle) (h : Q () cells) :
    Climbs (resolve handle) cells Q := by
  refine climbs_bind (climbs_perform (by simp) fun reply => ?_)
  cases reply with
  | resolved => exact climbs_pure h
  | mine =>
    refine climbs_bind (climbs_note _ ?_)
    refine climbs_bind (climbs_perform (by simp) fun reply => ?_)
    cases reply with
    | none => exact climbs_perform (by simp) fun _ => h
    | some message => exact climbs_bind (climbs_perform (by simp) fun _ => climbs_throw _)

/-- Beginning a transaction locks nothing. -/
theorem climbs_begin {Q : Ticket → List Cell → Prop} (store : String) (h : ∀ tx, Q tx cells) :
    Climbs (begin store) cells Q := by
  refine climbs_bind (climbs_attempt _ _ ?_)
  refine climbs_bind (climbs_perform (by simp) fun tx => ?_)
  exact climbs_bind (climbs_perform (by simp) fun _ => climbs_pure (h tx))

/-- A request locks its cell, if any, which has to be the next one. -/
theorem climbs_ask {store : String} {tx : Ticket} {request : Request}
    {Q : request.Reply → List Cell → Prop}
    (hnext : ∀ cell, request.lock? = some cell → IsNext cells cell)
    (h : ∀ reply, Call.IsOrdered (.ask tx request) (.ok reply) →
      Q reply (request.lock?.toList ++ cells)) : Climbs (ask store tx request) cells Q := by
  refine climbs_bind (climbs_attempt _ _ ?_)
  refine climbs_ite (climbs_bind (climbs_throw _)) ?_
  refine climbs_bind ⟨hnext, fun reply hreply => ?_⟩
  cases reply with
  | ok reply => exact climbs_pure (climbs_pure (h reply hreply))
  | error fault => exact climbs_pure (climbs_throw _)

/-- A request that locks nothing leaves the cells as they are. -/
theorem climbs_ask_free {store : String} {tx : Ticket} {request : Request}
    {Q : request.Reply → List Cell → Prop} (hfree : request.lock? = none)
    (h : ∀ reply, Q reply cells) : Climbs (ask store tx request) cells Q := by
  refine climbs_ask (fun cell hcell => absurd (hfree.symm.trans hcell) (by simp)) fun reply _ => ?_
  rw [hfree]
  exact h reply

/-- Discarding a transaction asks for no lock. -/
theorem climbs_discard {Q : Unit → List Cell → Prop} (tx : Ticket) (h : Q () cells) :
    Climbs (discard tx) cells Q :=
  climbs_perform (by simp) fun _ => h

/-- Committing a transaction asks for no lock. -/
theorem climbs_commit {Q : Unit → List Cell → Prop} (tx : Ticket) (h : Q () cells) :
    Climbs (commit tx) cells Q := by
  refine climbs_bind (climbs_perform (by simp) fun reply => ?_)
  cases reply with
  | none => exact climbs_perform (by simp) fun _ => h
  | some message => exact climbs_bind (climbs_discard tx (climbs_throw _))

/-- The end of a transaction that has failed locks nothing. -/
theorem climbs_within {store : String} {body : Ticket → Operation α} {Q : α → List Cell → Prop}
    (h : ∀ tx, Climbs (body tx) cells Q) : Climbs (within store body) cells Q :=
  climbs_bind (climbs_begin store fun tx => climbs_tryCatch (h tx) fun _ _ =>
    climbs_bind (climbs_discard tx (climbs_throw _)))

/-- Looking whether one has been told to give up locks nothing. -/
theorem climbs_checkCancelled {Q : Unit → List Cell → Prop} (h : Q () cells) :
    Climbs checkCancelled cells Q :=
  climbs_bind (climbs_perform (by simp) fun _ => climbs_ite (climbs_throw _) (climbs_pure h))

/-- Delivering rows locks nothing. -/
theorem climbs_deliver {Q : Unit → List Cell → Prop} (handle : Handle) (rows : List Row)
    (h : Q () cells) : Climbs (deliver handle rows) cells Q := by
  induction rows with
  | nil =>
    refine climbs_bind (climbs_perform (by simp) fun reply => ?_)
    refine climbs_ite ?_ (climbs_pure h)
    exact climbs_bind (climbs_note _ (climbs_throw _))
  | cons row rest ih =>
    refine climbs_bind (climbs_perform (by simp) fun reply => ?_)
    refine climbs_ite ?_ (climbs_bind (climbs_attempt _ _ ih))
    refine climbs_bind (climbs_note _ ?_)
    exact climbs_bind (climbs_throw _)

/-- The rows of a scan ascend, and nothing is locked by it. -/
theorem climbs_scan {Q : List Row → List Cell → Prop} (handle : Handle) (tx : Ticket)
    (h : ∀ rows : List Row, rows.Pairwise (fun row row' => compare row.1 row'.1 = .lt) →
      Q rows cells) : Climbs (scan handle tx) cells Q := by
  refine climbs_bind (climbs_checkCancelled ?_)
  refine climbs_bind (climbs_ask (by simp [Request.lock?]) fun rows hrows => ?_)
  exact climbs_bind (climbs_deliver _ _ (climbs_pure (h rows hrows)))

/-- Any number of notices lock nothing. -/
theorem climbs_forM_note {Q : Unit → List Cell → Prop} (notices : List Notice) (h : Q () cells) :
    Climbs (notices.forM note) cells Q := by
  induction notices with
  | nil => exact climbs_pure h
  | cons notice rest ih => exact climbs_bind (climbs_note _ ih)

end Operation

end Muster
