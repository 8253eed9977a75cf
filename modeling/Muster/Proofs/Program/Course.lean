import Muster.Program.Operation
import Muster.Proofs.Store.Replay

/-!
# The course of a program

Of a program on its way it matters how far it has got with its transaction, what the transaction was
answered and which etags it was given: its `Course`. A `Discipline` says what a program may do in
which course: begin one transaction on a given store, use no other, and commit only in a course that
fits a given predicate. `Program.Along` says that a program keeps the discipline, whatever replies
it gets, and ends with a result and a course that fit.

The rules for operations follow the way in which operations are made, so that the course of an
operation is found by going through its text from top to bottom. Failures need no telling apart: all
that matters is that an operation that fails has not committed anything and leaves no transaction
open (`Course.IsFailed`).
-/

namespace Muster

/-- How far a program has got with its transaction. -/
inductive Stage
  /-- It has not begun one. -/
  | fresh
  /-- The transaction has begun and not ended. -/
  | opened (tx : Ticket)
  /-- The transaction has ended without its changes. -/
  | discarded (tx : Ticket)
  /-- The transaction has ended with its changes. -/
  | committed (tx : Ticket)

/-- What a program on its way has done. -/
structure Course where
  /-- How far it has got with its transaction. -/
  stage : Stage
  /-- The requests that its transaction was answered, the last first. -/
  requests : List Answered
  /-- The etags that it was given, the last first. -/
  etags : List String

namespace Course

/-- The course of a program that has not begun. -/
def start : Course :=
  ⟨.fresh, [], []⟩

/-- The course after a call and its reply. -/
def after (k : Course) : (c : Call) → c.Reply → Course
  | .begin _, tx => { k with stage := .opened tx }
  | .ask _ request, .ok reply => { k with requests := ⟨request, reply⟩ :: k.requests }
  | .commit tx, _ => { k with stage := .committed tx }
  | .discard tx, _ => { k with stage := .discarded tx }
  | .mint, etag => { k with etags := etag :: k.etags }
  | _, _ => k

/-- A request neither begins nor ends a transaction. -/
theorem stage_after_ask (k : Course) (tx : Ticket) (request : Request)
    (reply : Except Store.Fault request.Reply) :
    (k.after (.ask tx request) reply).stage = k.stage :=
  match reply with
  | .ok _ => rfl
  | .error _ => rfl

/-- The course has a transaction that has not ended. -/
def IsOpen (k : Course) : Prop :=
  ∃ tx, k.stage = .opened tx

/-- The course has a transaction that has ended with its changes. -/
def IsCommitted (k : Course) : Prop :=
  ∃ tx, k.stage = .committed tx

instance (k : Course) : Decidable k.IsCommitted :=
  match h : k.stage with
  | .committed tx => isTrue ⟨tx, h⟩
  | .fresh => isFalse fun ⟨_, htx⟩ => Stage.noConfusion (h.symm.trans htx)
  | .opened _ => isFalse fun ⟨_, htx⟩ => Stage.noConfusion (h.symm.trans htx)
  | .discarded _ => isFalse fun ⟨_, htx⟩ => Stage.noConfusion (h.symm.trans htx)

/-- The course of an operation that failed: nothing is committed and nothing is left open. -/
def IsFailed (k : Course) : Prop :=
  k.stage = .fresh ∨ ∃ tx, k.stage = .discarded tx

/-- A course that has failed began no transaction or discarded it. -/
theorem IsFailed.not_opened {k : Course} (h : k.IsFailed) (tx : Ticket) :
    k.stage ≠ .opened tx := by
  intro hopened
  rcases h with hstage | ⟨tx', hstage⟩
  · exact absurd (hstage.symm.trans hopened) (by simp)
  · exact absurd (hstage.symm.trans hopened) (by simp)

/-- The course of an operation that failed is not that of one that has committed. -/
theorem IsFailed.not_isCommitted {k : Course} (h : k.IsFailed) : ¬ k.IsCommitted := by
  rintro ⟨tx, htx⟩
  rcases h with hstage | ⟨tx', hstage⟩
  · exact absurd (hstage.symm.trans htx) (by simp)
  · exact absurd (hstage.symm.trans htx) (by simp)

/-- The transaction of the course has not been committed, and it is the given one. -/
def IsOn (tx : Ticket) (k : Course) : Prop :=
  k.stage = .opened tx ∨ k.stage = .discarded tx

end Course

/-- What a program may do. -/
structure Discipline where
  /-- The store on which it may begin a transaction. -/
  store : String
  /-- The courses with which it may have committed. -/
  commits : Course → Prop

namespace Discipline

/-- Whether a call may be made in a course. -/
def Allows (d : Discipline) (k : Course) : Call → Prop
  | .begin store => store = d.store ∧ k.stage = .fresh
  | .pass tx => k.stage = .opened tx
  | .ask tx _ => k.stage = .opened tx
  | .commit tx => k.stage = .opened tx ∧ d.commits { k with stage := .committed tx }
  | .discard tx => k.IsOn tx
  | .mint => k.stage = .fresh ∨ k.IsOpen
  | _ => True

end Discipline

/-- A reply that a call can get: a transaction belongs to the store on which it was begun. -/
def Call.IsReply : (c : Call) → c.Reply → Prop
  | .begin store, tx => tx.store = store
  | _, _ => True

namespace Program

variable {α β : Type} {d : Discipline}

/-- From a course on, the program keeps the discipline whatever replies it gets, and ends with a
result and a course that fit `Q`. -/
def Along (d : Discipline) (Q : α → Course → Prop) : Program α → Course → Prop
  | done a, k => Q a k
  | call c go, k => d.Allows k c ∧ ∀ reply, c.IsReply reply → Along d Q (go reply) (k.after c reply)

/-- What is asked of the end may be weakened. -/
theorem Along.mono {Q R : α → Course → Prop} {p : Program α} {k : Course} (h : p.Along d Q k)
    (himp : ∀ a k, Q a k → R a k) : p.Along d R k := by
  induction p generalizing k with
  | done a => exact himp a k h
  | call c go ih => exact ⟨h.1, fun reply hreply => ih reply (h.2 reply hreply)⟩

/-- A program that goes on with another one keeps the discipline if both do. -/
theorem Along.bind {Q : α → Course → Prop} {R : β → Course → Prop} {p : Program α}
    {f : α → Program β} {k : Course} (h : p.Along d Q k)
    (hf : ∀ a k, Q a k → (f a).Along d R k) : (p >>= f).Along d R k := by
  induction p generalizing k with
  | done a => exact hf a k h
  | call c go ih => exact ⟨h.1, fun reply hreply => ih reply (h.2 reply hreply)⟩

end Program

namespace Operation

variable {α β : Type} {d : Discipline} {E : Course → Prop} {k : Course}

/-- The operation keeps the discipline; it succeeds with a result and a course that fit `Q`, or it
fails with a course that fits `E`. -/
def Along (d : Discipline) (E : Course → Prop) (p : Operation α) (k : Course)
    (Q : α → Course → Prop) : Prop :=
  Program.Along d (fun result k => match result with | .ok a => Q a k | .error _ => E k) p.run k

/-- An operation that does nothing leaves the course as it is. -/
theorem along_pure {Q : α → Course → Prop} {a : α} (h : Q a k) :
    Along d E (pure a) k Q :=
  h

/-- An operation may fail where its course fits a failure. -/
theorem along_throw {Q : α → Course → Prop} {failure : Failure} (h : E k) :
    Along d E (throw failure) k Q :=
  h

/-- One operation after another: the second goes on in the course that the first has led to. -/
theorem along_bind {Q : β → Course → Prop} {p : Operation α} {f : α → Operation β}
    (h : Along d E p k fun a k => Along d E (f a) k Q) : Along d E (p >>= f) k Q := by
  refine Program.Along.bind h fun result k hresult => ?_
  cases result with
  | ok a => exact hresult
  | error failure => exact hresult

/-- A handler takes over in the course in which the operation failed. -/
theorem along_tryCatch {E' : Course → Prop} {Q : α → Course → Prop} {p : Operation α}
    {handler : Failure → Operation α} (h : Along d E' p k Q)
    (hhandler : ∀ failure k, E' k → Along d E (handler failure) k Q) :
    Along d E (tryCatch p handler) k Q := by
  refine Program.Along.bind h fun result k hresult => ?_
  cases result with
  | ok a => exact hresult
  | error failure => exact hhandler failure k hresult

/-- One call. -/
theorem along_perform {c : Call} {Q : c.Reply → Course → Prop} (hallows : d.Allows k c)
    (h : ∀ reply, c.IsReply reply → Q reply (k.after c reply)) : Along d E (perform c) k Q :=
  ⟨hallows, h⟩

/-! ## The steps of operations -/

/-- Notices leave the course as it is. -/
theorem along_note {Q : Unit → Course → Prop} (notice : Notice) (h : Q () k) :
    Along d E (note notice) k Q :=
  along_perform trivial fun _ _ => h

/-- Reading stored texts leaves the course as it is, also if they cannot be read. -/
theorem along_read {ε : Type} {Q : ε → Course → Prop} {result : Except Stored.Fault ε}
    (h : ∀ a, result = .ok a → Q a k) (hE : E k) : Along d E (read result) k Q := by
  cases result with
  | ok a => exact along_pure (h a rfl)
  | error fault => exact along_throw hE

/-- A call that may be planned to fail leaves the course as it is. -/
theorem along_attempt {Q : Unit → Course → Prop} (store : String) (kind : CallKind) (h : Q () k)
    (hE : E k) : Along d E (attempt store kind) k Q := by
  refine along_bind (along_perform trivial fun reply _ => ?_)
  cases reply with
  | none => exact along_pure h
  | some message => exact along_throw hE

/-- Looking up a dictionary leaves the course as it is. -/
theorem along_resolve {Q : Unit → Course → Prop} (handle : Handle) (h : Q () k) (hE : E k) :
    Along d E (resolve handle) k Q := by
  refine along_bind (along_perform trivial fun reply _ => ?_)
  cases reply with
  | resolved => exact along_pure h
  -- The handle is looked up by this program, which settles it either way.
  | mine =>
    refine along_bind (along_note _ ?_)
    refine along_bind (along_perform trivial fun reply _ => ?_)
    cases reply with
    | none => exact along_perform trivial fun _ _ => h
    | some message => exact along_bind (along_perform trivial fun _ _ => along_throw hE)

/-- An etag may be minted before the transaction and within it. -/
theorem along_mint {Q : String → Course → Prop} (hstage : k.stage = .fresh ∨ k.IsOpen)
    (h : ∀ etag, Q etag { k with etags := etag :: k.etags }) : Along d E (perform .mint) k Q :=
  along_perform hstage fun etag _ => h etag

/-- A transaction is begun by an operation that has not begun one. -/
theorem along_begin {Q : Ticket → Course → Prop} (hstage : k.stage = .fresh) (hE : E k)
    (h : ∀ tx : Ticket, tx.store = d.store → Q tx { k with stage := .opened tx }) :
    Along d E (begin d.store) k Q := by
  refine along_bind (along_attempt _ _ ?_ hE)
  refine along_bind (along_perform ⟨rfl, hstage⟩ fun tx htx => ?_)
  refine along_bind (along_perform rfl fun _ _ => ?_)
  exact along_pure (h tx htx)

/-- A request that is answered is added to the course; one that is not leaves it as it is. -/
theorem along_ask {tx : Ticket} {request : Request} {Q : request.Reply → Course → Prop}
    (hstage : k.stage = .opened tx) (hstore : tx.store = d.store) (hE : E k)
    (h : ∀ reply, Q reply { k with requests := ⟨request, reply⟩ :: k.requests }) :
    Along d E (ask d.store tx request) k Q := by
  refine along_bind (along_attempt _ _ ?_ hE)
  -- The ticket is one of this store, so the request is made.
  rw [if_neg (not_not_intro hstore)]
  refine along_bind (along_perform hstage fun reply _ => ?_)
  cases reply with
  | ok reply => exact along_pure (h reply)
  | error fault => exact along_throw hE

/-- A transaction that has not been committed may be discarded. -/
theorem along_discard {tx : Ticket} {Q : Unit → Course → Prop} (hstage : k.IsOn tx)
    (h : Q () { k with stage := .discarded tx }) : Along d E (discard tx) k Q :=
  along_perform hstage fun _ _ => h

/-- A commit either takes place or discards the transaction. -/
theorem along_commit {tx : Ticket} {Q : Unit → Course → Prop} (hstage : k.stage = .opened tx)
    (hcommits : d.commits { k with stage := .committed tx })
    (hE : E { k with stage := .discarded tx }) (h : Q () { k with stage := .committed tx }) :
    Along d E (commit tx) k Q := by
  refine along_bind (along_perform trivial fun reply _ => ?_)
  cases reply with
  -- No fault is planned, so the transaction ends with its changes.
  | none => exact along_perform ⟨hstage, hcommits⟩ fun _ _ => h
  | some message => exact along_bind (along_discard (.inl hstage) (along_throw hE))

/-- Whatever way the body of a transaction fails, nothing is left open behind it. -/
theorem along_within {body : Ticket → Operation α} {Q : α → Course → Prop}
    (hstage : k.stage = .fresh)
    (h : ∀ tx : Ticket, tx.store = d.store →
      Along d (Course.IsOn tx) (body tx) { k with stage := .opened tx } Q) :
    Along d Course.IsFailed (within d.store body) k Q := by
  refine along_bind (along_begin hstage (.inl hstage) fun tx htx => ?_)
  -- The handler discards what the body has left open and passes its failure on.
  refine along_tryCatch (h tx htx) fun failure k hon => ?_
  exact along_bind (along_discard hon (along_throw (.inr ⟨tx, rfl⟩)))

/-- Looking whether one has been told to give up leaves the course as it is. -/
theorem along_checkCancelled {Q : Unit → Course → Prop} (h : Q () k) (hE : E k) :
    Along d E checkCancelled k Q := by
  refine along_bind (along_perform trivial fun reply _ => ?_)
  cases reply with
  | false => exact along_pure h
  | true => exact along_throw hE

/-- Delivering rows leaves the course as it is. -/
theorem along_deliver {Q : Unit → Course → Prop} (handle : Handle) (rows : List Row) (h : Q () k)
    (hE : E k) : Along d E (deliver handle rows) k Q := by
  induction rows with
  | nil =>
    refine along_bind (along_perform trivial fun reply _ => ?_)
    cases reply with
    | false => exact along_pure h
    | true => exact along_bind (along_note _ (along_throw hE))
  | cons row rest ih =>
    refine along_bind (along_perform trivial fun reply _ => ?_)
    cases reply with
    | false => exact along_bind (along_attempt _ _ ih hE)
    | true =>
      refine along_bind (along_note _ ?_)
      exact along_bind (along_throw hE)

/-- A scan is one request; letting its rows arrive does not add to the course. -/
theorem along_scan {tx : Ticket} {handle : Handle} {Q : List Row → Course → Prop}
    (hhandle : handle.store = d.store) (hstage : k.stage = .opened tx)
    (hstore : tx.store = d.store) (hE : ∀ k : Course, k.stage = .opened tx → E k)
    (h : ∀ rows, Q rows
      { k with requests := ⟨.scan handle.dictionary, rows⟩ :: k.requests }) :
    Along d E (scan handle tx) k Q := by
  refine along_bind (along_checkCancelled ?_ (hE _ hstage))
  rw [hhandle]
  refine along_bind (along_ask hstage hstore (hE _ hstage) fun rows => ?_)
  exact along_bind (along_deliver _ _ (along_pure (h rows)) (hE _ hstage))

end Operation

end Muster
