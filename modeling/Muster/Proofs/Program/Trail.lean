import Muster.Program.Operation

/-!
# The trail of a program

Besides its transaction a program may read the clock of refreshes and hand in gateway lists. What it
has read and handed in is its `Trail`. `Program.Leaves` says which trail a program leaves, whatever
replies it gets; it is found as the course of a program is, by going through the text of an
operation from top to bottom.

Most operations do neither. They are plain (`Operation.IsPlain`), and a plain operation leaves the
trail as it is, so of a refresh only the two calls that matter have to be looked at.
-/

namespace Muster

/-- What a program has read from the clock, and which gateway lists it has handed in. -/
structure Trail where
  /-- What it has read from the clock, the last first. -/
  readings : List Nat
  /-- The lists that it has handed in with their owners, the last first. -/
  published : List (String × KeptList)

namespace Trail

/-- The trail of a program that has not begun. -/
def start : Trail :=
  ⟨[], []⟩

/-- The trail after a call and its reply. -/
def after (k : Trail) : (c : Call) → c.Reply → Trail
  | .now, instant => { k with readings := instant :: k.readings }
  | .publish owner list, _ => { k with published := (owner, list) :: k.published }
  | _, _ => k

end Trail

/-- A call that neither reads the clock nor hands in a gateway list. -/
def Call.IsPlain : Call → Prop
  | .now => False
  | .publish _ _ => False
  | _ => True

/-- A plain call leaves the trail as it is. -/
theorem Call.IsPlain.after {c : Call} (hc : c.IsPlain) (k : Trail) (reply : c.Reply) :
    k.after c reply = k := by
  cases c with
  | now => exact hc.elim
  | publish owner list => exact hc.elim
  | _ => rfl

namespace Program

variable {α β : Type}

/-- From a trail on, the program ends with a result and a trail that fit `Q`, whatever replies it
gets. -/
def Leaves (Q : α → Trail → Prop) : Program α → Trail → Prop
  | done a, k => Q a k
  | call c go, k => ∀ reply, Leaves Q (go reply) (k.after c reply)

/-- Where one program ends the trail of the next begins. -/
theorem Leaves.bind {Q : α → Trail → Prop} {R : β → Trail → Prop} {p : Program α}
    {f : α → Program β} {k : Trail} (h : p.Leaves Q k) (hf : ∀ a k, Q a k → (f a).Leaves R k) :
    (p >>= f).Leaves R k := by
  induction p generalizing k with
  | done a => exact hf a k h
  | call c go ih => exact fun reply => ih reply (h reply)

/-- All calls of the program are plain, whatever replies it gets. -/
def IsPlain : Program α → Prop
  | done _ => True
  | call c go => c.IsPlain ∧ ∀ reply, IsPlain (go reply)

/-- One program after another is plain if both are. -/
theorem IsPlain.bind {p : Program α} {f : α → Program β} (h : p.IsPlain)
    (hf : ∀ a, (f a).IsPlain) : (p >>= f).IsPlain := by
  induction p with
  | done a => exact hf a
  | call c go ih => exact ⟨h.1, fun reply => ih reply (h.2 reply)⟩

/-- A plain program leaves the trail as it is. -/
theorem IsPlain.leaves {Q : α → Trail → Prop} {p : Program α} {k : Trail} (h : p.IsPlain)
    (hQ : ∀ a, Q a k) : p.Leaves Q k := by
  induction p with
  | done a => exact hQ a
  | call c go ih =>
    intro reply
    rw [h.1.after]
    exact ih reply (h.2 reply)

end Program

namespace Operation

variable {α β : Type}

/-- All calls of the operation are plain. -/
def IsPlain (p : Operation α) : Prop :=
  Program.IsPlain p.run

/-- An operation that does nothing is plain. -/
theorem isPlain_pure (a : α) : IsPlain (pure a) :=
  trivial

/-- An operation that only fails is plain. -/
theorem isPlain_throw (failure : Failure) : IsPlain (throw failure : Operation α) :=
  trivial

/-- Nothing follows a failure. -/
theorem isPlain_throw_bind (failure : Failure) {f : α → Operation β} :
    IsPlain ((throw failure : Operation α) >>= f) :=
  trivial

/-- One operation after another is plain if both are. -/
theorem isPlain_bind {p : Operation α} {f : α → Operation β} (h : p.IsPlain)
    (hf : ∀ a, (f a).IsPlain) : (p >>= f).IsPlain := by
  refine Program.IsPlain.bind h fun result => ?_
  cases result with
  | ok a => exact hf a
  | error failure => exact trivial

/-- An operation is plain if it is plain up to a failure and behind it. -/
theorem isPlain_tryCatch {p : Operation α} {handler : Failure → Operation α} (h : p.IsPlain)
    (hhandler : ∀ failure, (handler failure).IsPlain) : IsPlain (tryCatch p handler) := by
  refine Program.IsPlain.bind h fun result => ?_
  cases result with
  | ok a => exact trivial
  | error failure => exact hhandler failure

/-- A plain call is a plain operation. -/
theorem isPlain_perform {c : Call} (hc : c.IsPlain) : (perform c).IsPlain :=
  ⟨hc, fun _ => trivial⟩

/-- A choice between operations is plain if both are. -/
theorem isPlain_ite {c : Prop} [Decidable c] {p q : Operation α} (hp : p.IsPlain)
    (hq : q.IsPlain) : IsPlain (if c then p else q) := by
  split
  · exact hp
  · exact hq

/-! ## The steps of operations -/

/-- Notices are plain. -/
theorem isPlain_note (notice : Notice) : (note notice).IsPlain :=
  isPlain_perform trivial

/-- Reading stored texts is plain. -/
theorem isPlain_read (result : Except Stored.Fault α) : (read result).IsPlain := by
  cases result with
  | ok a => exact isPlain_pure a
  | error fault => exact isPlain_throw _

/-- A call that may be planned to fail is plain. -/
theorem isPlain_attempt (store : String) (kind : CallKind) : (attempt store kind).IsPlain := by
  refine isPlain_bind (isPlain_perform trivial) fun reply => ?_
  cases reply with
  | none => exact isPlain_pure ()
  | some message => exact isPlain_throw _

/-- Looking up a dictionary is plain. -/
theorem isPlain_resolve (handle : Handle) : (resolve handle).IsPlain := by
  refine isPlain_bind (isPlain_perform trivial) fun reply => ?_
  cases reply with
  | resolved => exact isPlain_pure ()
  | mine =>
    refine isPlain_bind (isPlain_note _) fun _ => ?_
    refine isPlain_bind (isPlain_perform trivial) ?_
    intro reply
    cases reply with
    | none => exact isPlain_perform trivial
    | some message => exact isPlain_bind (isPlain_perform trivial) fun _ => isPlain_throw _

/-- Beginning a transaction is plain. -/
theorem isPlain_begin (store : String) : (begin store).IsPlain :=
  isPlain_bind (isPlain_attempt _ _) fun _ => isPlain_bind (isPlain_perform trivial) fun tx =>
    isPlain_bind (isPlain_perform trivial) fun _ => isPlain_pure tx

/-- Requests are plain. -/
theorem isPlain_ask (store : String) (tx : Ticket) (request : Request) :
    (ask store tx request).IsPlain := by
  refine isPlain_bind (isPlain_attempt _ _) fun _ => isPlain_ite (isPlain_throw_bind _) ?_
  refine isPlain_bind (isPlain_perform trivial) fun reply => ?_
  cases reply with
  | ok reply => exact isPlain_pure reply
  | error fault => exact isPlain_throw _

/-- Discarding a transaction is plain. -/
theorem isPlain_discard (tx : Ticket) : (discard tx).IsPlain :=
  isPlain_perform trivial

/-- Committing a transaction is plain. -/
theorem isPlain_commit (tx : Ticket) : (commit tx).IsPlain := by
  refine isPlain_bind (isPlain_perform trivial) fun reply => ?_
  cases reply with
  | none => exact isPlain_perform trivial
  | some message => exact isPlain_bind (isPlain_discard tx) fun _ => isPlain_throw _

/-- A transaction is plain if its body is. -/
theorem isPlain_within {store : String} {body : Ticket → Operation α}
    (h : ∀ tx, (body tx).IsPlain) : (within store body).IsPlain :=
  isPlain_bind (isPlain_begin store) fun tx => isPlain_tryCatch (h tx) fun _ =>
    isPlain_bind (isPlain_discard tx) fun _ => isPlain_throw _

/-- Looking whether one has been told to give up is plain. -/
theorem isPlain_checkCancelled : IsPlain checkCancelled := by
  refine isPlain_bind (isPlain_perform trivial) fun reply => ?_
  exact isPlain_ite (isPlain_throw _) (isPlain_pure ())

/-- Delivering rows is plain. -/
theorem isPlain_deliver (handle : Handle) (rows : List Row) : (deliver handle rows).IsPlain := by
  induction rows with
  | nil =>
    refine isPlain_bind (isPlain_perform trivial) fun reply => ?_
    exact isPlain_ite (isPlain_bind (isPlain_note _) fun _ => isPlain_throw _) (isPlain_pure ())
  | cons row rest ih =>
    refine isPlain_bind (isPlain_perform trivial) fun reply => ?_
    refine isPlain_ite (isPlain_bind (isPlain_note _) fun _ => isPlain_throw_bind _) ?_
    exact isPlain_bind (isPlain_attempt _ _) fun _ => ih

/-- Scanning a dictionary is plain. -/
theorem isPlain_scan (handle : Handle) (tx : Ticket) : (scan handle tx).IsPlain :=
  isPlain_bind isPlain_checkCancelled fun _ => isPlain_bind (isPlain_ask _ _ _) fun rows =>
    isPlain_bind (isPlain_deliver _ _) fun _ => isPlain_pure rows

/-- A loop is plain if its body is. -/
theorem isPlain_forM {γ : Type} {f : γ → Operation Unit} (h : ∀ a, (f a).IsPlain)
    (items : List γ) : (items.forM f).IsPlain := by
  induction items with
  | nil => exact isPlain_pure ()
  | cons item rest ih => exact isPlain_bind (h item) fun _ => ih

/-! ## Trails of operations -/

/-- From a trail on, the operation ends with a result, be it a failure, and a trail that fit `Q`. -/
def Leaves (p : Operation α) (k : Trail) (Q : Except Failure α → Trail → Prop) : Prop :=
  Program.Leaves Q p.run k

variable {k : Trail}

/-- An operation that does nothing leaves the trail as it is. -/
theorem leaves_pure {Q : Except Failure α → Trail → Prop} {a : α} (h : Q (.ok a) k) :
    Leaves (pure a) k Q :=
  h

/-- One operation after another; if the first fails, its failure is the result. -/
theorem leaves_bind {Q : Except Failure β → Trail → Prop} {R : Except Failure α → Trail → Prop}
    {p : Operation α} {f : α → Operation β} (h : p.Leaves k R)
    (hf : ∀ a k, R (.ok a) k → (f a).Leaves k Q)
    (hE : ∀ failure k, R (.error failure) k → Q (.error failure) k) : (p >>= f).Leaves k Q := by
  refine Program.Leaves.bind h fun result k hresult => ?_
  cases result with
  | ok a => exact hf a k hresult
  | error failure => exact hE failure k hresult

/-- A plain operation leaves the trail to the one behind it. -/
theorem IsPlain.leaves_bind {Q : Except Failure β → Trail → Prop} {p : Operation α}
    {f : α → Operation β} (h : p.IsPlain) (hE : ∀ failure, Q (.error failure) k)
    (hf : ∀ a, (f a).Leaves k Q) : (p >>= f).Leaves k Q := by
  have hplain : p.Leaves k fun _ k' => k' = k := Program.IsPlain.leaves h fun _ => rfl
  refine Operation.leaves_bind hplain (fun a k' hk => ?_) fun failure k' hk => ?_
  · rw [hk]
    exact hf a
  · rw [hk]
    exact hE failure

/-- One call, and then an operation. -/
theorem leaves_perform_bind {Q : Except Failure α → Trail → Prop} {c : Call}
    {f : c.Reply → Operation α} (h : ∀ reply, (f reply).Leaves (k.after c reply) Q) :
    (perform c >>= f).Leaves k Q :=
  h

end Operation

end Muster
