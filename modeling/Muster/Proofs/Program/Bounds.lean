import Muster.Proofs.Program.Course

/-!
# The bounds of a program

Whatever replies a program gets, it makes its calls on one store and asks for nothing but what is in
some of the dictionaries there: it keeps to its `Bounds`. `Program.KeepsTo` says so, together with
the results and the courses with which the program ends. Unlike `Program.Along` it tells failures
apart, and it leaves out replies that no world gives: a request that locks no cell is not refused.

What is left of a program after some replies is what the program leads to (`Program.Leads`). A
program that keeps to its bounds leads only to programs that do, and on the way there it was
answered no request beyond them (`KeepsTo.leads`).
-/

namespace Muster

/-- The dictionary that a request is about. -/
def Request.dictionary : Request → String
  | .read cell => cell.dictionary
  | .readLocked cell => cell.dictionary
  | .set cell _ => cell.dictionary
  | .add cell _ => cell.dictionary
  | .remove cell => cell.dictionary
  | .scan dictionary => dictionary

/-- A request locks in the dictionary that it is about. -/
theorem Request.dictionary_of_lock? {r : Request} {cell : Cell} (h : r.lock? = some cell) :
    cell.dictionary = r.dictionary := by
  cases r with
  | read cell' => exact absurd h (by simp [lock?])
  | scan dictionary => exact absurd h (by simp [lock?])
  | _ =>
    obtain rfl := Option.some.inj h
    rfl

/-- What a program keeps to. -/
structure Bounds where
  /-- The store that it uses. -/
  store : String
  /-- The dictionaries that it uses. -/
  Has : String → Prop
  /-- Whether calls on the store may be planned to fail. -/
  MayFail : Prop

/-- A failure that was planned fits, wherever it comes up. -/
def Bounds.AllowsFaults {α : Type} (e : Bounds) (Q : Except Failure α → Course → Prop) : Prop :=
  ∀ k message, e.MayFail → Q (.error (.store (.planned message))) k

/-- A call within bounds. -/
def Call.IsWithin (e : Bounds) : Call → Prop
  | .claim handle => e.Has handle.dictionary
  | .settle handle _ => e.Has handle.dictionary
  | .attempt store _ => store = e.store
  | .begin store => store = e.store
  | .ask _ request => e.Has request.dictionary
  | _ => True

/-- A reply that a call can get from a world: a transaction belongs to the store on which it was
begun, only a request for a lock is refused, and a call on the given store fails only if it may. -/
def Call.Gets (store : String) (MayFail : Prop) : (c : Call) → c.Reply → Prop
  | .begin name, tx => tx.store = name
  | .ask _ request, .error _ => request.lock?.isSome = true
  | .attempt name _, some _ => name = store → MayFail
  | _, _ => True

/-- The requests of a course after a call are those before and, if it was a request, that one. -/
theorem Course.mem_requests_after {k : Course} {c : Call} {reply : c.Reply} {a : Answered}
    (h : a ∈ (k.after c reply).requests) :
    a ∈ k.requests ∨ ∃ tx request, c = .ask tx request ∧ a.1 = request := by
  cases c with
  | ask tx request =>
    cases reply with
    | ok reply =>
      rcases List.mem_cons.1 h with rfl | hold
      · exact .inr ⟨tx, request, rfl, rfl⟩
      · exact .inl hold
    | error fault => exact .inl h
  | _ => exact .inl h

namespace Program

variable {α β : Type} {e : Bounds}

/-- From a course on, the program keeps to the bounds whatever replies it gets, and ends with a
result and a course that fit `Q`. -/
def KeepsTo (e : Bounds) (Q : α → Course → Prop) : Program α → Course → Prop
  | done a, k => Q a k
  | call c go, k => c.IsWithin e ∧
    ∀ reply, c.Gets e.store e.MayFail reply → KeepsTo e Q (go reply) (k.after c reply)

/-- What is asked of the end may be weakened. -/
theorem KeepsTo.mono {Q R : α → Course → Prop} {p : Program α} {k : Course} (h : p.KeepsTo e Q k)
    (himp : ∀ a k, Q a k → R a k) : p.KeepsTo e R k := by
  induction p generalizing k with
  | done a => exact himp a k h
  | call c go ih => exact ⟨h.1, fun reply hreply => ih reply (h.2 reply hreply)⟩

/-- A program that goes on with another one keeps to the bounds if both do. -/
theorem KeepsTo.bind {Q : α → Course → Prop} {R : β → Course → Prop} {p : Program α}
    {f : α → Program β} {k : Course} (h : p.KeepsTo e Q k)
    (hf : ∀ a k, Q a k → (f a).KeepsTo e R k) : (p >>= f).KeepsTo e R k := by
  induction p generalizing k with
  | done a => exact hf a k h
  | call c go ih => exact ⟨h.1, fun reply hreply => ih reply (h.2 reply hreply)⟩

/-- After replies that it can get, the program `p` goes on as another one with a course. -/
inductive Leads (store : String) (MayFail : Prop) (p : Program α) : Program α → Course → Prop
  /-- It has not made a call yet. -/
  | start : Leads store MayFail p p .start
  /-- Its call was answered. -/
  | reply {c : Call} {go : c.Reply → Program α} {k : Course} {reply : c.Reply}
    (before : Leads store MayFail p (.call c go) k) (hreply : c.Gets store MayFail reply) :
    Leads store MayFail p (go reply) (k.after c reply)

/-- Where a program leads that keeps to its bounds, it keeps to them still, and it was answered
nothing beyond them. -/
theorem KeepsTo.leads {Q : α → Course → Prop} {p q : Program α} {k : Course}
    (h : p.KeepsTo e Q .start) (hleads : p.Leads e.store e.MayFail q k) :
    q.KeepsTo e Q k ∧ ∀ a ∈ k.requests, e.Has a.1.dictionary := by
  induction hleads with
  | start => exact ⟨h, fun a ha => absurd ha (by simp [Course.start])⟩
  | reply before hreply ih =>
    refine ⟨ih.1.2 _ hreply, fun a ha => ?_⟩
    rcases Course.mem_requests_after ha with hold | ⟨tx, request, rfl, hrequest⟩
    · exact ih.2 a hold
    · rw [hrequest]
      exact ih.1.1

end Program

namespace Operation

variable {α β : Type} {e : Bounds} {k : Course} {Q : Except Failure α → Course → Prop}

/-- From a course on, the operation keeps to the bounds and ends with a result, be it a failure, and
a course that fit `Q`. -/
def KeepsTo (e : Bounds) (p : Operation α) (k : Course) (Q : Except Failure α → Course → Prop) :
    Prop :=
  Program.KeepsTo e Q p.run k

/-- An operation that does nothing keeps to all bounds. -/
theorem keepsTo_pure {a : α} (h : Q (.ok a) k) : KeepsTo e (pure a) k Q :=
  h

/-- An operation that only fails keeps to all bounds. -/
theorem keepsTo_throw {failure : Failure} (h : Q (.error failure) k) :
    KeepsTo e (throw failure) k Q :=
  h

/-- One operation after another; if the first fails, its failure is the result. -/
theorem keepsTo_bind {R : Except Failure β → Course → Prop} {p : Operation α} {f : α → Operation β}
    (h : KeepsTo e p k fun result k =>
      match result with
      | .ok a => KeepsTo e (f a) k R
      | .error failure => R (.error failure) k) : KeepsTo e (p >>= f) k R := by
  refine Program.KeepsTo.bind h fun result k hresult => ?_
  cases result with
  | ok a => exact hresult
  | error failure => exact hresult

/-- An operation whose result is only wrapped. -/
theorem KeepsTo.answer {p : Operation α} (h : KeepsTo e p k Q) (f : α → β) :
    KeepsTo e (do return f (← p)) k fun result k => ∃ inner, result = inner.map f ∧ Q inner k := by
  refine keepsTo_bind (Program.KeepsTo.mono h fun result k hresult => ?_)
  cases result with
  | ok a => exact keepsTo_pure ⟨.ok a, rfl, hresult⟩
  | error failure => exact ⟨.error failure, rfl, hresult⟩

/-- A handler takes over in the course in which the operation failed. -/
theorem keepsTo_tryCatch {p : Operation α} {handler : Failure → Operation α}
    (h : KeepsTo e p k fun result k =>
      match result with
      | .ok a => Q (.ok a) k
      | .error failure => KeepsTo e (handler failure) k Q) :
    KeepsTo e (tryCatch p handler) k Q := by
  refine Program.KeepsTo.bind h fun result k hresult => ?_
  cases result with
  | ok a => exact hresult
  | error failure => exact hresult

/-- One call. -/
theorem keepsTo_perform {c : Call} {Q : Except Failure c.Reply → Course → Prop}
    (hwithin : c.IsWithin e)
    (h : ∀ reply, c.Gets e.store e.MayFail reply → Q (.ok reply) (k.after c reply)) :
    KeepsTo e (perform c) k Q :=
  ⟨hwithin, h⟩

/-! ## The steps of operations -/

section Steps

variable {Q : Except Failure Unit → Course → Prop}

/-- Notices are within all bounds. -/
theorem keepsTo_note (notice : Notice) (h : Q (.ok ()) k) : KeepsTo e (note notice) k Q :=
  keepsTo_perform trivial fun _ _ => h

/-- A call that may be planned to fail is within bounds, and if it fails the operation does. -/
theorem keepsTo_attempt (kind : CallKind) (hQ : e.AllowsFaults Q) (h : Q (.ok ()) k) :
    KeepsTo e (attempt e.store kind) k Q := by
  refine keepsTo_bind (keepsTo_perform rfl fun reply hreply => ?_)
  cases reply with
  | none => exact keepsTo_pure h
  | some message => exact keepsTo_throw (hQ _ _ (hreply rfl))

/-- A dictionary within bounds may be looked up. -/
theorem keepsTo_resolve {handle : Handle} (hstore : handle.store = e.store)
    (hhas : e.Has handle.dictionary) (hQ : e.AllowsFaults Q) (h : Q (.ok ()) k) :
    KeepsTo e (resolve handle) k Q := by
  refine keepsTo_bind (keepsTo_perform hhas fun reply _ => ?_)
  cases reply with
  | resolved => exact keepsTo_pure h
  | mine =>
    refine keepsTo_bind (keepsTo_note _ ?_)
    refine keepsTo_bind (keepsTo_perform hstore fun reply hreply => ?_)
    cases reply with
    | none => exact keepsTo_perform hhas fun _ _ => h
    | some message =>
      exact keepsTo_bind (keepsTo_perform hhas fun _ _ => keepsTo_throw (hQ _ _ (hreply hstore)))

/-- A transaction may be discarded, and then its changes are gone. -/
theorem keepsTo_discard (tx : Ticket) (h : Q (.ok ()) { k with stage := .discarded tx }) :
    KeepsTo e (discard tx) k Q :=
  keepsTo_perform trivial fun _ _ => h

/-- A transaction of the store may be committed; if that is planned to fail, it stays as it is. -/
theorem keepsTo_commit {tx : Ticket} (htx : tx.store = e.store) (hQ : e.AllowsFaults Q)
    (h : Q (.ok ()) { k with stage := .committed tx }) : KeepsTo e (commit tx) k Q := by
  refine keepsTo_bind (keepsTo_perform htx fun reply hreply => ?_)
  cases reply with
  | none => exact keepsTo_perform trivial fun _ _ => h
  | some message =>
    exact keepsTo_bind (keepsTo_discard tx (keepsTo_throw (hQ _ _ (hreply htx))))

/-- A program may look whether it has been told to give up, and gives up then. -/
theorem keepsTo_checkCancelled (hcancelled : Q (.error .cancelled) k) (h : Q (.ok ()) k) :
    KeepsTo e checkCancelled k Q := by
  refine keepsTo_bind (keepsTo_perform trivial fun reply _ => ?_)
  cases reply with
  | false => exact keepsTo_pure h
  | true => exact keepsTo_throw hcancelled

/-- Rows of the store may be delivered one by one, with a look at the token before each. -/
theorem keepsTo_deliver {handle : Handle} (hstore : handle.store = e.store) (rows : List Row)
    (hQ : e.AllowsFaults Q) (hcancelled : Q (.error .cancelled) k) (h : Q (.ok ()) k) :
    KeepsTo e (deliver handle rows) k Q := by
  -- Along the rows: each turn looks at the token and then delivers one row.
  induction rows with
  | nil =>
    refine keepsTo_bind (keepsTo_perform trivial fun reply _ => ?_)
    cases reply with
    | false => exact keepsTo_pure h
    | true => exact keepsTo_bind (keepsTo_note _ (keepsTo_throw hcancelled))
  | cons row rest ih =>
    refine keepsTo_bind (keepsTo_perform trivial fun reply _ => ?_)
    cases reply with
    | false =>
      -- The handler is known by what it asks of the store (`hstore`), and that is bounded.
      rw [hstore]
      exact keepsTo_bind (keepsTo_attempt _ hQ ih)
    | true =>
      refine keepsTo_bind (keepsTo_note _ ?_)
      exact keepsTo_bind (keepsTo_throw hcancelled)

end Steps

/-- Stored texts may be read, and what cannot be read is the failure of the operation. -/
theorem keepsTo_read {result : Except Stored.Fault α} (h : ∀ a, result = .ok a → Q (.ok a) k)
    (hfault : ∀ fault, result = .error fault → Q (.error (.stored fault)) k) :
    KeepsTo e (read result) k Q := by
  cases result with
  | ok a => exact keepsTo_pure (h a rfl)
  | error fault => exact keepsTo_throw (hfault fault rfl)

/-- An etag may be minted. -/
theorem keepsTo_mint {Q : Except Failure String → Course → Prop}
    (h : ∀ etag, Q (.ok etag) { k with etags := etag :: k.etags }) :
    KeepsTo e (perform .mint) k Q :=
  keepsTo_perform trivial fun etag _ => h etag

/-- A transaction may be begun on the store. -/
theorem keepsTo_begin {Q : Except Failure Ticket → Course → Prop} (hQ : e.AllowsFaults Q)
    (h : ∀ tx : Ticket, tx.store = e.store → Q (.ok tx) { k with stage := .opened tx }) :
    KeepsTo e (begin e.store) k Q := by
  refine keepsTo_bind (keepsTo_attempt _ hQ ?_)
  refine keepsTo_bind (keepsTo_perform rfl fun tx htx => ?_)
  exact keepsTo_bind (keepsTo_perform trivial fun _ _ => keepsTo_pure (h tx htx))

/-- A request within the bounds; only one for a lock may be refused. -/
theorem keepsTo_ask {tx : Ticket} {request : Request}
    {Q : Except Failure request.Reply → Course → Prop} (htx : tx.store = e.store)
    (hhas : e.Has request.dictionary) (hQ : e.AllowsFaults Q)
    (hfault : ∀ fault, request.lock?.isSome = true → Q (.error (.store fault)) k)
    (h : ∀ reply, Q (.ok reply) { k with requests := ⟨request, reply⟩ :: k.requests }) :
    KeepsTo e (ask e.store tx request) k Q := by
  refine keepsTo_bind (keepsTo_attempt _ hQ ?_)
  -- The ticket is one of this store, so the request is made.
  rw [if_neg (not_not_intro htx)]
  refine keepsTo_bind (keepsTo_perform hhas fun reply hreply => ?_)
  cases reply with
  | ok reply => exact keepsTo_pure (h reply)
  | error fault => exact keepsTo_throw (hfault fault hreply)

/-- A request that locks no cell. -/
theorem keepsTo_ask_free {tx : Ticket} {request : Request}
    {Q : Except Failure request.Reply → Course → Prop} (htx : tx.store = e.store)
    (hhas : e.Has request.dictionary) (hfree : request.lock? = none) (hQ : e.AllowsFaults Q)
    (h : ∀ reply, Q (.ok reply) { k with requests := ⟨request, reply⟩ :: k.requests }) :
    KeepsTo e (ask e.store tx request) k Q := by
  refine keepsTo_ask htx hhas hQ (fun _ hlock => ?_) h
  rw [hfree] at hlock
  exact absurd hlock (by simp)

/-- The body of a transaction; if it fails, the transaction is discarded. -/
theorem keepsTo_within {body : Ticket → Operation α} (hQ : e.AllowsFaults Q)
    (h : ∀ tx : Ticket, tx.store = e.store →
      KeepsTo e (body tx) { k with stage := .opened tx } fun result k =>
        match result with
        | .ok a => Q (.ok a) k
        | .error failure => Q (.error failure) { k with stage := .discarded tx }) :
    KeepsTo e (within e.store body) k Q := by
  refine keepsTo_bind (keepsTo_begin hQ fun tx htx => keepsTo_tryCatch ?_)
  refine Program.KeepsTo.mono (h tx htx) fun result k hresult => ?_
  cases result with
  | ok a => exact hresult
  | error failure => exact keepsTo_bind (keepsTo_discard tx (keepsTo_throw hresult))

/-- A dictionary within bounds may be scanned: with a look at the token, a request for the rows, and
the rows one by one. -/
theorem keepsTo_scan {tx : Ticket} {handle : Handle}
    {Q : Except Failure (List Row) → Course → Prop} (hstore : handle.store = e.store)
    (htx : tx.store = e.store) (hhas : e.Has handle.dictionary) (hQ : e.AllowsFaults Q)
    (hcancelled : ∀ k : Course, Q (.error .cancelled) k)
    (h : ∀ rows, Q (.ok rows)
      { k with requests := ⟨.scan handle.dictionary, rows⟩ :: k.requests }) :
    KeepsTo e (scan handle tx) k Q := by
  refine keepsTo_bind (keepsTo_checkCancelled (hcancelled _) ?_)
  rw [hstore]
  refine keepsTo_bind (keepsTo_ask_free htx hhas rfl hQ fun rows => ?_)
  exact keepsTo_bind (keepsTo_deliver hstore _ hQ (hcancelled _) (keepsTo_pure (h rows)))

/-! ## Operations whose results do not matter -/

section Confined

variable {tx : Ticket}

/-- The operation keeps to the bounds, whatever its result and its course. -/
def IsConfined (e : Bounds) (p : Operation α) : Prop :=
  ∀ k, KeepsTo e p k fun _ _ => True

/-- An operation that does nothing is confined. -/
theorem isConfined_pure (a : α) : IsConfined e (pure a) :=
  fun _ => keepsTo_pure trivial

/-- One operation after another is confined if both are. -/
theorem isConfined_bind {p : Operation α} {f : α → Operation β} (h : IsConfined e p)
    (hf : ∀ a, IsConfined e (f a)) : IsConfined e (p >>= f) := by
  refine fun k => keepsTo_bind (Program.KeepsTo.mono (h k) fun result k _ => ?_)
  cases result with
  | ok a => exact hf a k
  | error failure => trivial

/-- A choice between operations is confined if both are. -/
theorem isConfined_ite {c : Prop} [Decidable c] {p q : Operation α} (hp : IsConfined e p)
    (hq : IsConfined e q) : IsConfined e (if c then p else q) := by
  split
  · exact hp
  · exact hq

/-- Notices are confined. -/
theorem isConfined_note (notice : Notice) : IsConfined e (note notice) :=
  fun _ => keepsTo_note notice trivial

/-- Reading stored texts is confined. -/
theorem isConfined_read (result : Except Stored.Fault α) : IsConfined e (read result) :=
  fun _ => keepsTo_read (fun _ _ => trivial) fun _ _ => trivial

/-- Minting an etag is confined. -/
theorem isConfined_mint : IsConfined e (perform .mint) :=
  fun _ => keepsTo_mint fun _ => trivial

/-- Looking up a dictionary within bounds is confined. -/
theorem isConfined_resolve {handle : Handle} (hstore : handle.store = e.store)
    (hhas : e.Has handle.dictionary) : IsConfined e (resolve handle) :=
  fun _ => keepsTo_resolve hstore hhas (fun _ _ _ => trivial) trivial

/-- A request about a dictionary within bounds is confined. -/
theorem isConfined_ask {request : Request} (htx : tx.store = e.store)
    (hhas : e.Has request.dictionary) : IsConfined e (ask e.store tx request) :=
  fun _ => keepsTo_ask htx hhas (fun _ _ _ => trivial) (fun _ _ => trivial) fun _ => trivial

/-- Discarding a transaction is confined. -/
theorem isConfined_discard (tx : Ticket) : IsConfined e (discard tx) :=
  fun _ => keepsTo_discard tx trivial

/-- Committing a transaction of the store is confined. -/
theorem isConfined_commit (htx : tx.store = e.store) : IsConfined e (commit tx) :=
  fun _ => keepsTo_commit htx (fun _ _ _ => trivial) trivial

/-- A transaction is confined if its body is. -/
theorem isConfined_within {body : Ticket → Operation α}
    (h : ∀ tx : Ticket, tx.store = e.store → IsConfined e (body tx)) :
    IsConfined e (within e.store body) := by
  refine fun k => keepsTo_within (fun _ _ _ => trivial) fun tx htx => ?_
  refine Program.KeepsTo.mono (h tx htx _) fun result k _ => ?_
  cases result with
  | ok a => trivial
  | error failure => trivial

/-- Looking whether one has been told to give up is confined. -/
theorem isConfined_checkCancelled : IsConfined e checkCancelled :=
  fun _ => keepsTo_checkCancelled trivial trivial

/-- Scanning a dictionary within bounds is confined. -/
theorem isConfined_scan {handle : Handle} (hstore : handle.store = e.store)
    (htx : tx.store = e.store) (hhas : e.Has handle.dictionary) : IsConfined e (scan handle tx) :=
  fun _ => keepsTo_scan hstore htx hhas (fun _ _ _ => trivial) (fun _ => trivial) fun _ => trivial

end Confined

end Operation

end Muster
