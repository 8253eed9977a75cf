import Muster.Notice
import Muster.Site

/-!
# Programs

An operation on the table or the gateway list is a program: it makes calls, one after another, and
goes on with the replies. A program says nothing about how calls are answered or when it waits, so
the same program runs alone, among others, or in a proof.
-/

namespace Muster

/-- A transaction as its user knows it: its store and its number there. -/
structure Ticket where
  /-- The name of the store. -/
  store : String
  /-- The number of the transaction. -/
  id : TransactionId
  deriving DecidableEq

/-- A dictionary that its owner looks up on first use. -/
structure Handle where
  /-- The name of the store. -/
  store : String
  /-- Whose handle it is. -/
  owner : String
  /-- The name of the dictionary. -/
  dictionary : String
  deriving DecidableEq

namespace Handle

instance : Ord Handle where
  compare :=
    compareLex (compareOn Handle.store)
      (compareLex (compareOn Handle.owner) (compareOn Handle.dictionary))

instance : Std.TransOrd Handle :=
  inferInstanceAs (Std.TransCmp (compareLex (compareOn Handle.store)
    (compareLex (compareOn Handle.owner) (compareOn Handle.dictionary))))

instance : Std.LawfulEqOrd Handle where
  eq_of_compare {a b} h := by
    have h : (compare a.store b.store).then
        ((compare a.owner b.owner).then (compare a.dictionary b.dictionary)) = .eq := h
    obtain ⟨hs, h⟩ := Ordering.then_eq_eq.1 h
    obtain ⟨ho, hd⟩ := Ordering.then_eq_eq.1 h
    have hs : a.store = b.store := Std.LawfulEqOrd.eq_of_compare hs
    have ho : a.owner = b.owner := Std.LawfulEqOrd.eq_of_compare ho
    have hd : a.dictionary = b.dictionary := Std.LawfulEqOrd.eq_of_compare hd
    cases a
    cases b
    simp_all
  compare_self {a} := by
    have hs : compare a.store a.store = .eq := Std.ReflCmp.compare_self
    have ho : compare a.owner a.owner = .eq := Std.ReflCmp.compare_self
    have hd : compare a.dictionary a.dictionary = .eq := Std.ReflCmp.compare_self
    show (compare a.store a.store).then
        ((compare a.owner a.owner).then (compare a.dictionary a.dictionary)) = .eq
    rw [hs, ho, hd]
    rfl

end Handle

/-- What the user of a handle is told. -/
inductive Claim
  /-- The dictionary is known. -/
  | resolved
  /-- The dictionary has to be looked up, by the one who is told so. -/
  | mine
  deriving DecidableEq

/-- A gateway list that is kept. -/
structure KeptList where
  /-- The URIs of the gateways. -/
  gateways : List Uri
  /-- When the refresh began that read them. -/
  startedAt : Nat
  deriving DecidableEq

/-- What a program can ask for. -/
inductive Call
  /-- To use a handle; waits while another program looks the dictionary up. -/
  | claim (handle : Handle)
  /-- To say whether a dictionary was found. -/
  | settle (handle : Handle) (isResolved : Bool)
  /-- To note that a call of a kind is made on a store. -/
  | attempt (store : String) (kind : CallKind)
  /-- To begin a transaction. -/
  | begin (store : String)
  /-- To pass the gate behind the beginning of a transaction; waits while it is held up. -/
  | pass (tx : Ticket)
  /-- To do something in a transaction; waits for the lock of the request. -/
  | ask (tx : Ticket) (request : Request)
  /-- To end a transaction with its changes. -/
  | commit (tx : Ticket)
  /-- To end a transaction without its changes. -/
  | discard (tx : Ticket)
  /-- To know whether the program has been told to give up. -/
  | isCancelled
  /-- To wait for the next row of a scan, or its end, unless the program is told to give up. -/
  | next (isRow : Bool)
  /-- To have a new etag. -/
  | mint
  /-- To read the clock. -/
  | now
  /-- To tell something. -/
  | note (notice : Notice)
  /-- To keep a gateway list, unless one of a later refresh is kept. -/
  | publish (owner : String) (list : KeptList)
  /-- To see the gateway list that is kept. -/
  | kept (owner : String)

/-- What the reply to a call is. -/
abbrev Call.Reply : Call → Type
  | claim _ => Claim
  | settle _ _ => Unit
  | attempt _ _ => Option String
  | begin _ => Ticket
  | pass _ => Unit
  | ask _ request => Except Store.Fault request.Reply
  | commit _ => Unit
  | discard _ => Unit
  | isCancelled => Bool
  | next _ => Bool
  | mint => String
  | now => Nat
  | note _ => Unit
  | publish _ _ => Bool
  | kept _ => Option KeptList

/-- A program with a result in `α`. -/
inductive Program (α : Type)
  /-- The program is done. -/
  | done (result : α)
  /-- The program makes a call and goes on with the reply. -/
  | call (c : Call) (go : c.Reply → Program α)

namespace Program

variable {α β : Type}

/-- One program after another. -/
def bind : Program α → (α → Program β) → Program β
  | done a, f => f a
  | call c go, f => call c fun reply => bind (go reply) f

instance : Monad Program where
  pure := done
  bind := bind

/-- The program of one call. -/
def perform (c : Call) : Program c.Reply :=
  call c done

/-- Behind a result the second program begins. -/
@[simp] theorem bind_done (a : α) (f : α → Program β) : (done a >>= f) = f a :=
  rfl

/-- Behind a call the second program waits for the rest of the first. -/
@[simp] theorem bind_call (c : Call) (go : c.Reply → Program α) (f : α → Program β) :
    (call c go >>= f) = call c fun reply => go reply >>= f :=
  rfl

end Program

end Muster
