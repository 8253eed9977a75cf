import Muster.Store.Contents

/-!
# Transactions

A transaction sees the contents that the store had when it began, under the changes that it has
made itself; a request that locks its cell sees the latest contents instead. Changes are buffered
and reach the store all at once.
-/

namespace Muster

/-- What a transaction is asked to do. -/
inductive Request
  /-- Read a cell as it was when the transaction began. -/
  | read (cell : Cell)
  /-- Lock a cell and read it as it is now. -/
  | readLocked (cell : Cell)
  /-- Lock a cell and write it. -/
  | set (cell : Cell) (value : Bytes)
  /-- Lock a cell and write it if it is empty. -/
  | add (cell : Cell) (value : Bytes)
  /-- Lock a cell and clear it. -/
  | remove (cell : Cell)
  /-- Read all rows of a dictionary as they were when the transaction began. -/
  | scan (dictionary : String)
  deriving DecidableEq

namespace Request

/-- What the answer to a request is: the value read or removed, whether the cell was empty and has
been written, or the rows. -/
abbrev Reply : Request → Type
  | read _ => Option Bytes
  | readLocked _ => Option Bytes
  | set _ _ => Unit
  | add _ _ => Bool
  | remove _ => Option Bytes
  | scan _ => List Row

/-- The cell that a request locks. -/
def lock? : Request → Option Cell
  | read _ => none
  | readLocked cell => some cell
  | set cell _ => some cell
  | add cell _ => some cell
  | remove cell => some cell
  | scan _ => none

end Request

/-- A transaction that has not ended. -/
structure Transaction where
  /-- The contents of the store when the transaction began. -/
  snapshot : Contents
  /-- The changes made so far. -/
  changes : Changes

namespace Transaction

/-- A transaction that begins on the given contents. -/
def begin (contents : Contents) : Transaction :=
  ⟨contents, .empty⟩

/-- A cell of `base` under the changes of a transaction. -/
def view (tx : Transaction) (base : Contents) (cell : Cell) : Option Bytes :=
  (tx.changes.find? cell).getD (base.find? cell)

/-- The transaction with a change. -/
def buffer (tx : Transaction) (cell : Cell) (value : Option Bytes) : Transaction :=
  { tx with changes := tx.changes.insert cell value }

/-- Does what a request asks for, once its cell is locked; `latest` are the contents of the store
at this moment. -/
def perform (tx : Transaction) (latest : Contents) : (r : Request) → Transaction × r.Reply
  | .read cell => (tx, tx.view tx.snapshot cell)
  | .readLocked cell => (tx, tx.view latest cell)
  | .set cell value => (tx.buffer cell (some value), ())
  | .add cell value =>
    if (tx.view latest cell).isSome then (tx, false) else (tx.buffer cell (some value), true)
  | .remove cell =>
    match tx.view latest cell with
    | some value => (tx.buffer cell none, some value)
    | none => (tx, none)
  | .scan dictionary => (tx, (tx.snapshot.apply tx.changes).rows dictionary)

end Transaction

end Muster
