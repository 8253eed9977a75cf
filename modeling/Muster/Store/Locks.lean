import Muster.Store.Contents

/-!
# Locks

Every cell has one exclusive lock. A transaction that asks for a lock that another one holds waits
behind those that asked before it; when the holder lets go, the first of them holds the lock at
once. The table lists exactly the cells whose lock is held.

This is what the lock of a cell is for those who use it. What it is made of, the mutexes that are
shared, counted and pruned, is in `Muster.Store.Mutexes` and `Muster.Store.Usage`; that these amount
to the locks here, step by step, is proved in `Muster.Proofs.Store.Parts`.
-/

namespace Muster

/-- The number of a transaction. -/
abbrev TransactionId := Nat

/-- A lock that is held. -/
structure Lock where
  /-- Who holds it. -/
  holder : TransactionId
  /-- Who waits for it, first come first. -/
  waiting : List TransactionId
  deriving DecidableEq

/-- The locks that are held. -/
abbrev Locks := SortedMap Cell Lock

namespace Lock

/-- The lock after its holder let go: the first waiting transaction holds it, if there is one. -/
def passOn (lock : Lock) : Option Lock :=
  match lock.waiting with
  | [] => none
  | first :: rest => some ⟨first, rest⟩

/-- The lock with a transaction waiting for it, unless it does already. -/
def queue (lock : Lock) (id : TransactionId) : Lock :=
  if id ∈ lock.waiting then lock else { lock with waiting := lock.waiting ++ [id] }

/-- The lock without a transaction waiting for it. -/
def unqueue (lock : Lock) (id : TransactionId) : Lock :=
  { lock with waiting := lock.waiting.filter (· ≠ id) }

end Lock

namespace Locks

/-- Whether a transaction holds the lock of a cell. -/
def holds (locks : Locks) (id : TransactionId) (cell : Cell) : Bool :=
  match locks.find? cell with
  | some lock => lock.holder = id
  | none => false

/-- Asks for the lock of a cell: a free one is taken, otherwise the transaction waits for it. -/
def request (locks : Locks) (id : TransactionId) (cell : Cell) : Locks :=
  match locks.find? cell with
  | none => locks.insert cell ⟨id, []⟩
  | some lock => if lock.holder = id then locks else locks.insert cell (lock.queue id)

/-- Ends the waiting of a transaction for the lock of a cell. -/
def withdraw (locks : Locks) (id : TransactionId) (cell : Cell) : Locks :=
  match locks.find? cell with
  | none => locks
  | some lock => locks.insert cell (lock.unqueue id)

/-- Lets go of every lock that a transaction holds. -/
def release (locks : Locks) (id : TransactionId) : Locks :=
  locks.filterMap fun _ lock => if lock.holder = id then lock.passOn else some lock

/-- How many locks a transaction holds. -/
def countHeld (locks : Locks) (id : TransactionId) : Nat :=
  locks.entries.countP fun e => e.2.holder = id

end Locks

end Muster
