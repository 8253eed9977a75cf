import Muster.Store.Locks

/-!
# The table of mutexes

The locks of a store are mutexes that are made when they are first asked for. A table says which
mutex is that of a cell; a transaction takes a reference from it, stands in the line of the mutex,
and has the lock once it stands first. The mutex counts the references, that of the table among
them. Whoever is through with a cell may prune the table: its reference goes if it is the only one,
and with it the mutex, so the next to ask for the cell finds a new mutex. Two transactions that came
to have different mutexes of one cell would both have its lock.
-/

namespace Muster

/-- Which mutex it is. -/
abbrev MutexId := Nat

/-- The lock that a line stands for, if anyone stands in it: the first holds it, and the others
wait. -/
def Lock.ofLine? : List TransactionId → Option Lock
  | [] => none
  | holder :: waiting => some ⟨holder, waiting⟩

/-- A mutex and the references to it. -/
structure SharedMutex where
  /-- Those that stand in line, first come first; the first has the mutex. -/
  line : List TransactionId
  /-- How many references there are. -/
  strong : Nat
  deriving DecidableEq

namespace SharedMutex

/-- A transaction goes to the end of the line. -/
def enter (mutex : SharedMutex) (id : TransactionId) : SharedMutex :=
  { mutex with line := mutex.line ++ [id] }

/-- A transaction leaves the line; if it stood first, the mutex goes to the next. -/
def leave (mutex : SharedMutex) (id : TransactionId) : SharedMutex :=
  { mutex with line := mutex.line.filter (· ≠ id) }

/-- The mutex with one reference more. -/
def share (mutex : SharedMutex) : SharedMutex :=
  { mutex with strong := mutex.strong + 1 }

/-- The mutex with one reference less. -/
def unshare (mutex : SharedMutex) : SharedMutex :=
  { mutex with strong := mutex.strong - 1 }

end SharedMutex

/-- The table of mutexes, and the mutexes that there are. -/
structure MutexTable where
  /-- The mutex of a cell. -/
  entries : SortedMap Cell MutexId
  /-- The mutexes that are referred to. -/
  mutexes : SortedMap MutexId SharedMutex
  /-- The next mutex. -/
  next : MutexId

namespace MutexTable

/-- A table without mutexes. -/
def empty : MutexTable :=
  ⟨.empty, .empty, 0⟩

/-- The table with one mutex changed. -/
def update (table : MutexTable) (mutex : MutexId) (f : SharedMutex → SharedMutex) : MutexTable :=
  match table.mutexes.find? mutex with
  | none => table
  | some x => { table with mutexes := table.mutexes.insert mutex (f x) }

/-- The mutex of a cell, which is made if there is none: nobody stands in its line, and the table
refers to it. -/
def entry (table : MutexTable) (cell : Cell) : MutexId × MutexTable :=
  match table.entries.find? cell with
  | some mutex => (mutex, table)
  | none => (table.next, {
      entries := table.entries.insert cell table.next
      mutexes := table.mutexes.insert table.next ⟨[], 1⟩
      next := table.next + 1 })

/-- A new reference to the mutex of a cell. -/
def share (table : MutexTable) (cell : Cell) : MutexId × MutexTable :=
  ((table.entry cell).1, (table.entry cell).2.update (table.entry cell).1 .share)

/-- A transaction goes to the end of the line of a mutex. -/
def enter (table : MutexTable) (mutex : MutexId) (id : TransactionId) : MutexTable :=
  table.update mutex (·.enter id)

/-- A transaction leaves the line of a mutex. -/
def leave (table : MutexTable) (mutex : MutexId) (id : TransactionId) : MutexTable :=
  table.update mutex (·.leave id)

/-- A reference to a mutex is dropped; with the last one goes the mutex. -/
def unshare (table : MutexTable) (mutex : MutexId) : MutexTable :=
  match table.mutexes.find? mutex with
  | none => table
  | some x =>
    if x.strong ≤ 1 then { table with mutexes := table.mutexes.erase mutex }
    else { table with mutexes := table.mutexes.insert mutex x.unshare }

/-- Whether a transaction stands first in the line of a mutex. -/
def isFirst (table : MutexTable) (mutex : MutexId) (id : TransactionId) : Bool :=
  match table.mutexes.find? mutex with
  | none => false
  | some x => x.line.head? = some id

/-- How many references to a mutex there are. -/
def strong (table : MutexTable) (mutex : MutexId) : Nat :=
  match table.mutexes.find? mutex with
  | none => 0
  | some x => x.strong

/-- The table without a cell to whose mutex nothing else refers. -/
def prune (table : MutexTable) (cell : Cell) : MutexTable :=
  match table.entries.find? cell with
  | none => table
  | some mutex =>
    if table.strong mutex = 1 then
      { table.unshare mutex with entries := table.entries.erase cell }
    else table

/-- The locks that are held if only some transactions count: in each line the first of those holds
the lock, and the others wait for it. -/
def locks (table : MutexTable) (counts : TransactionId → Bool) : Locks :=
  table.entries.filterMap fun _ mutex =>
    (table.mutexes.find? mutex).bind fun x => Lock.ofLine? (x.line.filter counts)

end MutexTable

end Muster
