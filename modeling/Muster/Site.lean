import Muster.Store.Basic
import Muster.Store.Fault

/-!
# Sites

A site is a store together with how it is to be reached: how long a lock is waited for, which calls
are planned to fail, a gate that can hold up a transaction that has just begun, and a tally of the
calls that were made.
-/

namespace Muster

/-- The kinds of calls that can be planned to fail. -/
inductive CallKind
  /-- Looking up a dictionary by its name. -/
  | resolve
  /-- Beginning a transaction. -/
  | begin
  /-- Reading a cell. -/
  | get
  /-- Writing a cell. -/
  | set
  /-- Writing an empty cell. -/
  | add
  /-- Clearing a cell. -/
  | remove
  /-- Reading the rows of a dictionary. -/
  | scan
  /-- Ending a transaction with its changes. -/
  | commit
  /-- Delivering one row of a dictionary. -/
  | item
  deriving DecidableEq

/-- The kind of call that a request is. -/
def Request.kind : Request → CallKind
  | .read _ => .get
  | .readLocked _ => .get
  | .set _ _ => .set
  | .add _ _ => .add
  | .remove _ => .remove
  | .scan _ => .scan

/-- A call that is planned to fail. -/
structure PlannedFault where
  /-- The kind of the call. -/
  kind : CallKind
  /-- How many calls of the kind are left before it. -/
  before : Nat
  /-- What the failure says. -/
  message : String
  deriving DecidableEq

/-- A gate that transactions pass when they have begun. -/
structure Gate where
  /-- Whether the next transaction to come will be held up. -/
  isArmed : Bool
  /-- The transactions that are held up. -/
  held : List TransactionId

/-- How many calls of some kinds were made. -/
structure Tally where
  /-- The calls that look up a dictionary. -/
  resolve : Nat
  /-- The calls that begin a transaction. -/
  begin : Nat
  /-- The calls that commit. -/
  commit : Nat
  deriving DecidableEq

/-- The tally after a call. -/
def Tally.count (t : Tally) : CallKind → Tally
  | .resolve => { t with resolve := t.resolve + 1 }
  | .begin => { t with begin := t.begin + 1 }
  | .commit => { t with commit := t.commit + 1 }
  | _ => t

/-- A store and how it is reached. -/
structure Site where
  /-- The store. -/
  store : Store
  /-- How long a lock is waited for. -/
  lockTimeout : Time.Span
  /-- The calls that are planned to fail. -/
  plan : List PlannedFault
  /-- The gate behind the beginning of a transaction. -/
  gate : Gate
  /-- The calls made so far. -/
  tally : Tally

namespace Site

/-- How long a lock is waited for if nothing else is said. -/
def defaultLockTimeout : Time.Span :=
  .ofSeconds 4

/-- A new store that is reached without hindrance. -/
def empty (lockTimeout : Time.Span) : Site :=
  ⟨.empty, lockTimeout, [], ⟨false, []⟩, ⟨0, 0, 0⟩⟩

/-- The plan after a call of a kind, and what its failure says if it fails. -/
def takeFault (kind : CallKind) : List PlannedFault → List PlannedFault × Option String
  | [] => ([], none)
  | fault :: rest =>
    if fault.kind ≠ kind then
      let (rest, failure) := takeFault kind rest
      (fault :: rest, failure)
    else if fault.before = 0 then
      -- The fault strikes; for the other faults of this kind one call more has gone by.
      (rest.map fun f => if f.kind = kind then { f with before := f.before - 1 } else f,
        some fault.message)
    else
      let (rest, failure) := takeFault kind rest
      ({ fault with before := fault.before - 1 } :: rest, failure)

/-- Notes that a call is made; the answer is what its failure says if it is planned to fail. -/
def attempt (site : Site) (kind : CallKind) : Site × Option String :=
  let (plan, failure) := takeFault kind site.plan
  ({ site with plan, tally := site.tally.count kind }, failure)

/-- Lets a transaction come to the gate: the answer is whether it may pass. An armed gate holds the
first that comes. -/
def pass (site : Site) (id : TransactionId) : Site × Bool :=
  if site.gate.isArmed then ({ site with gate := ⟨false, id :: site.gate.held⟩ }, false)
  else (site, id ∉ site.gate.held)

/-- Arms the gate for the next transaction. -/
def hold (site : Site) : Site :=
  { site with gate := { site.gate with isArmed := true } }

/-- Opens the gate for all. -/
def release (site : Site) : Site :=
  { site with gate := ⟨false, []⟩ }

/-- The site with another store in it. -/
def withStore (site : Site) (store : Store) : Site :=
  { site with store }

end Site

end Muster
