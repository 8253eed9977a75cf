import Muster.Store.Basic
import Muster.Store.Mutexes

/-!
# A store in use

What goes on in a store when several transactions work at once, step by step (`Step`). A request
that locks a cell first takes a reference to the mutex of the cell; then it stands in line and has
to be polled until it stands first, which takes the guard; and only then is it done. One that waits
can time out or be dropped at every moment, also when the lock has come to it already and it has not
noticed. A commit first makes the changes and then, like every other end of a transaction, gives the
guards back one after another, in any order; for each of them the transaction leaves the line, drops
its reference and prunes the table.

Each step is one that nothing else comes between. The order of the steps of different transactions
is left open altogether, even where the program excludes some orders because it has the table of
mutexes to itself for a while; what holds in every order holds in those that are left.
-/

namespace Muster

namespace Store

/-- How far a transaction has come with a request, or with leaving a lock. -/
inductive Phase
  /-- There is nothing to be done. -/
  | idle
  /-- A request has a reference to the mutex of its cell. -/
  | cloned (r : Request) (cell : Cell) (mutex : MutexId)
  /-- A request stands in the line of that mutex. -/
  | queued (r : Request) (cell : Cell) (mutex : MutexId)
  /-- A request has the lock of its cell. -/
  | locked (r : Request)
  /-- The transaction has left the line of a mutex and has still a reference to it, behind which the
  table is pruned or not. -/
  | leaving (cell : Cell) (mutex : MutexId) (isPruning : Bool)
  /-- The table is still to be pruned. -/
  | unpruned (cell : Cell)
  deriving DecidableEq

/-- Whether a transaction is about to end. -/
inductive Standing
  /-- It is not. -/
  | active
  /-- It has been committed, or it ends without its changes, and its guards are given back. -/
  | ending (isCommitted : Bool)
  deriving DecidableEq

/-- A transaction with what it has of the locks. -/
structure Party where
  /-- The transaction. -/
  tx : Transaction
  /-- The guards that it has, each with its mutex. -/
  guards : SortedMap Cell MutexId
  /-- How far it has come. -/
  phase : Phase
  /-- Whether it is about to end. -/
  standing : Standing

/-- A store in use. -/
structure Usage where
  /-- What has been committed. -/
  committed : Contents
  /-- The table of mutexes. -/
  mutexes : MutexTable
  /-- The transactions that have not ended. -/
  parties : SortedMap TransactionId Party
  /-- The number of the next transaction. -/
  nextId : TransactionId
  /-- The requests that were answered, each with its transaction and its reply, the last first. -/
  told : List (TransactionId × (r : Request) × r.Reply)

/-- What a transaction may do, or have done to it. -/
inductive Step
  /-- It is asked for something. -/
  | ask (r : Request)
  /-- Its request waits and is polled. -/
  | poll
  /-- Its request has the lock and is done. -/
  | perform
  /-- Its request has waited until the deadline. -/
  | timeOut
  /-- Its request is dropped; the transaction lives on. -/
  | giveUp
  /-- Its reference to a mutex that it has left is dropped. -/
  | drop
  /-- It prunes the table of mutexes. -/
  | prune
  /-- Its changes are committed. -/
  | publish
  /-- It comes to its end without its changes: it is aborted, it fails to commit, or it is
  dropped. -/
  | close
  /-- At its end it gives a guard back. -/
  | release (cell : Cell)
  /-- It has ended. -/
  | finish
  deriving DecidableEq

/-- What happens in a store in use. -/
inductive Incident
  /-- A transaction begins. -/
  | begin
  /-- A transaction makes a step. -/
  | does (id : TransactionId) (step : Step)
  deriving DecidableEq

namespace Usage

/-- Contents that nobody uses yet. -/
def rest (contents : Contents) (nextId : TransactionId) : Usage :=
  ⟨contents, .empty, .empty, nextId, []⟩

/-- The store in use with a transaction as it is now. -/
def put (u : Usage) (id : TransactionId) (p : Party) : Usage :=
  { u with parties := u.parties.insert id p }

/-- A transaction begins on the committed contents. -/
def begin (u : Usage) : Usage :=
  { u.put u.nextId ⟨.begin u.committed, .empty, .idle, .active⟩ with nextId := u.nextId + 1 }

/-- A request is done and answered. -/
def answer (u : Usage) (id : TransactionId) (p : Party) (r : Request) : Usage :=
  let done := p.tx.perform u.committed r
  { u.put id { p with tx := done.1, phase := .idle } with told := (id, ⟨r, done.2⟩) :: u.told }

/-- A transaction is asked for something. A request that locks nothing is done at once; one whose
cell the transaction has locked before goes on with that lock. -/
def ask (u : Usage) (id : TransactionId) (p : Party) (r : Request) : Usage :=
  match r.lock? with
  | none => u.answer id p r
  | some cell =>
    match p.guards.find? cell with
    | some _ => u.put id { p with phase := .locked r }
    | none =>
      { u with mutexes := (u.mutexes.share cell).2 }.put id
        { p with phase := .cloned r cell (u.mutexes.share cell).1 }

/-- A request that stands in line is polled: if it stands first, it takes the guard. -/
def await (u : Usage) (id : TransactionId) (p : Party) (r : Request) (cell : Cell)
    (mutex : MutexId) : Usage :=
  if u.mutexes.isFirst mutex id then
    u.put id { p with guards := p.guards.insert cell mutex, phase := .locked r }
  else u.put id { p with phase := .queued r cell mutex }

/-- A request goes to the end of the line, and is polled. -/
def enter (u : Usage) (id : TransactionId) (p : Party) (r : Request) (cell : Cell)
    (mutex : MutexId) : Usage :=
  { u with mutexes := u.mutexes.enter mutex id }.await id p r cell mutex

/-- A transaction leaves the line of a mutex. -/
def leave (u : Usage) (id : TransactionId) (p : Party) (cell : Cell) (mutex : MutexId)
    (isPruning : Bool) : Usage :=
  { u with mutexes := u.mutexes.leave mutex id }.put id
    { p with phase := .leaving cell mutex isPruning }

/-- A transaction drops its reference to a mutex. -/
def drop (u : Usage) (id : TransactionId) (p : Party) (cell : Cell) (mutex : MutexId)
    (isPruning : Bool) : Usage :=
  { u with mutexes := u.mutexes.unshare mutex }.put id
    { p with phase := if isPruning then .unpruned cell else .idle }

/-- A transaction prunes the table. -/
def prune (u : Usage) (id : TransactionId) (p : Party) (cell : Cell) : Usage :=
  { u with mutexes := u.mutexes.prune cell }.put id { p with phase := .idle }

/-- The changes of a transaction are committed, all at once. -/
def publish (u : Usage) (id : TransactionId) (p : Party) : Usage :=
  { u with committed := u.committed.apply p.tx.changes }.put id
    { p with standing := .ending true }

/-- The store in use after a step of a transaction, if the transaction can make it. -/
def act (u : Usage) (id : TransactionId) (p : Party) : Step → Option Usage
  | .ask r => if p.standing = .active ∧ p.phase = .idle then some (u.ask id p r) else none
  | .poll =>
    -- The first poll goes to the end of the line, the later ones look whether it has become the
    -- front.
    match p.phase with
    | .cloned r cell mutex => some (u.enter id p r cell mutex)
    | .queued r cell mutex => some (u.await id p r cell mutex)
    | _ => none
  | .perform =>
    match p.phase with
    | .locked r => some (u.answer id p r)
    | _ => none
  | .timeOut =>
    -- A wait that has timed out goes on to prune the table; one that was dropped does not.
    match p.phase with
    | .cloned _ cell mutex => some (u.leave id p cell mutex true)
    | .queued _ cell mutex => some (u.leave id p cell mutex true)
    | _ => none
  | .giveUp =>
    match p.phase with
    | .cloned _ cell mutex => some (u.leave id p cell mutex false)
    | .queued _ cell mutex => some (u.leave id p cell mutex false)
    | .locked _ => some (u.put id { p with phase := .idle })
    | _ => none
  | .drop =>
    match p.phase with
    | .leaving cell mutex isPruning => some (u.drop id p cell mutex isPruning)
    | _ => none
  | .prune =>
    match p.phase with
    | .unpruned cell => some (u.prune id p cell)
    | _ => none
  | .publish => if p.standing = .active ∧ p.phase = .idle then some (u.publish id p) else none
  | .close =>
    if p.standing = .active ∧ p.phase = .idle then
      some (u.put id { p with standing := .ending false })
    else none
  | .release cell =>
    if p.standing ≠ .active ∧ p.phase = .idle then
      -- The guard leaves the line and drops its reference before the table is pruned.
      match p.guards.find? cell with
      | some mutex => some (u.leave id { p with guards := p.guards.erase cell } cell mutex true)
      | none => none
    else none
  | .finish =>
    if p.standing ≠ .active ∧ p.phase = .idle ∧ p.guards.entries = [] then
      some { u with parties := u.parties.erase id }
    else none

/-- The store in use after an incident, if it can happen. -/
def step (u : Usage) : Incident → Option Usage
  | .begin => some u.begin
  | .does id step =>
    match u.parties.find? id with
    | some p => u.act id p step
    | none => none

/-- The store in use after an incident; one that cannot happen is passed over. -/
def after (u : Usage) (incident : Incident) : Usage :=
  (u.step incident).getD u

/-- The store in use after incidents. -/
def run (u : Usage) (incidents : List Incident) : Usage :=
  incidents.foldl after u

/-- Whether a transaction has begun and not come to its end. -/
def isActive (u : Usage) (id : TransactionId) : Bool :=
  match u.parties.find? id with
  | some p => p.standing = .active
  | none => false

/-- The store that is in use, as one that does each move at once has it: transactions that have come
to their end do not count, though they have guards still to give back. -/
def store (u : Usage) : Store where
  committed := u.committed
  live := u.parties.filterMap fun _ p => if p.standing = .active then some p.tx else none
  locks := u.mutexes.locks u.isActive
  nextId := u.nextId

end Usage

end Store

end Muster
