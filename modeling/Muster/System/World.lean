import Muster.Etag
import Muster.Program.Basic

/-!
# The world of programs

What programs share: stores, the state of their handles, the gateway lists that are kept, the
source of etags and two clocks. One clock measures how long locks are waited for, the other tells
refreshes when they began. `World.perform` answers one call; where it has no reply, the program
waits and makes the same call again.
-/

namespace Muster

/-- How far the use of a handle has got; a handle that nobody has used has no state. -/
inductive HandleState
  /-- Somebody looks the dictionary up. -/
  | resolving
  /-- The dictionary is known. -/
  | resolved
  deriving DecidableEq

/-- What programs share. -/
structure World where
  /-- The stores by their names. -/
  sites : SortedMap String Site
  /-- The handles in use. -/
  handles : SortedMap Handle HandleState
  /-- The gateway lists that are kept, by their owners. -/
  kept : SortedMap String KeptList
  /-- Where etags come from. -/
  etags : Etag.Source
  /-- The clock of lock timeouts, in microseconds. -/
  clock : Nat
  /-- The clock of refreshes, in nanoseconds. -/
  instant : Nat
  /-- What has been told, the last first. -/
  notices : List Notice

/-- When a program is told to give up by its own progress. -/
inductive Trigger
  /-- Never. -/
  | never
  /-- When it asks for a row and has seen `count` of them; the row still arrives. -/
  | afterRows (count : Nat)
  /-- When it asks for a row and has seen `count` of them or all; nothing arrives any more. -/
  | hangAfter (count : Nat)
  /-- Before it clears a cell and has cleared `count` of them. -/
  | onRemove (count : Nat)
  deriving DecidableEq

/-- What belongs to one run of a program. -/
structure Context where
  /-- When waiting for a lock ends, if the program waits for one. -/
  deadline : Option Nat
  /-- Whether the program has been told to give up. -/
  isCancelled : Bool
  /-- What will tell it to. -/
  trigger : Trigger
  /-- How many rows it has seen. -/
  rowsSeen : Nat
  /-- How many cells it has cleared. -/
  removals : Nat
  /-- The transactions that it has begun and not ended. -/
  tickets : List Ticket
  /-- The handle that it looks up. -/
  resolving : Option Handle

/-- A run that has just begun. -/
def Context.start (isCancelled : Bool) (trigger : Trigger) : Context :=
  ⟨none, isCancelled, trigger, 0, 0, [], none⟩

namespace World

/-- The world with the store of a name changed. -/
def withSite (w : World) (name : String) (f : Site → Site) : World :=
  match w.sites.find? name with
  | some site => { w with sites := w.sites.insert name (f site) }
  | none => w

/-- Ends a transaction without its changes. -/
def discard (w : World) (tx : Ticket) : World :=
  w.withSite tx.store fun site => site.withStore (site.store.discard tx.id)

/-- Ends a transaction with its changes. -/
def commit (w : World) (tx : Ticket) : World :=
  w.withSite tx.store fun site => site.withStore (site.store.commit tx.id)

/-- Says whether a dictionary was found. -/
def settle (w : World) (handle : Handle) (isResolved : Bool) : World :=
  { w with handles :=
      if isResolved then w.handles.insert handle .resolved else w.handles.erase handle }

/-- Keeps a gateway list unless one of a later refresh is kept. -/
def publish (w : World) (owner : String) (list : KeptList) : World × Bool :=
  match w.kept.find? owner with
  | some old =>
    if old.startedAt ≤ list.startedAt then ({ w with kept := w.kept.insert owner list }, true)
    else (w, false)
  | none => ({ w with kept := w.kept.insert owner list }, true)

/-- Asks a transaction to do something. A program that has to wait does so until a deadline, which
is set when it begins to wait. -/
def ask (w : World) (me : Context) (tx : Ticket) (request : Request) :
    World × Context × Option request.Reply :=
  match w.sites.find? tx.store with
  | none => (w, me, none)
  | some site =>
    let (store, reply) := site.store.ask tx.id request
    let w := { w with sites := w.sites.insert tx.store (site.withStore store) }
    match reply with
    -- The wait is over, and so is its deadline.
    | some reply => (w, { me with deadline := none }, some reply)
    | none =>
      -- The deadline is set at the first poll and kept at the later ones.
      let deadline := me.deadline.getD (w.clock + site.lockTimeout.micros)
      (w, { me with deadline := some deadline }, none)

/-- Lets the next row of a scan arrive; the answer is whether the program has to give up. -/
def next (me : Context) (isRow : Bool) : Context × Bool :=
  if me.isCancelled then (me, true)
  else
    let seen := { me with rowsSeen := me.rowsSeen + 1 }
    match me.trigger with
    | .hangAfter count =>
      if count ≤ me.rowsSeen ∨ !isRow then ({ me with isCancelled := true }, true)
      else (seen, false)
    | .afterRows count =>
      if count = me.rowsSeen then ({ seen with isCancelled := true }, false) else (seen, false)
    | _ => (seen, false)

/-- Notes that a cell is about to be cleared. -/
def removing (me : Context) : Context :=
  { me with
    isCancelled := me.isCancelled || me.trigger == .onRemove me.removals
    removals := me.removals + 1 }

/-- Answers a call of a program, if it does not have to wait. -/
def perform (w : World) (me : Context) : (c : Call) → World × Context × Option c.Reply
  | .claim handle =>
    match w.handles.find? handle with
    | some .resolved => (w, me, some .resolved)
    | some .resolving => (w, me, none)
    | none =>
      ({ w with handles := w.handles.insert handle .resolving },
        { me with resolving := some handle }, some .mine)
  | .settle handle isResolved =>
    (w.settle handle isResolved, { me with resolving := none }, some ())
  | .attempt store kind =>
    -- The word to give up may come with a removal.
    let me := if kind = .remove then removing me else me
    match w.sites.find? store with
    | none => (w, me, some none)
    | some site =>
      let (site, failure) := site.attempt kind
      ({ w with sites := w.sites.insert store site }, me, some failure)
  | .begin store =>
    match w.sites.find? store with
    | none => (w, me, none)
    | some site =>
      let (id, s) := site.store.begin
      ({ w with sites := w.sites.insert store (site.withStore s) },
        { me with tickets := ⟨store, id⟩ :: me.tickets }, some ⟨store, id⟩)
  | .pass tx =>
    match w.sites.find? tx.store with
    | none => (w, me, none)
    | some site =>
      let (site, mayPass) := site.pass tx.id
      ({ w with sites := w.sites.insert tx.store site }, me, if mayPass then some () else none)
  | .ask tx request =>
    let (w, me, reply) := w.ask me tx request
    (w, me, reply.map .ok)
  | .commit tx => (w.commit tx, { me with tickets := me.tickets.erase tx }, some ())
  | .discard tx => (w.discard tx, { me with tickets := me.tickets.erase tx }, some ())
  | .isCancelled => (w, me, some me.isCancelled)
  | .next isRow =>
    let (me, stop) := next me isRow
    (w, me, some stop)
  | .mint =>
    let (etag, etags) := w.etags.mint
    ({ w with etags }, me, some etag)
  | .now => (w, me, some w.instant)
  | .note notice => ({ w with notices := notice :: w.notices }, me, some ())
  | .publish owner list =>
    let (w, isKept) := w.publish owner list
    (w, me, some isKept)
  | .kept owner => (w, me, some (w.kept.find? owner))

/-- Runs a program until it is done or has to wait. -/
def run {ρ : Type} (w : World) (me : Context) : Program ρ → World × Context × Program ρ
  | .done result => (w, me, .done result)
  | .call c go =>
    match w.perform me c with
    | (w, me, some reply) => run w me (go reply)
    | (w, me, none) => (w, me, .call c go)

/-- Whether a program that waits could go on now. -/
def canProceed {ρ : Type} (w : World) : Program ρ → Bool
  | .call (.claim handle) _ => w.handles.find? handle != some .resolving
  | .call (.pass tx) _ =>
    match w.sites.find? tx.store with
    | some site => tx.id ∉ site.gate.held
    | none => false
  | .call (.ask tx request) _ =>
    match w.sites.find? tx.store, request.lock? with
    | some site, some cell => site.store.locks.holds tx.id cell
    | _, _ => false
  | _ => false

/-- Ends the waiting of a program for a lock whose deadline has come; the program goes on with a
timeout. -/
def expire {ρ : Type} (w : World) (me : Context) : Program ρ → World × Context × Program ρ
  | .call (.ask tx request) go =>
    match w.sites.find? tx.store, request.lock? with
    | some site, some cell =>
      (w.withSite tx.store fun site => site.withStore (site.store.withdraw tx.id request),
        { me with deadline := none }, go (.error (.lockTimeout cell site.lockTimeout)))
    | _, _ => (w, me, .call (.ask tx request) go)
  | program => (w, me, program)

/-- Withdraws the request that a program waits with. -/
def withdraw {ρ : Type} (w : World) : Program ρ → World
  | .call (.ask tx request) _ =>
    w.withSite tx.store fun site => site.withStore (site.store.withdraw tx.id request)
  | _ => w

/-- Drops a program that is not done: its waiting ends, its transactions are discarded, and a
dictionary that it looked up is unknown again. -/
def abandon {ρ : Type} (w : World) (me : Context) (program : Program ρ) : World :=
  let w := me.tickets.foldl discard (w.withdraw program)
  match me.resolving with
  | some handle => w.settle handle false
  | none => w

end World

end Muster
