import Muster.Session.Command
import Muster.Session.Description

/-!
# Running a session

The clock of a session stands still while anything can go on. Tasks that can go on take turns in
the order in which they came to be able to; a task runs until it is done or has to wait. A step
that waits for its answer moves the clock to the next deadline whenever nothing can go on. Between
steps everything that can go on does.
-/

namespace Muster

/-- A session under way. -/
structure Session where
  /-- The world and the tasks in it. -/
  system : System Session.Answer
  /-- The tasks that can go on, in turn. -/
  ready : List TaskId
  /-- The number of the next task. -/
  nextTask : TaskId
  /-- The tables by name. -/
  tables : SortedMap String Table
  /-- The gateway lists by name. -/
  lists : SortedMap String GatewayList
  /-- The transactions by name. -/
  tickets : SortedMap String Ticket
  /-- The saved etags by name. -/
  etags : SortedMap String String
  /-- The tasks in the background by name. -/
  tasks : SortedMap String TaskId
  /-- The tokens that have fired. -/
  fired : List String
  /-- The tokens that running tasks watch. -/
  watched : List (String × TaskId)
  /-- What has been told, with the step during which it was; the last first. -/
  log : List (Nat × Notice)

namespace Session

/-- What a session is set up with. -/
structure Setup where
  /-- The stores, each with how long a lock is waited for. -/
  stores : List (String × Time.Span)
  /-- The tables by name. -/
  tables : List (String × Table)
  /-- The gateway lists by name. -/
  lists : List (String × GatewayList)
  /-- Where etags come from. -/
  etags : Etag.Source

/-- The name of the store that is always there. -/
def mainStore : String :=
  "main"

/-- A session that has not begun. -/
def start (setup : Setup) : Session where
  system := {
    world := {
      sites := .ofList (((mainStore, Site.defaultLockTimeout) :: setup.stores).map fun s =>
        (s.1, Site.empty s.2))
      handles := .empty
      kept := .empty
      etags := setup.etags
      clock := 0
      instant := 0
      notices := [] }
    tasks := .empty }
  ready := []
  nextTask := 0
  tables := .ofList setup.tables
  lists := .ofList setup.lists
  tickets := .empty
  etags := .empty
  tasks := .empty
  fired := []
  watched := []
  log := []

/-- The session with its world changed. -/
def withWorld (s : Session) (f : World → World) : Session :=
  { s with system := { s.system with world := f s.system.world } }

/-- The answer of a task that is done. -/
def answer? (s : Session) (id : TaskId) : Option Answer :=
  (s.system.tasks.find? id).bind System.Task.result?

/-- Gives the names that an answer brings with it. -/
def bindNames (s : Session) : Answer → Session
  | .begun name tx => { s with tickets := s.tickets.insert name tx }
  | .roster roster (some name) =>
    match roster.members with
    | (_, etag) :: _ => { s with etags := s.etags.insert name etag }
    | [] => s
  | _ => s

/-- Puts the tasks in line that have come to be able to go on. -/
def enqueue (s : Session) : Session :=
  { s with ready := s.ready ++ s.system.unblocked.filter (· ∉ s.ready) }

/-- Lets a task have its turn. The clock of refreshes moves on with every turn. -/
def turn (s : Session) (id : TaskId) : Session :=
  let system := s.system.turn id
  let world := { system.world with instant := system.world.instant + 1 }
  let s := { s with system := { system with world } }
  let s := ((s.answer? id).map s.bindNames).getD s
  s.enqueue

/-- Ends the waiting of a task whose deadline has come. -/
def expire (s : Session) (id : TaskId) : Session :=
  match s.system.step (.expire id) with
  | some system => { s with system, ready := s.ready ++ [id] }.enqueue
  | none => s

/-- Lets everything go on that can without moving the clock; at most `turns` turns are taken. -/
def settle : Nat → Session → Session
  | 0, s => s
  | turns + 1, s =>
    match s.ready with
    | id :: rest => settle turns ({ s with ready := rest }.turn id)
    | [] =>
      match s.system.firstDeadline? with
      | some (deadline, id) =>
        if deadline ≤ s.system.world.clock then settle turns (s.expire id) else s
      | none => s

/-- More turns than any session takes between two moves of the clock. -/
def maxTurns : Nat := 1000000

/-- Moves the clock to a later time. -/
def moveClock (s : Session) (time : Nat) : Session :=
  s.withWorld fun w => { w with clock := max w.clock time }

/-- Moves the clock from deadline to deadline up to a time, and lets everything go on at each. -/
def moveTo (time : Nat) : Nat → Session → Session
  | 0, s => s
  | turns + 1, s =>
    match s.system.firstDeadline? with
    | some (deadline, _) =>
      if deadline ≤ time then
        moveTo time turns (settle maxTurns (s.moveClock deadline))
      else s.moveClock time
    | none => s.moveClock time

/-- Lets everything go on, moving the clock as far as needed, until a task is done. -/
def await (id : TaskId) : Nat → Session → Session
  | 0, s => s
  | turns + 1, s =>
    let s := settle maxTurns s
    match s.answer? id with
    | some _ => s
    | none =>
      match s.system.firstDeadline? with
      | some (deadline, _) => await id turns (s.moveClock deadline)
      | none => s

/-- Forgets a task. -/
def forget (s : Session) (id : TaskId) : Session :=
  { s with
    system := { s.system with tasks := s.system.tasks.erase id }
    watched := s.watched.filter (·.2 ≠ id) }

/-- Waits for a task and tells its answer. -/
def collect (s : Session) (id : TaskId) : Session × Answer :=
  let s := settle maxTurns (await id maxTurns s)
  (s.forget id, (s.answer? id).getD (.unknown "task"))

/-- The program of a command, if everything that it names is there. -/
def program? (s : Session) : Command → Except String (Program Answer)
  | .resolve store dictionary => .ok (requestProgram .text (lookUp store dictionary))
  | .begin store name => .ok (requestProgram (.begun name) (Operation.begin store))
  | .ask store tx request => do
    let tx ← ticket tx
    return askProgram store tx request
  | .commit tx => do
    let tx ← ticket tx
    return requestProgram (fun () => .nothing) (Operation.commit tx)
  | .discard tx => do
    let tx ← ticket tx
    return requestProgram (fun () => .nothing) (Operation.discard tx)
  | .put store cell value => .ok (putProgram store cell value)
  | .dump store dictionaries => .ok (dumpProgram store dictionaries)
  | .table name command =>
    match s.tables.find? name with
    | some t => .ok (tableProgram t s.etags.find? command)
    | none => .error name
  | .gateway name command =>
    match s.lists.find? name with
    | some g => .ok (gatewayProgram g command)
    | none => .error name
where
  /-- The transaction of a name. -/
  ticket (name : String) : Except String Ticket :=
    match s.tickets.find? name with
    | some tx => .ok tx
    | none => .error name

/-- The session without the name of the transaction that a command ends. -/
def dropName (s : Session) : Command → Session
  | .commit tx => { s with tickets := s.tickets.erase tx }
  | .discard tx => { s with tickets := s.tickets.erase tx }
  | _ => s

/-- Begins a task. -/
def launch (s : Session) (program : Program Answer) (interruption : Option Interruption) :
    Session × TaskId :=
  let id := s.nextTask
  let context := match interruption with
    | none => Context.start false .never
    | some .before => Context.start true .never
    | some (.token name) => Context.start (name ∈ s.fired) .never
    | some (.trigger trigger) => Context.start false trigger
  let watched := match interruption with
    | some (.token name) => (name, id) :: s.watched
    | _ => s.watched
  ({ s with
      system := s.system.withTask id ⟨program, context⟩
      ready := s.ready ++ [id]
      nextTask := id + 1
      watched }, id)

/-- Fires a token: every task that watches it is told to give up. -/
def fire (s : Session) (token : String) : Session :=
  let system := s.watched.foldl (fun system (name, id) =>
    if name = token then (system.step (.cancel id)).getD system else system) s.system
  { s with system, fired := token :: s.fired }

/-- The description of a subject, if it is there. -/
def describe? (s : Session) : Subject → Option String
  | .store name => (s.system.world.sites.find? name).map Site.description
  | .tx name => do
    let tx ← s.tickets.find? name
    let site ← s.system.world.sites.find? tx.store
    return site.store.transactionDescription tx.id
  | .gateway name => do
    let g ← s.lists.find? name
    return g.description (s.system.world.handles.find? g.members == some .resolved)

/-- Does one step. -/
def perform (s : Session) : Step → Session × Answer
  | .run command interruption task =>
    match s.program? command with
    | .error name => (s, .unknown name)
    | .ok program =>
      -- A name that the command gives anew is forgotten before it runs.
      let (s, id) := (s.dropName command).launch program interruption
      match task with
      | none => s.collect id
      | some name =>
        let s := settle maxTurns { s with tasks := s.tasks.insert name id }
        (s, .pending (s.answer? id).isNone)
  | .poll name =>
    match s.tasks.find? name with
    | some id => (s, .pending (s.answer? id).isNone)
    | none => (s, .unknown name)
  | .join name =>
    match s.tasks.find? name with
    | some id => { s with tasks := s.tasks.erase name }.collect id
    | none => (s, .unknown name)
  | .advance span =>
    (settle maxTurns (moveTo (s.system.world.clock + span.micros) maxTurns s), .nothing)
  | .cancel token => (settle maxTurns (s.fire token), .nothing)
  | .plan store fault =>
    (s.withWorld (·.withSite store fun site => { site with plan := site.plan ++ [fault] }),
      .nothing)
  | .hold store => (s.withWorld (·.withSite store Site.hold), .nothing)
  | .release store =>
    (settle maxTurns (s.withWorld (·.withSite store Site.release)).enqueue, .nothing)
  | .tally store =>
    match s.system.world.sites.find? store with
    | some site => (s, .tally site.tally)
    | none => (s, .unknown store)
  | .describe subject => (s, ((s.describe? subject).map .text).getD (.unknown "subject"))
  | .tableInfo name =>
    match s.tables.find? name with
    | some t => (s, .table t.clusterId t.stateName)
    | none => (s, .unknown name)
  | .gatewayInfo name =>
    match s.lists.find? name with
    | some g => (s, .gatewayList g.stateName g.maxStaleness)
    | none => (s, .unknown name)

/-- Moves what has been told into the log, under the number of a step. -/
def record (s : Session) (index : Nat) : Session :=
  { s.withWorld fun w => { w with notices := [] } with
    log := s.system.world.notices.map (index, ·) ++ s.log }

/-- Does the step with a number and logs what is told during it. -/
def step (s : Session) (index : Nat) (step : Step) : Session × Answer :=
  let (s, answer) := s.perform step
  (s.record index, answer)

end Session

end Muster
