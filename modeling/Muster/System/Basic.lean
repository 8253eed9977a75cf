import Muster.System.World

/-!
# Systems of programs

Any number of programs that run over one world, one call at a time and in any order. An event says
which of them moves, or what happens to it from outside; `step` is the system after the event, if
the event can happen. What holds after every run of events holds however the programs are
scheduled.
-/

namespace Muster

/-- A program on its way, with what belongs to its run. -/
structure Task (ρ : Type) where
  /-- What is left of the program. -/
  program : Program ρ
  /-- What belongs to its run. -/
  context : Context

/-- The number of a task. -/
abbrev TaskId := Nat

/-- Programs over one world. -/
structure System (ρ : Type) where
  /-- What the programs share. -/
  world : World
  /-- The programs; one that is done stays with its result. -/
  tasks : SortedMap TaskId (Task ρ)

/-- What happens in a system. -/
inductive Event (ρ : Type)
  /-- A new program begins. -/
  | start (id : TaskId) (program : Program ρ) (context : Context)
  /-- The next call of a program is answered. -/
  | call (id : TaskId)
  /-- A program has waited for a lock until its deadline and has not been handed it. -/
  | expire (id : TaskId)
  /-- A program is dropped. -/
  | abandon (id : TaskId)
  /-- A program is told to give up. -/
  | cancel (id : TaskId)
  /-- The clock of lock timeouts moves on. -/
  | wait (micros : Nat)
  /-- The clock of refreshes moves on. -/
  | tick (nanos : Nat)

namespace System

variable {ρ : Type}

/-- The result of a task that is done. -/
def Task.result? (task : Task ρ) : Option ρ :=
  match task.program with
  | .done result => some result
  | .call _ _ => none

/-- The system with a task changed. -/
def withTask (s : System ρ) (id : TaskId) (task : Task ρ) : System ρ :=
  { s with tasks := s.tasks.insert id task }

/-- The system after an event, if the event can happen. -/
def step (s : System ρ) : Event ρ → Option (System ρ)
  | .start id program context =>
    match s.tasks.find? id with
    | some _ => none
    | none => some (s.withTask id ⟨program, context⟩)
  | .call id => do
    let task ← s.tasks.find? id
    match task.program with
    | .done _ => none
    | .call c go =>
      let (world, context, reply) := s.world.perform task.context c
      match reply with
      -- The task goes on with the reply, or is polled at the same call again.
      | some reply => some ({ s with world }.withTask id ⟨go reply, context⟩)
      | none => some ({ s with world }.withTask id ⟨.call c go, context⟩)
  | .expire id => do
    let task ← s.tasks.find? id
    let deadline ← task.context.deadline
    -- A task whose call can go on by now is not timed out.
    if deadline ≤ s.world.clock ∧ !s.world.canProceed task.program then
      let (world, context, program) := s.world.expire task.context task.program
      some ({ s with world }.withTask id ⟨program, context⟩)
    else none
  | .abandon id => do
    let task ← s.tasks.find? id
    match task.program with
    | .done _ => none
    | .call _ _ => some {
        world := s.world.abandon task.context task.program
        tasks := s.tasks.erase id }
  | .cancel id => do
    let task ← s.tasks.find? id
    some (s.withTask id { task with context := { task.context with isCancelled := true } })
  | .wait micros => some { s with world := { s.world with clock := s.world.clock + micros } }
  | .tick nanos => some { s with world := { s.world with instant := s.world.instant + nanos } }

/-- Runs a task until it is done or has to wait. -/
def turn (s : System ρ) (id : TaskId) : System ρ :=
  match s.tasks.find? id with
  | none => s
  | some task =>
    let (world, context, program) := s.world.run task.context task.program
    { s with world }.withTask id ⟨program, context⟩

/-- The tasks that wait and could go on now. -/
def unblocked (s : System ρ) : List TaskId :=
  s.tasks.entries.filterMap fun (id, task) =>
    if s.world.canProceed task.program then some id else none

/-- The task whose deadline comes first, with the deadline. -/
def firstDeadline? (s : System ρ) : Option (Nat × TaskId) :=
  s.tasks.entries.foldl (fun first (id, task) =>
    match task.context.deadline, first with
    | none, _ => first
    | some d, none => some (d, id)
    | some d, some (d', id') => if d < d' then some (d, id) else some (d', id')) none

end System

end Muster
