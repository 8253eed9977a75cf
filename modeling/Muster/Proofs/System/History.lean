import Mathlib.Data.List.Induction
import Muster.Proofs.System.Perform

/-!
# Histories

A history records a run of programs over one world: which programs were started, how far each of
them has got, and what was committed in a store before every move. Moves are numbered, so a number
is a moment: `past n` are the contents before move `n`, and `who n` tells which program it moved. A
move that cannot happen is passed over, so every list of moves is a run.

The first thing to know of a run is that all programs follow their discipline (`follows_run`): the
program that is left of a job goes on from the course of the job as the whole program does from the
start.
-/

namespace Muster

namespace Stage

/-- A transaction has begun. -/
def hasBegun : Stage → Bool
  | .fresh => false
  | _ => true

/-- A transaction has ended. -/
def hasEnded : Stage → Bool
  | .discarded _ => true
  | .committed _ => true
  | _ => false

/-- The transaction that has begun. -/
def ticket? : Stage → Option Ticket
  | .fresh => none
  | .opened tx => some tx
  | .discarded tx => some tx
  | .committed tx => some tx

/-- The transaction that has begun and not ended. -/
def open? : Stage → Option Ticket
  | .opened tx => some tx
  | _ => none

/-- A transaction that is open is that of the stage. -/
theorem ticket?_of_opened {stage : Stage} {tx : Ticket} (h : stage = .opened tx) :
    stage.ticket? = some tx := by
  rw [h]
  rfl

/-- The stage of an open transaction is that it is open. -/
theorem opened_of_open? {stage : Stage} {tx : Ticket} (h : stage.open? = some tx) :
    stage = .opened tx := by
  cases stage with
  | opened tx' => exact congrArg Stage.opened (Option.some.inj h)
  | _ => exact absurd h (by simp [open?])

end Stage

/-- The course of a program that is dropped. -/
def Course.drop (k : Course) : Course :=
  match k.stage with
  | .opened tx => { k with stage := .discarded tx }
  | _ => k

/-- A program that is dropped leaves no transaction open. -/
theorem Course.drop_not_opened (k : Course) (tx : Ticket) : k.drop.stage ≠ .opened tx := by
  unfold Course.drop
  split
  · simp
  · rename_i hnot
    exact hnot tx

/-- A program of a history. -/
structure Job (ι : Type) where
  /-- What it was started to do. -/
  what : ι
  /-- What it has done. -/
  course : Course
  /-- When it was started. -/
  started : Nat
  /-- When its transaction began. -/
  began : Option Nat
  /-- When its transaction ended. -/
  ended : Option Nat
  /-- When it moved last. -/
  last : Nat

/-- The job after a move that leads to a course. -/
def Job.move {ι : Type} (job : Job ι) (now : Nat) (course : Course) : Job ι :=
  { job with
    course
    began := job.began.or (if course.stage.hasBegun then some now else none)
    ended := job.ended.or (if course.stage.hasEnded then some now else none)
    last := now }

/-- A run of programs with its past. -/
structure History (ι ρ : Type) where
  /-- The programs and the world as they are now. -/
  system : System ρ
  /-- How many moves there were. -/
  now : Nat
  /-- The programs in the order in which they were started. -/
  jobs : List (Job ι)
  /-- What was committed before each move. -/
  past : Nat → Contents
  /-- The program that each move moved. -/
  who : Nat → Option TaskId

/-- The programs of a history and the store that they use. -/
structure Setting (ι ρ : Type) where
  /-- The name of the store. -/
  store : String
  /-- The program that is started to do something. -/
  program : ι → Program ρ

/-- What can happen next in a history. -/
inductive Move (ι : Type)
  /-- A program is started. -/
  | start (what : ι) (isCancelled : Bool) (trigger : Trigger)
  /-- The next call of a program is answered, or it waits. -/
  | call (id : TaskId)
  /-- A program has waited for a lock until its deadline. -/
  | expire (id : TaskId)
  /-- A program is dropped. -/
  | abandon (id : TaskId)
  /-- A program is told to give up. -/
  | cancel (id : TaskId)
  /-- The clock of lock timeouts moves on. -/
  | wait (micros : Nat)
  /-- The clock of refreshes moves on. -/
  | tick (nanos : Nat)

namespace Setting

variable {ι ρ : Type} (S : Setting ι ρ)

/-- What is committed in the store. -/
def committed (s : System ρ) : Contents :=
  match s.world.store? S.store with
  | some store => store.committed
  | none => .empty

/-- The history in which nothing has happened. -/
def begin (world : World) : History ι ρ where
  system := ⟨world, .empty⟩
  now := 0
  jobs := []
  past _ := S.committed ⟨world, .empty⟩
  who _ := none

/-- The event of a move. -/
def event (h : History ι ρ) : Move ι → Event ρ
  | .start what isCancelled trigger =>
    .start h.jobs.length (S.program what) (.start isCancelled trigger)
  | .call id => .call id
  | .expire id => .expire id
  | .abandon id => .abandon id
  | .cancel id => .cancel id
  | .wait micros => .wait micros
  | .tick nanos => .tick nanos

/-- The course of a program after its next call. -/
def courseAfterCall (s : System ρ) (id : TaskId) (k : Course) : Course :=
  match s.tasks.find? id with
  | some ⟨.call c _, context⟩ =>
    match (s.world.perform context c).2.2 with
    | some reply => k.after c reply
    | none => k
  | _ => k

/-- The programs after a move, and which of them it moved. -/
def jobsAfter (h : History ι ρ) : Move ι → List (Job ι) × Option TaskId
  | .start what _ _ =>
    (h.jobs ++ [⟨what, .start, h.now, none, none, h.now⟩], some h.jobs.length)
  | .call id =>
    (h.jobs.modify id fun job => job.move h.now (courseAfterCall h.system id job.course), some id)
  | .expire id => (h.jobs.modify id fun job => job.move h.now job.course, some id)
  | .abandon id => (h.jobs.modify id fun job => job.move h.now job.course.drop, some id)
  | _ => (h.jobs, none)

/-- The history after a move that leads to a system. -/
def recorded (h : History ι ρ) (move : Move ι) (system : System ρ) : History ι ρ where
  system := system
  now := h.now + 1
  jobs := (jobsAfter h move).1
  past n := if n ≤ h.now then h.past n else S.committed system
  who n := if n = h.now then (jobsAfter h move).2 else h.who n

/-- The history after a move; one that cannot happen is passed over. -/
def after (h : History ι ρ) (move : Move ι) : History ι ρ :=
  match h.system.step (S.event h move) with
  | some system => S.recorded h move system
  | none => h

/-- The history of moves in a world. -/
def run (world : World) (moves : List (Move ι)) : History ι ρ :=
  moves.foldl S.after (S.begin world)

/-- A run with one more move is the history after the move. -/
theorem run_concat (world : World) (moves : List (Move ι)) (move : Move ι) :
    S.run world (moves ++ [move]) = S.after (S.run world moves) move := by
  rw [run, List.foldl_append]
  rfl

end Setting

/-- The result of a program that is done. -/
def History.result? {ι ρ : Type} (h : History ι ρ) (id : TaskId) : Option ρ :=
  (h.system.tasks.find? id).bind System.Task.result?

/-- What is left of the program of a task. -/
def History.program? {ι ρ : Type} (h : History ι ρ) (id : TaskId) : Option (Program ρ) :=
  (h.system.tasks.find? id).map Task.program

/-- The program of a task is what is left of it. -/
theorem History.program?_eq {ι ρ : Type} {h : History ι ρ} {id : TaskId} {task : Task ρ}
    (htask : h.system.tasks.find? id = some task) : h.program? id = some task.program := by
  rw [program?, htask]
  rfl

/-- The program of a task depends on the task only. -/
theorem History.program?_congr {ι ρ : Type} {h h' : History ι ρ} {id : TaskId}
    (hsame : h'.system.tasks.find? id = h.system.tasks.find? id) :
    h'.program? id = h.program? id :=
  congrArg (Option.map Task.program) hsame

/-- The item that was changed is found at its place. -/
theorem getElem?_modify_self {α : Type} {l : List α} {i : Nat} {a : α} (h : l[i]? = some a)
    (f : α → α) : (l.modify i f)[i]? = some (f a) := by
  rw [List.getElem?_modify_eq, h]
  rfl

/-- A job after one of the jobs was modified is that one or as it was. -/
theorem getElem?_modify_cases {α : Type} {l : List α} {f : α → α} {i j : Nat} {a : α}
    (h : (l.modify i f)[j]? = some a) :
    (j = i ∧ ∃ b, l[i]? = some b ∧ a = f b) ∨ (j ≠ i ∧ l[j]? = some a) := by
  by_cases hij : i = j
  · subst hij
    rw [List.getElem?_modify_eq, Option.map_eq_map, Option.map_eq_some_iff] at h
    obtain ⟨b, hb, hf⟩ := h
    exact .inl ⟨rfl, b, hb, hf.symm⟩
  · rw [List.getElem?_modify_ne _ _ hij] at h
    exact .inr ⟨Ne.symm hij, h⟩

/-- A job after one was added at the end is that one or one of those before. -/
theorem getElem?_concat_cases {α : Type} {l : List α} {i : Nat} {a b : α}
    (h : (l ++ [a])[i]? = some b) : (i = l.length ∧ b = a) ∨ (i < l.length ∧ l[i]? = some b) := by
  rcases Nat.lt_trichotomy i l.length with hlt | rfl | hgt
  · rw [List.getElem?_append_left hlt] at h
    exact .inr ⟨hlt, h⟩
  · rw [List.getElem?_concat_length] at h
    exact .inl ⟨rfl, (Option.some.inj h).symm⟩
  · rw [List.getElem?_eq_none (by rw [List.length_append]; exact hgt)] at h
    exact absurd h (by simp)

/-! ## What an event does -/

namespace System

variable {ρ : Type} {s s' : System ρ} {id : TaskId}

/-- A program that starts has a free number. -/
theorem step_start {p : Program ρ} {context : Context}
    (h : s.step (.start id p context) = some s') :
    s.tasks.find? id = none ∧ s' = s.withTask id ⟨p, context⟩ := by
  rw [step] at h
  split at h
  · exact absurd h (by simp)
  · rename_i hnone
    exact ⟨hnone, (Option.some.inj h).symm⟩

/-- The task after the answer to its call, which it makes again if there is none. -/
def answered (w : World) (context : Context) (c : Call) (go : c.Reply → Program ρ) : Task ρ :=
  ⟨match (w.perform context c).2.2 with
    | some reply => go reply
    | none => .call c go, (w.perform context c).2.1⟩

/-- A task that moves has a call to make, and the world answers it or lets it wait. -/
theorem step_call (h : s.step (.call id) = some s') :
    ∃ context c go, s.tasks.find? id = some ⟨.call c go, context⟩ ∧
      s' = ⟨(s.world.perform context c).1,
        s.tasks.insert id (answered s.world context c go)⟩ := by
  rw [step] at h
  cases htask : s.tasks.find? id with
  | none =>
    rw [htask] at h
    exact absurd h (by simp)
  | some task =>
    obtain ⟨program, context⟩ := task
    rw [htask] at h
    cases program with
    | done result => exact absurd h (by simp)
    | call c go =>
      refine ⟨context, c, go, rfl, ?_⟩
      simp only [Option.bind_eq_bind, Option.bind_some] at h
      -- The step makes the same distinction as `answered`.
      unfold answered
      cases hreply : (s.world.perform context c).2.2 with
      | none =>
        rw [hreply] at h
        exact (Option.some.inj h).symm
      | some reply =>
        rw [hreply] at h
        exact (Option.some.inj h).symm

/-- A task whose time is up is one of the system. -/
theorem step_expire (h : s.step (.expire id) = some s') :
    ∃ task, s.tasks.find? id = some task ∧
      s' = ⟨(s.world.expire task.context task.program).1, s.tasks.insert id
        ⟨(s.world.expire task.context task.program).2.2,
          (s.world.expire task.context task.program).2.1⟩⟩ := by
  rw [step] at h
  cases htask : s.tasks.find? id with
  | none =>
    rw [htask] at h
    exact absurd h (by simp)
  | some task =>
    rw [htask] at h
    -- A task expires only with a deadline that has passed.
    refine ⟨task, rfl, ?_⟩
    simp only [Option.bind_eq_bind, Option.bind_some] at h
    cases hdeadline : task.context.deadline with
    | none =>
      rw [hdeadline] at h
      exact absurd h (by simp)
    | some deadline =>
      rw [hdeadline, Option.bind_some] at h
      split at h
      · exact (Option.some.inj h).symm
      · exact absurd h (by simp)

/-- A program is expired only as long as it could not go on. -/
theorem canProceed_of_step_expire (h : s.step (.expire id) = some s') {task : Task ρ}
    (htask : s.tasks.find? id = some task) : s.world.canProceed task.program = false := by
  rw [step, htask, Option.bind_eq_bind, Option.bind_some] at h
  obtain ⟨deadline, -, hstep⟩ := Option.bind_eq_some_iff.1 h
  by_contra hproceed
  rw [Bool.not_eq_false] at hproceed
  rw [hproceed, if_neg (by simp)] at hstep
  exact absurd hstep (by simp)

/-- A task that is dropped is one of the system, and leaves it. -/
theorem step_abandon (h : s.step (.abandon id) = some s') :
    ∃ task, s.tasks.find? id = some task ∧
      s' = ⟨s.world.abandon task.context task.program, s.tasks.erase id⟩ := by
  rw [step] at h
  cases htask : s.tasks.find? id with
  | none =>
    rw [htask] at h
    exact absurd h (by simp)
  | some task =>
    obtain ⟨program, context⟩ := task
    rw [htask] at h
    cases program with
    | done result => exact absurd h (by simp)
    | call c go => exact ⟨_, rfl, (Option.some.inj h).symm⟩

/-- A task that is told to give up is one of the system, and nothing else changes. -/
theorem step_cancel (h : s.step (.cancel id) = some s') :
    ∃ task, s.tasks.find? id = some task ∧
      s' = s.withTask id { task with context := { task.context with isCancelled := true } } := by
  rw [step] at h
  cases htask : s.tasks.find? id with
  | none =>
    rw [htask] at h
    exact absurd h (by simp)
  | some task =>
    rw [htask] at h
    exact ⟨task, rfl, (Option.some.inj h).symm⟩

end System

namespace Setting

variable {ι ρ : Type} {h : History ι ρ} {id : TaskId} {context : Context} {c : Call}
  {go : c.Reply → Program ρ}

/-- A call that is answered adds to the course of its task. -/
theorem courseAfterCall_some {reply : c.Reply}
    (htask : h.system.tasks.find? id = some ⟨.call c go, context⟩)
    (hreply : (h.system.world.perform context c).2.2 = some reply) (k : Course) :
    courseAfterCall h.system id k = k.after c reply := by
  rw [courseAfterCall, htask]
  dsimp only
  rw [hreply]

/-- A call that is not answered leaves the course as it is. -/
theorem courseAfterCall_none (htask : h.system.tasks.find? id = some ⟨.call c go, context⟩)
    (hreply : (h.system.world.perform context c).2.2 = none) (k : Course) :
    courseAfterCall h.system id k = k := by
  rw [courseAfterCall, htask]
  dsimp only
  rw [hreply]

/-- A call that keeps the stage whatever its reply keeps it also if there is none. -/
theorem stage_courseAfterCall (htask : h.system.tasks.find? id = some ⟨.call c go, context⟩)
    {k : Course} (hstage : ∀ reply, (k.after c reply).stage = k.stage) :
    (courseAfterCall h.system id k).stage = k.stage := by
  cases hreply : (h.system.world.perform context c).2.2 with
  | none => rw [courseAfterCall_none htask hreply]
  | some reply =>
    rw [courseAfterCall_some htask hreply]
    exact hstage reply

end Setting

/-! ## All programs follow their discipline -/

namespace Discipline

variable {d : Discipline} {k : Course} {c : Call}

/-- A program that has committed changes its course no more. -/
theorem after_of_isCommitted (hk : k.IsCommitted) (h : d.Allows k c) (reply : c.Reply) :
    k.after c reply = k := by
  obtain ⟨tx, htx⟩ := hk
  -- Whatever touches the transaction is refused at this stage; the other calls leave the course.
  cases c with
  | begin store => exact absurd (htx.symm.trans h.2) (by simp)
  | ask tx' request => exact absurd (htx.symm.trans h) (by simp)
  | commit tx' => exact absurd (htx.symm.trans h.1) (by simp)
  | discard tx' =>
    rcases h with h | h
    · exact absurd (htx.symm.trans h) (by simp)
    · exact absurd (htx.symm.trans h) (by simp)
  | mint =>
    rcases h with h | ⟨tx', h⟩
    · exact absurd (htx.symm.trans h) (by simp)
    · exact absurd (htx.symm.trans h) (by simp)
  | _ => rfl

/-- A program commits in a course that fits. -/
theorem commits_after (hk : k.IsCommitted → d.commits k) (h : d.Allows k c) (reply : c.Reply)
    (hafter : (k.after c reply).IsCommitted) : d.commits (k.after c reply) := by
  -- A commit is the one call that can end at this stage, and it is made of what `d` commits.
  by_cases hcommitted : k.IsCommitted
  · rw [after_of_isCommitted hcommitted h reply]
    exact hk hcommitted
  · cases c with
    | commit tx => exact h.2
    | begin store =>
      obtain ⟨tx, htx⟩ := hafter
      exact absurd htx (by simp [Course.after])
    | discard tx =>
      obtain ⟨tx', htx'⟩ := hafter
      exact absurd htx' (by simp [Course.after])
    | ask tx request =>
      cases reply with
      | ok reply => exact absurd hafter hcommitted
      | error fault => exact absurd hafter hcommitted
    | _ => exact absurd hafter hcommitted

end Discipline

namespace Setting

variable {ι ρ : Type} {S : Setting ι ρ} {h : History ι ρ} {id : TaskId} {job : Job ι}

/-- What is left of the program of a job goes on from its course as the discipline says, and the job
has committed only as it says. -/
def Follows (S : Setting ι ρ) (h : History ι ρ) (id : TaskId) (job : Job ι) : Prop :=
  ∀ P Q, (S.program job.what).Along ⟨S.store, P⟩ Q .start →
    (job.course.IsCommitted → P job.course) ∧
    ∀ task, h.system.tasks.find? id = some task → task.program.Along ⟨S.store, P⟩ Q job.course

/-- All jobs follow their discipline, and all tasks are those of jobs. -/
structure AllFollow (S : Setting ι ρ) (h : History ι ρ) : Prop where
  /-- Each job follows its discipline. -/
  follows : ∀ {id job}, h.jobs[id]? = some job → S.Follows h id job
  /-- A task is that of a job. -/
  known : ∀ {id task}, h.system.tasks.find? id = some task → id < h.jobs.length

/-- Where nothing has begun there is no job that could have left its course. -/
theorem allFollow_begin (S : Setting ι ρ) (world : World) : S.AllFollow (S.begin world) where
  follows hjob := absurd hjob (by simp [begin])
  known htask := absurd htask (by simp [begin])

/-- A job that does not move follows its discipline if its task keeps its program. -/
theorem Follows.frame {h' : History ι ρ} {id : TaskId} {job : Job ι} (hf : S.Follows h id job)
    (htask : ∀ task', h'.system.tasks.find? id = some task' →
      ∃ task, h.system.tasks.find? id = some task ∧ task'.program = task.program) :
    S.Follows h' id job := by
  intro P Q halong
  obtain ⟨hcommits, hrest⟩ := hf P Q halong
  refine ⟨hcommits, fun task' htask' => ?_⟩
  obtain ⟨task, hfind, hprogram⟩ := htask task' htask'
  rw [hprogram]
  exact hrest task hfind

/-- Jobs other than the one that moves follow their discipline as before. -/
theorem AllFollow.modify (hf : S.AllFollow h) {h' : History ι ρ} {id : TaskId}
    {f : Job ι → Job ι} (hjobs : h'.jobs = h.jobs.modify id f)
    (hothers : ∀ id', id' ≠ id → h'.system.tasks.find? id' = h.system.tasks.find? id')
    (hknown : ∀ task, h'.system.tasks.find? id = some task → id < h.jobs.length)
    (hself : ∀ job, h.jobs[id]? = some job → S.Follows h' id (f job)) : S.AllFollow h' where
  follows := by
    intro id' job' hjob'
    rw [hjobs] at hjob'
    -- The job that moved is `hself`'s; the others run the same tasks as before.
    rcases getElem?_modify_cases hjob' with ⟨rfl, job, hjob, rfl⟩ | ⟨hne, hjob⟩
    · exact hself job hjob
    · refine (hf.follows hjob).frame fun task htask => ⟨task, ?_, rfl⟩
      rw [← hothers id' hne]
      exact htask
  known := by
    intro id' task htask
    rw [hjobs, List.length_modify]
    -- No task is without a job, since the list of the jobs keeps its length.
    by_cases hid : id' = id
    · subst hid
      exact hknown task htask
    · rw [hothers id' hid] at htask
      exact hf.known htask

/-- After the answer to its call a program follows its discipline. -/
theorem Follows.call (hf : S.Follows h id job) {h' : History ι ρ} {context : Context} {c : Call}
    {go : c.Reply → Program ρ} (htask : h.system.tasks.find? id = some ⟨.call c go, context⟩)
    (htask' : h'.system.tasks.find? id = some (System.answered h.system.world context c go)) :
    S.Follows h' id (job.move h.now (courseAfterCall h.system id job.course)) := by
  intro P Q halong
  obtain ⟨hcommits, hrest⟩ := hf P Q halong
  obtain ⟨hallows, hgo⟩ := hrest _ htask
  cases hreply : (h.system.world.perform context c).2.2 with
  | none =>
    -- The program waits and makes the same call again.
    rw [courseAfterCall_none htask hreply]
    refine ⟨hcommits, fun task hfind => ?_⟩
    obtain rfl := Option.some.inj (htask'.symm.trans hfind)
    rw [System.answered, hreply]
    exact ⟨hallows, hgo⟩
  | some reply =>
    -- The program goes on with the reply, and its course with it.
    rw [courseAfterCall_some htask hreply]
    refine ⟨fun hafter => Discipline.commits_after hcommits hallows reply hafter, ?_⟩
    intro task hfind
    obtain rfl := Option.some.inj (htask'.symm.trans hfind)
    rw [System.answered, hreply]
    exact hgo reply (World.isReply_perform _ _ hreply)

/-- A program whose waiting has ended follows its discipline. -/
theorem Follows.expire (hf : S.Follows h id job) {h' : History ι ρ} {task task' : Task ρ}
    (htask : h.system.tasks.find? id = some task) (htask' : h'.system.tasks.find? id = some task')
    (hprogram : task'.program = (h.system.world.expire task.context task.program).2.2) :
    S.Follows h' id (job.move h.now job.course) := by
  intro P Q halong
  obtain ⟨hcommits, hrest⟩ := hf P Q halong
  refine ⟨hcommits, fun task'' hfind => ?_⟩
  obtain rfl := Option.some.inj (htask'.symm.trans hfind)
  have hgoes := hrest task htask
  -- Either the program did not wait, or it goes on with a fault as the reply.
  rcases h.system.world.program_expire task.context task.program with hsame |
    ⟨tx, request, go, fault, hcall, hgo⟩
  · rw [hprogram, hsame]
    exact hgoes
  · rw [hcall] at hgoes
    rw [hprogram, hgo]
    exact hgoes.2 (.error fault) trivial

/-- Dropping a program does not commit anything. -/
theorem isCommitted_drop {k : Course} (hdrop : k.drop.IsCommitted) :
    k.IsCommitted ∧ k.drop = k := by
  obtain ⟨tx, htx⟩ := hdrop
  unfold Course.drop at htx ⊢
  split at htx
  · exact absurd htx (by simp)
  · exact ⟨⟨tx, htx⟩, rfl⟩

/-- A job whose task is dropped ends there, with its transaction discarded. -/
theorem Follows.abandon (hf : S.Follows h id job) {h' : History ι ρ}
    (htask : h'.system.tasks.find? id = none) :
    S.Follows h' id (job.move h.now job.course.drop) := by
  intro P Q halong
  obtain ⟨hcommits, -⟩ := hf P Q halong
  refine ⟨fun hdrop => ?_, fun task hfind => absurd (htask.symm.trans hfind) (by simp)⟩
  obtain ⟨hcommitted, hsame⟩ := isCommitted_drop hdrop
  show P job.course.drop
  rw [hsame]
  exact hcommits hcommitted

/-- A move that changes neither the jobs nor the programs of tasks. -/
theorem AllFollow.same (hf : S.AllFollow h) {h' : History ι ρ} (hjobs : h'.jobs = h.jobs)
    (htasks : ∀ id task', h'.system.tasks.find? id = some task' →
      ∃ task, h.system.tasks.find? id = some task ∧ task'.program = task.program) :
    S.AllFollow h' where
  follows hjob := (hf.follows (hjobs ▸ hjob)).frame (htasks _)
  known htask := by
    obtain ⟨task, hfind, -⟩ := htasks _ _ htask
    rw [hjobs]
    exact hf.known hfind

/-- A program that is started follows its discipline from the start. -/
theorem AllFollow.start (hf : S.AllFollow h) (what : ι) (isCancelled : Bool) (trigger : Trigger) :
    S.AllFollow (S.recorded h (.start what isCancelled trigger)
      (h.system.withTask h.jobs.length ⟨S.program what, .start isCancelled trigger⟩)) where
  follows := by
    intro id job hjob
    rcases getElem?_concat_cases hjob with ⟨rfl, rfl⟩ | ⟨hlt, hold⟩
    -- A new job has made no call, so its program still is the whole of its operation.
    · intro P Q halong
      refine ⟨fun ⟨tx, htx⟩ => absurd htx (by simp [Course.start]), fun task htask => ?_⟩
      obtain rfl := Option.some.inj ((SortedMap.find?_insert_self ..).symm.trans htask)
      exact halong
    -- The tasks started before keep their programs, as the new number is above theirs.
    · refine (hf.follows hold).frame fun task htask => ⟨task, ?_, rfl⟩
      exact (SortedMap.find?_insert_of_ne _ _ (Nat.ne_of_lt hlt)).symm.trans htask
  known := by
    intro id task htask
    show id < (h.jobs ++ [_]).length
    rw [List.length_append]
    rcases SortedMap.find?_insert_cases htask with ⟨rfl, -⟩ | ⟨-, hold⟩
    · exact Nat.lt_succ_self _
    · exact Nat.lt_succ_of_lt (hf.known hold)

/-- Every move keeps the programs to their discipline. -/
theorem AllFollow.after (hf : S.AllFollow h) (move : Move ι) : S.AllFollow (S.after h move) := by
  unfold Setting.after
  split
  · rename_i system hstep
    cases move with
    | start what isCancelled trigger =>
      obtain ⟨-, rfl⟩ := System.step_start hstep
      exact hf.start what isCancelled trigger
    | call id =>
      obtain ⟨context, c, go, htask, rfl⟩ := System.step_call hstep
      refine hf.modify rfl (fun id' hne => SortedMap.find?_insert_of_ne _ _ hne)
        (fun _ _ => hf.known htask) fun job hjob => ?_
      -- Each move that changes a course has its lemma above.
      exact (hf.follows hjob).call htask (SortedMap.find?_insert_self ..)
    | expire id =>
      obtain ⟨task, htask, rfl⟩ := System.step_expire hstep
      refine hf.modify rfl (fun id' hne => SortedMap.find?_insert_of_ne _ _ hne)
        (fun _ _ => hf.known htask) fun job hjob => ?_
      exact (hf.follows hjob).expire htask (SortedMap.find?_insert_self ..) rfl
    | abandon id =>
      obtain ⟨task, htask, rfl⟩ := System.step_abandon hstep
      refine hf.modify rfl (fun id' hne => SortedMap.find?_erase_of_ne _ hne)
        (fun _ _ => hf.known htask) fun job hjob => ?_
      exact (hf.follows hjob).abandon (SortedMap.find?_erase_self ..)
    | cancel id =>
      obtain ⟨task, htask, rfl⟩ := System.step_cancel hstep
      refine hf.same rfl fun id' task' htask' => ?_
      rcases SortedMap.find?_insert_cases htask' with ⟨rfl, rfl⟩ | ⟨-, hold⟩
      · exact ⟨task, htask, rfl⟩
      · exact ⟨task', hold, rfl⟩
    | wait micros =>
      obtain rfl := Option.some.inj hstep
      exact hf.same rfl fun _ task' htask' => ⟨task', htask', rfl⟩
    | tick nanos =>
      obtain rfl := Option.some.inj hstep
      exact hf.same rfl fun _ task' htask' => ⟨task', htask', rfl⟩
  · exact hf

/-- **In every run all programs follow their discipline.** -/
theorem follows_run (S : Setting ι ρ) (world : World) (moves : List (Move ι)) :
    S.AllFollow (S.run world moves) := by
  induction moves using List.reverseRecOn with
  | nil => exact S.allFollow_begin world
  | append_singleton moves move ih =>
    rw [run_concat]
    exact ih.after move

/-- A program that is done is that of a job, whose course fits the result. -/
theorem AllFollow.ends (hfollow : S.AllFollow h) {P : ι → Course → Prop}
    {Q : ι → ρ → Course → Prop}
    (halong : ∀ what, (S.program what).Along ⟨S.store, P what⟩ (Q what) .start) {result : ρ}
    (hresult : h.result? id = some result) :
    ∃ job task, h.jobs[id]? = some job ∧ h.system.tasks.find? id = some task ∧
      task.program = .done result ∧ Q job.what result job.course := by
  obtain ⟨task, htask, hdone⟩ := Option.bind_eq_some_iff.1 hresult
  -- The task is that of a job, and what is left of its program is only the result.
  have hjob := List.getElem?_eq_getElem (hfollow.known htask)
  have hrest := (hfollow.follows hjob _ _ (halong _)).2 task htask
  unfold System.Task.result? at hdone
  split at hdone
  · rename_i result' hprogram
    obtain rfl := Option.some.inj hdone
    refine ⟨_, task, hjob, htask, hprogram, ?_⟩
    rwa [hprogram] at hrest
  · exact absurd hdone (by simp)

end Setting

end Muster
