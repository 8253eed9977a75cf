import Muster.Proofs.Program.Heed
import Muster.Proofs.System.Advances

/-!
# Runs of programs that are told to give up

Whether a program has been told to give up is known from its context; it hears of it when it looks,
and it may be told while it waits there for a row (`Context.Hears`). Nothing else depends on it: a
run goes in step with the one in which a program is never told, until the program hears of it
(`InStep.after`). Therefore a program that heeds what it is told either ends as it would if it was
never told, in a world that is the same, or it has heard and ends with the failure that says so
(`heeds_onward`).
-/

namespace Muster

namespace Context

/-- The context of a program that is never told to give up. -/
def deaf (me : Context) : Context :=
  { me with isCancelled := false, trigger := .never }

/-- At the call a program hears that it has been told to give up, or it is told while it waits for a
row. -/
def Hears (me : Context) : Call → Prop
  | .isCancelled => me.isCancelled = true
  | .next isRow => me.isCancelled = true ∨
    ∃ count, me.trigger = .hangAfter count ∧ (count ≤ me.rowsSeen ∨ isRow = false)
  | _ => False

end Context

namespace World

variable {ρ : Type} {w : World} {me : Context} {c : Call}

/-- A program that hears is replied so. -/
theorem exists_reply_of_hears (h : me.Hears c) :
    ∃ me' reply, w.perform me c = (w, me', some reply) ∧ c.Hears reply := by
  cases c with
  | isCancelled => exact ⟨me, me.isCancelled, rfl, h⟩
  | next isRow =>
    -- The token is heard at a row if it has fired, or if it fires there.
    have hstop : (next me isRow).2 = true := by
      unfold next
      split
      · rfl
      · rename_i hnot
        obtain hcancelled | ⟨count, htrigger, hdue⟩ := h
        · exact absurd hcancelled hnot
        · rw [htrigger]
          dsimp only
          rw [if_pos (by simpa using hdue)]
    exact ⟨(next me isRow).1, (next me isRow).2, rfl, hstop⟩
  | _ => exact h.elim

/-- Until a program hears, its calls are answered as if it was never told. -/
theorem perform_deaf (h : ¬ me.Hears c) :
    w.perform me.deaf c =
      ((w.perform me c).1, (w.perform me c).2.1.deaf, (w.perform me c).2.2) := by
  -- A deaf task differs in what it reads of the token only; the calls that do not read it treat
  -- both alike.
  cases c with
  | claim handle =>
    rw [perform, perform]
    split <;> rfl
  | settle handle isResolved => rfl
  | attempt store kind =>
    have hremoving : (if kind = .remove then removing me.deaf else me.deaf) =
        (if kind = .remove then removing me else me).deaf := by
      split
      · rfl
      · rfl
    rw [perform, perform]
    dsimp only
    rw [hremoving]
    split <;> rfl
  | begin store =>
    rw [perform, perform]
    split <;> rfl
  | pass tx =>
    rw [perform, perform]
    split <;> rfl
  | ask tx request =>
    have hask : w.ask me.deaf tx request =
        ((w.ask me tx request).1, (w.ask me tx request).2.1.deaf, (w.ask me tx request).2.2) := by
      unfold ask
      split
      · rfl
      · dsimp only
        split <;> rfl
    rw [perform, hask]
    rfl
  | isCancelled =>
    have hnot : me.isCancelled = false := Bool.eq_false_iff.2 h
    show (w, me.deaf, some false) = (w, me.deaf, some me.isCancelled)
    rw [hnot]
  -- Here the token is read, but it neither has fired nor fires now.
  | next isRow =>
    obtain ⟨hnot, htrigger⟩ := not_or.1 h
    have hsame : next me.deaf isRow = ((next me isRow).1.deaf, (next me isRow).2) := by
      unfold next
      rw [if_neg hnot, if_neg (by simp [Context.deaf])]
      dsimp only [Context.deaf]
      cases hcase : me.trigger with
      | hangAfter count =>
        have hdue : ¬ (count ≤ me.rowsSeen ∨ (!isRow) = true) := fun hdue =>
          htrigger ⟨count, hcase, by simpa using hdue⟩
        dsimp only
        rw [if_neg hdue]
      | afterRows count =>
        dsimp only
        split <;> rfl
      | _ => rfl
    rw [perform, hsame]
    rfl
  | commit tx => rfl
  | discard tx => rfl
  | mint => rfl
  | now => rfl
  | note notice => rfl
  | publish owner list => rfl
  | kept owner => rfl

/-- A program that does not hear is not replied so. -/
theorem not_hears_reply {reply : c.Reply} (h : ¬ me.Hears c)
    (hreply : (w.perform me c).2.2 = some reply) : ¬ c.Hears reply := by
  intro hhears
  have hsame := congrArg (fun result => result.2.2) (perform_deaf (w := w) h)
  dsimp only at hsame
  rw [hreply] at hsame
  cases c with
  | isCancelled =>
    obtain rfl := Option.some.inj hsame
    exact absurd hhears (by simp [Call.Hears, Context.deaf])
  | next isRow =>
    obtain rfl := Option.some.inj hsame
    exact absurd hhears (by simp [Call.Hears])
  | _ => exact hhears

/-- A waiting ends the same for a task that hears nothing. -/
theorem expire_deaf (w : World) (me : Context) (p : Program ρ) :
    w.expire me.deaf p = ((w.expire me p).1, (w.expire me p).2.1.deaf, (w.expire me p).2.2) := by
  unfold expire
  split
  · split <;> rfl
  · rfl

/-- A program that has been told to give up stays told. -/
theorem isCancelled_perform (h : me.isCancelled = true) :
    (w.perform me c).2.1.isCancelled = true := by
  -- No call takes the word back; an attempt and a row may give it.
  cases c with
  | claim handle =>
    rw [perform]
    split <;> exact h
  | attempt store kind =>
    have htold : (if kind = .remove then removing me else me).isCancelled = true := by
      split
      · exact Bool.or_eq_true_iff.2 (.inl h)
      · exact h
    rw [perform]
    dsimp only
    split <;> exact htold
  | begin store =>
    rw [perform]
    split <;> exact h
  | pass tx =>
    rw [perform]
    split <;> exact h
  | ask tx request =>
    show (w.ask me tx request).2.1.isCancelled = true
    unfold ask
    split
    · exact h
    · dsimp only
      split <;> exact h
  | next isRow =>
    show (next me isRow).1.isCancelled = true
    rw [next, if_pos h]
    exact h
  | _ => exact h

/-- A task that was told to give up is still told so when its waiting ends. -/
theorem isCancelled_expire (h : me.isCancelled = true) (p : Program ρ) :
    (w.expire me p).2.1.isCancelled = true := by
  unfold expire
  split
  · split <;> exact h
  · exact h

end World

/-- The task with a context in which it is never told to give up. -/
def Task.deaf {ρ : Type} (task : Task ρ) : Task ρ :=
  ⟨task.program, task.context.deaf⟩

namespace System

variable {ρ : Type}

/-- The two systems are in step: all that differs is whether a task has been told to give up. -/
structure InStep (s t : System ρ) (id : TaskId) : Prop where
  /-- The programs share the same. -/
  world : t.world = s.world
  /-- In the other system the task is never told. -/
  mine : t.tasks.find? id = (s.tasks.find? id).map Task.deaf
  /-- All other tasks are as they are. -/
  others : ∀ id', id' ≠ id → t.tasks.find? id' = s.tasks.find? id'

variable {s t : System ρ} {id id' : TaskId}

/-- Another task is put in the place of one. -/
theorem InStep.insert (h : s.InStep t id) (hne : id' ≠ id) (world : World) (task : Task ρ) :
    InStep ⟨world, s.tasks.insert id' task⟩ ⟨world, t.tasks.insert id' task⟩ id where
  world := rfl
  mine := by
    show (t.tasks.insert id' task).find? id = ((s.tasks.insert id' task).find? id).map Task.deaf
    rw [SortedMap.find?_insert_of_ne _ _ (Ne.symm hne),
      SortedMap.find?_insert_of_ne _ _ (Ne.symm hne), h.mine]
  others other hother := by
    show (t.tasks.insert id' task).find? other = (s.tasks.insert id' task).find? other
    rw [SortedMap.find?_insert, SortedMap.find?_insert, h.others other hother]

/-- The task itself goes on, told or not. -/
theorem InStep.insert_self (h : s.InStep t id) (world : World) (task : Task ρ) :
    InStep ⟨world, s.tasks.insert id task⟩ ⟨world, t.tasks.insert id task.deaf⟩ id where
  world := rfl
  mine := by
    show (t.tasks.insert id task.deaf).find? id = ((s.tasks.insert id task).find? id).map Task.deaf
    rw [SortedMap.find?_insert_self, SortedMap.find?_insert_self]
    rfl
  others other hother := by
    show (t.tasks.insert id task.deaf).find? other = (s.tasks.insert id task).find? other
    rw [SortedMap.find?_insert_of_ne _ _ hother, SortedMap.find?_insert_of_ne _ _ hother,
      h.others other hother]

/-- Systems stay in step when the same task leaves both of them. -/
theorem InStep.erase (h : s.InStep t id) (world : World) (id' : TaskId) :
    InStep ⟨world, s.tasks.erase id'⟩ ⟨world, t.tasks.erase id'⟩ id where
  world := rfl
  mine := by
    show (t.tasks.erase id').find? id = ((s.tasks.erase id').find? id).map Task.deaf
    rw [SortedMap.find?_erase, SortedMap.find?_erase, h.mine]
    split <;> rfl
  others other hother := by
    show (t.tasks.erase id').find? other = (s.tasks.erase id').find? other
    rw [SortedMap.find?_erase, SortedMap.find?_erase, h.others other hother]

/-- The system after an event, or the one before if the event cannot happen. -/
def stepped (s : System ρ) (event : Event ρ) : System ρ :=
  (s.step event).getD s

/-- A call of the task is answered in the same way as long as the task does not hear. -/
theorem InStep.call (h : s.InStep t id) (id' : TaskId)
    (hhears : ∀ c go me, id' = id → s.tasks.find? id = some ⟨.call c go, me⟩ → ¬ me.Hears c) :
    (s.stepped (.call id')).InStep (t.stepped (.call id')) id := by
  rw [stepped, stepped, step, step, h.world]
  by_cases hid : id' = id
  -- `id` goes on deaf in the calm run and gets the same reply, since it does not hear it here.
  · subst hid
    rw [h.mine]
    cases htask : s.tasks.find? id' with
    | none => exact h
    | some task =>
      obtain ⟨program, me⟩ := task
      cases program with
      | done result => exact h
      | call c go =>
        have hsame := s.world.perform_deaf (hhears c go me rfl htask)
        simp only [Option.map_some, Option.bind_eq_bind, Option.bind_some, Task.deaf, hsame]
        cases (s.world.perform me c).2.2 with
        | some reply => exact h.insert_self _ ⟨go reply, _⟩
        | none => exact h.insert_self _ ⟨.call c go, _⟩
  -- The other tasks are the same in both.
  · rw [h.others id' hid]
    cases s.tasks.find? id' with
    | none => exact h
    | some task =>
      obtain ⟨program, me⟩ := task
      cases program with
      | done result => exact h
      | call c go =>
        simp only [Option.bind_eq_bind, Option.bind_some]
        cases (s.world.perform me c).2.2 with
        | some reply => exact h.insert hid _ _
        | none => exact h.insert hid _ _

/-- Waiting ends in the same way. -/
theorem InStep.expire (h : s.InStep t id) (id' : TaskId) :
    (s.stepped (.expire id')).InStep (t.stepped (.expire id')) id := by
  rw [stepped, stepped, step, step, h.world]
  by_cases hid : id' = id
  -- A deadline is no matter of the token, and the request is given up in both runs.
  · subst hid
    rw [h.mine]
    cases s.tasks.find? id' with
    | none => exact h
    | some task =>
      obtain ⟨program, me⟩ := task
      have hsame := s.world.expire_deaf me program
      simp only [Option.map_some, Option.bind_eq_bind, Option.bind_some, Task.deaf, hsame]
      cases hdeadline : me.deadline with
      | none =>
        rw [show me.deaf.deadline = none from hdeadline]
        exact h
      | some deadline =>
        rw [show me.deaf.deadline = some deadline from hdeadline]
        simp only [Option.bind_some]
        split
        · exact h.insert_self _ ⟨_, _⟩
        · exact h
  · rw [h.others id' hid]
    cases s.tasks.find? id' with
    | none => exact h
    | some task =>
      simp only [Option.bind_eq_bind, Option.bind_some]
      cases task.context.deadline with
      | none => exact h
      | some deadline =>
        simp only [Option.bind_some]
        split
        · exact h.insert hid _ _
        · exact h

/-- A task is dropped in the same way. -/
theorem InStep.abandon (h : s.InStep t id) (id' : TaskId) :
    (s.stepped (.abandon id')).InStep (t.stepped (.abandon id')) id := by
  rw [stepped, stepped, step, step, h.world]
  by_cases hid : id' = id
  -- A task that goes away goes away from both.
  · subst hid
    rw [h.mine]
    cases s.tasks.find? id' with
    | none => exact h
    | some task =>
      obtain ⟨program, me⟩ := task
      cases program with
      | done result => exact h
      | call c go => exact h.erase _ _
  · rw [h.others id' hid]
    cases s.tasks.find? id' with
    | none => exact h
    | some task =>
      obtain ⟨program, me⟩ := task
      cases program with
      | done result => exact h
      | call c go => exact h.erase _ _

/-- Systems in step stay so: after an event of another task, and after one of the task itself if it
does not hear. -/
theorem InStep.stepped (h : s.InStep t id) {event : Event ρ}
    (hstart : ∀ program context, event ≠ .start id program context) (hcancel : event ≠ .cancel id)
    (hhears : ∀ c go me, event = .call id → s.tasks.find? id = some ⟨.call c go, me⟩ →
      ¬ me.Hears c) : (s.stepped event).InStep (t.stepped event) id := by
  cases event with
  -- Both runs know the same numbers, so what is new in one is new in the other.
  | start id' program context =>
    have hne : id' ≠ id := by
      rintro rfl
      exact hstart _ _ rfl
    rw [System.stepped, System.stepped, step, step, h.others id' hne]
    cases s.tasks.find? id' with
    | some task => exact h
    | none =>
      show InStep ⟨s.world, _⟩ ⟨t.world, _⟩ id
      rw [h.world]
      exact h.insert hne _ _
  | call id' => exact h.call id' fun c go me hid => hhears c go me (congrArg Event.call hid)
  | expire id' => exact h.expire id'
  | abandon id' => exact h.abandon id'
  | cancel id' =>
    have hne : id' ≠ id := by
      rintro rfl
      exact hcancel rfl
    rw [System.stepped, System.stepped, step, step, h.others id' hne]
    cases s.tasks.find? id' with
    | none => exact h
    | some task =>
      show InStep ⟨s.world, _⟩ ⟨t.world, _⟩ id
      rw [h.world]
      exact h.insert hne _ _
  | wait micros =>
    exact ⟨congrArg (fun w : World => { w with clock := w.clock + micros }) h.world, h.mine,
      h.others⟩
  | tick nanos =>
    exact ⟨congrArg (fun w : World => { w with instant := w.instant + nanos }) h.world, h.mine,
      h.others⟩

end System

namespace History

variable {ι ρ : Type}

/-- With its next call a task hears that it has been told to give up. -/
def Hears (h : History ι ρ) (id : TaskId) : Prop :=
  ∃ c go me, h.system.tasks.find? id = some ⟨.call c go, me⟩ ∧ me.Hears c

/-- With its next call a task looks whether it has been told to give up. -/
def Looks (h : History ι ρ) (id : TaskId) : Prop :=
  ∃ c go, h.program? id = some (.call c go) ∧ c.IsLook

/-- A task has been told to give up. -/
def IsTold (h : History ι ρ) (id : TaskId) : Prop :=
  ∃ task, h.system.tasks.find? id = some task ∧ task.context.isCancelled = true

/-- What can be seen of a task with a move. -/
def signs (h : History ι ρ) (id : TaskId) : Move ι → List Sign
  | .call id' =>
    if id' = id then
      match h.system.tasks.find? id with
      | some ⟨.call c _, me⟩ =>
        match (h.system.world.perform me c).2.2 with
        | some reply => c.signs reply
        | none => []
      | _ => []
    else []
  | _ => []

end History

/-- The move tells a task to give up. -/
def Move.Tells {ι : Type} (id : TaskId) : Move ι → Bool
  | .cancel id' => id' = id
  | _ => false

namespace Setting

variable {ι ρ : Type} {S : Setting ι ρ} {h calm : History ι ρ} {id : TaskId} {move : Move ι}
  {moves : List (Move ι)}

/-- The history after more moves. -/
def onward (S : Setting ι ρ) (h : History ι ρ) (moves : List (Move ι)) : History ι ρ :=
  moves.foldl S.after h

/-- A run with more moves goes on from where the first ones have led. -/
theorem run_append (S : Setting ι ρ) (world : World) (front back : List (Move ι)) :
    S.run world (front ++ back) = S.onward (S.run world front) back :=
  List.foldl_append

/-- A run onward with one more move is the history after the move. -/
theorem onward_concat (S : Setting ι ρ) (h : History ι ρ) (moves : List (Move ι)) (move : Move ι) :
    S.onward h (moves ++ [move]) = S.after (S.onward h moves) move :=
  List.foldl_append

/-- The system after a move is the one that its event leads to. -/
theorem system_after (S : Setting ι ρ) (h : History ι ρ) (move : Move ι) :
    (S.after h move).system = h.system.stepped (S.event h move) := by
  rw [Setting.after, System.stepped]
  split
  · rename_i system hstep
    rw [hstep]
    rfl
  · rename_i hstep
    rw [hstep]
    rfl

/-! ## Runs in step -/

/-- The two histories are in step: all that matters to the next moves is the same but for whether a
task has been told to give up. -/
structure InStep (h calm : History ι ρ) (id : TaskId) : Prop where
  /-- The systems are in step. -/
  system : h.system.InStep calm.system id
  /-- The task is that of a job. -/
  known : id < h.jobs.length
  /-- As many jobs were started. -/
  jobs : calm.jobs.length = h.jobs.length

/-- Only a move that starts a job adds to the jobs. -/
theorem length_jobs_after_of_not_start (S : Setting ι ρ) (h : History ι ρ)
    (hstart : ∀ what isCancelled trigger, move ≠ .start what isCancelled trigger) :
    (S.after h move).jobs.length = h.jobs.length := by
  rw [Setting.after]
  split
  · show (jobsAfter h move).1.length = _
    cases move with
    | start what isCancelled trigger => exact absurd rfl (hstart _ _ _)
    | call id => exact List.length_modify ..
    | expire id => exact List.length_modify ..
    | abandon id => exact List.length_modify ..
    | cancel id => rfl
    | wait micros => rfl
    | tick nanos => rfl
  · rfl

/-- **Runs in step stay so** as long as the task does not hear. -/
theorem InStep.after (hs : InStep h calm id) (hcancel : move.Tells id = false)
    (hhears : move = .call id → ¬ h.Hears id) : InStep (S.after h move) (S.after calm move) id := by
  -- The event of a start carries the number of jobs, which is the same in both.
  have hevent : S.event calm move = S.event h move := by
    cases move with
    | start what isCancelled trigger =>
      exact congrArg (fun n => Event.start n _ _) hs.jobs
    | _ => rfl
  refine ⟨?_, Nat.lt_of_lt_of_le hs.known (S.length_jobs_after h move), ?_⟩
  · rw [system_after, system_after, hevent]
    refine hs.system.stepped ?_ ?_ ?_
    -- `id` is there already, it is not told now, and it does not hear anything at this move.
    · intro program context hmove
      cases move with
      | start what isCancelled trigger =>
        obtain rfl : h.jobs.length = id := (Event.start.inj hmove).1
        exact absurd hs.known (Nat.lt_irrefl _)
      | _ => exact absurd hmove (by simp [event])
    · intro hmove
      cases move with
      | cancel id' =>
        obtain rfl := Event.cancel.inj hmove
        exact absurd hcancel (by simp [Move.Tells])
      | _ => exact absurd hmove (by simp [event])
    · intro c go me hmove htask hhear
      cases move with
      | call id' =>
        obtain rfl := Event.call.inj hmove
        exact hhears rfl ⟨c, go, me, htask, hhear⟩
      | _ => exact absurd hmove (by simp [event])
  -- Only a start changes how many jobs there are, and it is refused in both runs or in none.
  · by_cases hstart : ∃ what isCancelled trigger, move = .start what isCancelled trigger
    · obtain ⟨what, isCancelled, trigger, rfl⟩ := hstart
      have hfind := hs.system.others _ (Nat.ne_of_gt hs.known)
      rw [Setting.after, Setting.after, event, event, System.step, System.step, hs.jobs, hfind]
      cases h.system.tasks.find? h.jobs.length with
      | some task => exact hs.jobs
      | none =>
        show (calm.jobs ++ [_]).length = (h.jobs ++ [_]).length
        rw [List.length_append, List.length_append, hs.jobs]
        rfl
    · rw [length_jobs_after_of_not_start, length_jobs_after_of_not_start, hs.jobs]
      · exact fun what isCancelled trigger hmove => hstart ⟨what, isCancelled, trigger, hmove⟩
      · exact fun what isCancelled trigger hmove => hstart ⟨what, isCancelled, trigger, hmove⟩

/-- A job is started where no task is, which is so in every run. -/
theorem after_start (S : Setting ι ρ) (hnone : h.system.tasks.find? h.jobs.length = none) (what : ι)
    (isCancelled : Bool) (trigger : Trigger) :
    (S.after h (.start what isCancelled trigger)).system =
      h.system.withTask h.jobs.length ⟨S.program what, .start isCancelled trigger⟩ ∧
    (S.after h (.start what isCancelled trigger)).jobs =
      h.jobs ++ [⟨what, .start, h.now, none, none, h.now⟩] := by
  rw [Setting.after, event, System.step, hnone]
  exact ⟨rfl, rfl⟩

/-- Runs are in step behind the start of a job, whether or not it has been told to give up and what
will tell it. -/
theorem inStep_start (S : Setting ι ρ) (hnone : h.system.tasks.find? h.jobs.length = none)
    (what : ι) (isCancelled : Bool) (trigger : Trigger) :
    InStep (S.after h (.start what isCancelled trigger)) (S.after h (.start what false .never))
      h.jobs.length := by
  obtain ⟨hsystem, hjobs⟩ := S.after_start hnone what isCancelled trigger
  obtain ⟨hsystem', hjobs'⟩ := S.after_start hnone what false .never
  -- The world; the task itself, deaf; the others; and the number of jobs.
  refine ⟨⟨?_, ?_, fun other hother => ?_⟩, ?_, ?_⟩
  · rw [hsystem, hsystem']
    rfl
  · rw [hsystem, hsystem']
    show (h.system.tasks.insert _ _).find? _ = ((h.system.tasks.insert _ _).find? _).map Task.deaf
    rw [SortedMap.find?_insert_self, SortedMap.find?_insert_self]
    rfl
  · rw [hsystem, hsystem']
    show (h.system.tasks.insert _ _).find? _ = (h.system.tasks.insert _ _).find? _
    rw [SortedMap.find?_insert_of_ne _ _ hother, SortedMap.find?_insert_of_ne _ _ hother]
  · rw [hjobs, List.length_append]
    exact Nat.lt_succ_self _
  · rw [hjobs, hjobs']

/-- That the task is told to give up makes no difference yet. -/
theorem InStep.cancel (hs : InStep h calm id) (hcancel : move.Tells id = true) :
    InStep (S.after h move) calm id := by
  cases move with
  | cancel id' =>
    obtain rfl : id' = id := of_decide_eq_true hcancel
    rw [Setting.after, event, System.step]
    cases htask : h.system.tasks.find? id' with
    | none => exact hs
    | some task =>
      -- The word is given in one run, and the deaf task of the other one shows none of it.
      refine ⟨⟨hs.system.world, ?_, fun other hother => ?_⟩, hs.known, hs.jobs⟩
      · rw [hs.system.mine, htask]
        show _ = ((h.system.tasks.insert id' _).find? id').map Task.deaf
        rw [SortedMap.find?_insert_self]
        rfl
      · rw [hs.system.others other hother]
        exact (SortedMap.find?_insert_of_ne _ _ hother).symm
  | _ => exact absurd hcancel (by simp [Move.Tells])

end Setting

end Muster
