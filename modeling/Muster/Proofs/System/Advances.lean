import Muster.Proofs.System.Moments

/-!
# What a move does to a job

A move touches at most one job. It starts it, answers a call of its program, ends its waiting for a
lock, or drops it; in all other cases the program is as it was (`advances_after`). What is to be
known of a program along a run is proved by these five cases, once for each step, whatever else the
move does.
-/

namespace Muster

/-- Only a program that is not done is dropped. -/
theorem System.call_of_step_abandon {ρ : Type} {s s' : System ρ} {id : TaskId} {task : Task ρ}
    (h : s.step (.abandon id) = some s') (htask : s.tasks.find? id = some task) :
    ∃ c go, task.program = .call c go := by
  rw [step, htask] at h
  obtain ⟨program, context⟩ := task
  cases program with
  | done result => exact absurd h (by simp)
  | call c go => exact ⟨c, go, rfl⟩

namespace Setting

variable {ι ρ : Type} {S : Setting ι ρ} {h h' : History ι ρ} {move : Move ι} {id : TaskId}

/-- What a move from one history to the next does to the program of a job. -/
inductive Advances (S : Setting ι ρ) (h h' : History ι ρ) (move : Move ι) (id : TaskId) : Prop
  /-- It leaves the program as it is. -/
  | idle (same : h'.program? id = h.program? id)
  /-- It starts the program. -/
  | started {what : ι} {isCancelled : Bool} {trigger : Trigger}
    (who : move = .start what isCancelled trigger) (new : id = h.jobs.length)
    (before : h.program? id = none) (behind : h'.program? id = some (S.program what))
  /-- It answers a call of the program. -/
  | answered {context : Context} {c : Call} {go : c.Reply → Program ρ} {reply : c.Reply}
    (who : move = .call id) (before : h.system.tasks.find? id = some ⟨.call c go, context⟩)
    (replied : (h.system.world.perform context c).2.2 = some reply)
    (world : h'.system.world = (h.system.world.perform context c).1)
    (behind : h'.program? id = some (go reply))
  /-- It ends the waiting of the program for a lock. -/
  | timedOut {tx : Ticket} {request : Request}
    {go : (Call.ask tx request).Reply → Program ρ} {fault : Store.Fault}
    (who : move = .expire id) (before : h.program? id = some (.call (.ask tx request) go))
    (behind : h'.program? id = some (go (.error fault)))
  /-- It drops the program. -/
  | dropped {c : Call} {go : c.Reply → Program ρ} (who : move = .abandon id)
    (before : h.program? id = some (.call c go)) (behind : h'.program? id = none)

/-- What a task that is inserted does not concern is as it was. -/
theorem program?_of_insert {id' : TaskId} {task : Task ρ}
    (htasks : h'.system.tasks = h.system.tasks.insert id' task) (hne : id ≠ id') :
    h'.program? id = h.program? id := by
  refine History.program?_congr ?_
  rw [htasks, SortedMap.find?_insert_of_ne _ _ hne]

/-- A task that was put down has its program. -/
theorem program?_of_insert_self (task : Task ρ)
    (htasks : h'.system.tasks = h.system.tasks.insert id task) :
    h'.program? id = some task.program := by
  refine History.program?_eq ?_
  rw [htasks, SortedMap.find?_insert_self]

/-- **A move starts a program, answers a call of it, ends its waiting, drops it, or leaves it as it
is.** -/
theorem advances_after (S : Setting ι ρ) (h : History ι ρ) (move : Move ι) (id : TaskId) :
    S.Advances h (S.after h move) move id := by
  unfold Setting.after
  split
  · rename_i system hstep
    cases move with
    | start what isCancelled trigger =>
      obtain ⟨hnone, rfl⟩ := System.step_start hstep
      by_cases hid : id = h.jobs.length
      · subst hid
        refine .started rfl rfl ?_ (program?_of_insert_self (h := h)
          ⟨S.program what, .start isCancelled trigger⟩ rfl)
        rw [History.program?, hnone]
        rfl
      · exact .idle (program?_of_insert rfl hid)
    | call id' =>
      obtain ⟨context, c, go, htask, rfl⟩ := System.step_call hstep
      by_cases hid : id = id'
      · subst hid
        have hbehind : (S.recorded h (.call id) ⟨(h.system.world.perform context c).1,
            h.system.tasks.insert id (System.answered h.system.world context c go)⟩).program? id =
              some (System.answered h.system.world context c go).program :=
          program?_of_insert_self _ rfl
        cases hreply : (h.system.world.perform context c).2.2 with
        | some reply =>
          refine .answered rfl htask hreply rfl (hbehind.trans ?_)
          rw [System.answered, hreply]
        | none =>
          -- A call that is not answered is made again.
          refine .idle (hbehind.trans ?_)
          rw [System.answered, hreply, History.program?_eq htask]
      · exact .idle (program?_of_insert rfl hid)
    | expire id' =>
      obtain ⟨task, htask, rfl⟩ := System.step_expire hstep
      by_cases hid : id = id'
      · subst hid
        have hbefore := History.program?_eq htask
        rcases h.system.world.program_expire task.context task.program with hsame |
          ⟨tx, request, go, fault, hcall, hgo⟩
        · refine .idle ((program?_of_insert_self _ rfl).trans ?_)
          rw [hbefore, hsame]
        · refine .timedOut rfl (hbefore.trans (congrArg some hcall))
            ((program?_of_insert_self _ rfl).trans (congrArg some hgo))
      · exact .idle (program?_of_insert rfl hid)
    | abandon id' =>
      obtain ⟨task, htask, rfl⟩ := System.step_abandon hstep
      obtain ⟨c, go, hcall⟩ := System.call_of_step_abandon hstep htask
      by_cases hid : id = id'
      · subst hid
        refine .dropped rfl ((History.program?_eq htask).trans (congrArg some hcall)) ?_
        show Option.map Task.program ((h.system.tasks.erase id).find? id) = none
        rw [SortedMap.find?_erase_self]
        rfl
      · exact .idle (History.program?_congr (SortedMap.find?_erase_of_ne _ hid))
    | cancel id' =>
      obtain ⟨task, htask, rfl⟩ := System.step_cancel hstep
      by_cases hid : id = id'
      · subst hid
        refine .idle ((program?_of_insert_self _ rfl).trans ?_)
        rw [History.program?_eq htask]
      · exact .idle (program?_of_insert rfl hid)
    | wait micros =>
      obtain rfl := Option.some.inj hstep
      exact .idle rfl
    | tick nanos =>
      obtain rfl := Option.some.inj hstep
      exact .idle rfl
  · exact .idle rfl

/-- The system after an answered call. -/
theorem system_after_call {context : Context} {c : Call} {go : c.Reply → Program ρ}
    {reply : c.Reply} (htask : h.system.tasks.find? id = some ⟨.call c go, context⟩)
    (hreply : (h.system.world.perform context c).2.2 = some reply) :
    (S.after h (.call id)).system = ⟨(h.system.world.perform context c).1,
      h.system.tasks.insert id ⟨go reply, (h.system.world.perform context c).2.1⟩⟩ := by
  have hstep : h.system.step (.call id) = some ⟨(h.system.world.perform context c).1,
      h.system.tasks.insert id ⟨go reply, (h.system.world.perform context c).2.1⟩⟩ := by
    rw [System.step, htask, Option.bind_eq_bind, Option.bind_some]
    dsimp only
    rw [hreply]
    rfl
  rw [Setting.after, event, hstep]
  rfl

/-- A program whose call is answered goes on with the reply. -/
theorem program?_after_call {context : Context} {c : Call} {go : c.Reply → Program ρ}
    {reply : c.Reply} (htask : h.system.tasks.find? id = some ⟨.call c go, context⟩)
    (hreply : (h.system.world.perform context c).2.2 = some reply) :
    (S.after h (.call id)).program? id = some (go reply) :=
  program?_of_insert_self (h := h) _ (congrArg System.tasks (system_after_call htask hreply))

/-- A program is done exactly if it has a result. -/
theorem result?_eq_some_iff {result : ρ} :
    h.result? id = some result ↔ h.program? id = some (.done result) := by
  rw [History.result?, History.program?]
  cases h.system.tasks.find? id with
  | none => simp
  | some task =>
    obtain ⟨program, context⟩ := task
    cases program with
    | done a => simp [System.Task.result?]
    | call c go => simp [System.Task.result?]

/-- A result is kept. -/
theorem result?_after (move : Move ι) {result : ρ} (hresult : h.result? id = some result) :
    (S.after h move).result? id = some result := by
  have hdone := result?_eq_some_iff.1 hresult
  rw [result?_eq_some_iff]
  cases S.advances_after h move id with
  | idle hsame => rw [hsame, hdone]
  | started hmove hid hbefore => exact absurd (hbefore.symm.trans hdone) (by simp)
  | answered hmove hbefore =>
    exact absurd ((History.program?_eq hbefore).symm.trans hdone) (by simp)
  | timedOut hmove hbefore => exact absurd (hbefore.symm.trans hdone) (by simp)
  | dropped hmove hbefore => exact absurd (hbefore.symm.trans hdone) (by simp)

/-- A job behind a move was one before, or it has been started with the move. -/
theorem what_after_cases {job : Job ι} (hjob : (S.after h move).jobs[id]? = some job) :
    (∃ job', h.jobs[id]? = some job' ∧ job'.what = job.what) ∨
      id = h.jobs.length ∧ ∃ isCancelled trigger, move = .start job.what isCancelled trigger := by
  -- A move of a task changes its course and not what it was started for.
  have hmodify : ∀ {id' : TaskId} {course : Job ι → Course},
      (h.jobs.modify id' fun job => job.move h.now (course job))[id]? = some job →
      ∃ job', h.jobs[id]? = some job' ∧ job'.what = job.what := by
    intro id' course hmoved
    rcases getElem?_modify_cases hmoved with ⟨rfl, job', hjob', rfl⟩ | ⟨-, hjob'⟩
    · exact ⟨job', hjob', rfl⟩
    · exact ⟨job, hjob', rfl⟩
  unfold Setting.after at hjob
  split at hjob
  -- Only a start makes a new job; it is the last of the list.
  · cases move with
    | start what isCancelled trigger =>
      rcases getElem?_concat_cases hjob with ⟨rfl, rfl⟩ | ⟨-, hjob'⟩
      · exact .inr ⟨rfl, isCancelled, trigger, rfl⟩
      · exact .inl ⟨job, hjob', rfl⟩
    | call id' => exact .inl (hmodify hjob)
    | expire id' => exact .inl (hmodify hjob)
    | abandon id' => exact .inl (hmodify hjob)
    | cancel id' => exact .inl ⟨job, hjob, rfl⟩
    | wait micros => exact .inl ⟨job, hjob, rfl⟩
    | tick nanos => exact .inl ⟨job, hjob, rfl⟩
  · exact .inl ⟨job, hjob, rfl⟩

/-- No move takes a job back or changes its purpose. -/
theorem exists_job_after (S : Setting ι ρ) (move : Move ι) {job : Job ι}
    (hjob : h.jobs[id]? = some job) :
    ∃ job', (S.after h move).jobs[id]? = some job' ∧ job'.what = job.what := by
  have hlt := (List.getElem?_eq_some_iff.1 hjob).1
  have hlt' := Nat.lt_of_lt_of_le hlt (S.length_jobs_after h move)
  have hjob' := List.getElem?_eq_getElem hlt'
  refine ⟨_, hjob', ?_⟩
  rcases what_after_cases hjob' with ⟨job'', hjob'', hwhat⟩ | ⟨hid, -⟩
  · rw [← hwhat, Option.some.inj (hjob''.symm.trans hjob)]
  · exact absurd hid (Nat.ne_of_lt hlt)

/-- The lists that are kept change only with the answer to a program that hands one in. -/
theorem kept_after_cases (S : Setting ι ρ) (h : History ι ρ) (move : Move ι) :
    (S.after h move).system.world.kept = h.system.world.kept ∨
      ∃ id context owner list go, move = .call id ∧
        h.system.tasks.find? id = some ⟨.call (.publish owner list) go, context⟩ ∧
        (S.after h move).system.world.kept = (h.system.world.publish owner list).1.kept := by
  unfold Setting.after
  split
  -- The caches of the world change with a `publish` alone, and only a call can be one.
  · rename_i system hstep
    cases move with
    | start what isCancelled trigger =>
      obtain ⟨-, rfl⟩ := System.step_start hstep
      exact .inl rfl
    | call id =>
      obtain ⟨context, c, go, htask, rfl⟩ := System.step_call hstep
      by_cases hpublish : ∃ owner list, c = .publish owner list
      · obtain ⟨owner, list, rfl⟩ := hpublish
        exact .inr ⟨id, context, owner, list, go, rfl, htask, rfl⟩
      · exact .inl (World.kept_perform _ _ fun owner list hc => hpublish ⟨owner, list, hc⟩)
    | expire id =>
      obtain ⟨task, -, rfl⟩ := System.step_expire hstep
      exact .inl (World.agrees_expire _ _ _).kept
    | abandon id =>
      obtain ⟨task, -, rfl⟩ := System.step_abandon hstep
      exact .inl (World.agrees_abandon _ _ _).kept
    | cancel id =>
      obtain ⟨task, -, rfl⟩ := System.step_cancel hstep
      exact .inl rfl
    | wait micros =>
      obtain rfl := Option.some.inj hstep
      exact .inl rfl
    | tick nanos =>
      obtain rfl := Option.some.inj hstep
      exact .inl rfl
  · exact .inl rfl

end Setting

end Muster
