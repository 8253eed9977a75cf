import Muster.Proofs.System.Told

/-!
# What a run shows of a task that may be told to give up

A task that has been told to give up stays told (`told_onward`), so it hears of it when it looks for
the next time. A task with a program that heeds this is in one of two ways: it has not heard, goes
in step with a run in which it is never told, and shows the signs of its program; or it has heard
and quits (`heeds_onward`). The requests among its signs are those of its course
(`requests_onward`).
-/

namespace Muster

/-- What is added to the requests of a course is what can be seen of them. -/
theorem Course.requests_after (k : Course) (c : Call) (reply : c.Reply) :
    (k.after c reply).requests.reverse =
      k.requests.reverse ++ (c.signs reply).filterMap Sign.asked? := by
  cases c with
  | ask tx request =>
    cases reply with
    | ok reply => exact List.reverse_cons
    | error fault => exact (List.append_nil _).symm
  | _ => exact (List.append_nil _).symm

namespace History

variable {ι ρ : Type} {h : History ι ρ} {id : TaskId} {move : Move ι}

/-- The signs of a call that is answered are those of its reply. -/
theorem signs_call {c : Call} {go : c.Reply → Program ρ} {me : Context} {reply : c.Reply}
    (htask : h.system.tasks.find? id = some ⟨.call c go, me⟩)
    (hreply : (h.system.world.perform me c).2.2 = some reply) :
    h.signs id (.call id) = c.signs reply := by
  rw [signs, if_pos rfl, htask]
  dsimp only
  rw [hreply]

/-- A move with which no call of the task is answered shows nothing of it. -/
theorem signs_eq_nil (h : History ι ρ) (hnot : ∀ c go me reply, move = .call id →
      h.system.tasks.find? id = some ⟨.call c go, me⟩ →
      (h.system.world.perform me c).2.2 ≠ some reply) : h.signs id move = [] := by
  -- Only an own call that is answered is a sign.
  cases move with
  | call id' =>
    rw [signs]
    split
    · rename_i hid
      subst hid
      split
      · rename_i c go me htask
        split
        · rename_i reply hreply
          exact absurd hreply (hnot c go me reply rfl htask)
        · rfl
      · rfl
    · rfl
  | _ => rfl

end History

namespace Setting

section Told

variable {ι ρ : Type} {S : Setting ι ρ} {h : History ι ρ} {id : TaskId} {job : Job ι}
  {moves : List (Move ι)} {move : Move ι}

/-- Jobs are only ever added. -/
theorem length_jobs_onward (S : Setting ι ρ) (h : History ι ρ) (moves : List (Move ι)) :
    h.jobs.length ≤ (S.onward h moves).jobs.length := by
  induction moves using List.reverseRecOn with
  | nil => exact Nat.le_refl _
  | append_singleton moves move ih =>
    rw [onward_concat]
    exact Nat.le_trans ih (S.length_jobs_after _ move)

/-- No move takes back that a task has been told. -/
theorem told_after (hknown : id < h.jobs.length)
    (htold : ∀ task, h.system.tasks.find? id = some task → task.context.isCancelled = true)
    {task : Task ρ} (htask : (S.after h move).system.tasks.find? id = some task) :
    task.context.isCancelled = true := by
  unfold Setting.after at htask
  split at htask
  · rename_i system hstep
    -- No step takes the word back that was given to a task, and one that is new is not `id`.
    cases move with
    | start what isCancelled trigger =>
      obtain ⟨-, rfl⟩ := System.step_start hstep
      rcases SortedMap.find?_insert_cases htask with ⟨rfl, -⟩ | ⟨-, hold⟩
      · exact absurd hknown (Nat.lt_irrefl _)
      · exact htold task hold
    | call id' =>
      obtain ⟨me, c, go, hbefore, rfl⟩ := System.step_call hstep
      rcases SortedMap.find?_insert_cases htask with ⟨rfl, rfl⟩ | ⟨-, hold⟩
      · exact World.isCancelled_perform (htold _ hbefore)
      · exact htold task hold
    | expire id' =>
      obtain ⟨before, hbefore, rfl⟩ := System.step_expire hstep
      rcases SortedMap.find?_insert_cases htask with ⟨rfl, rfl⟩ | ⟨-, hold⟩
      · exact World.isCancelled_expire (htold _ hbefore) _
      · exact htold task hold
    | abandon id' =>
      obtain ⟨before, -, rfl⟩ := System.step_abandon hstep
      have hfind : (h.system.tasks.erase id').find? id = some task := htask
      rw [SortedMap.find?_erase] at hfind
      split at hfind
      · exact absurd hfind (by simp)
      · exact htold task hfind
    | cancel id' =>
      obtain ⟨before, -, rfl⟩ := System.step_cancel hstep
      rcases SortedMap.find?_insert_cases htask with ⟨-, rfl⟩ | ⟨-, hold⟩
      · rfl
      · exact htold task hold
    | wait micros =>
      obtain rfl := Option.some.inj hstep
      exact htold task htask
    | tick nanos =>
      obtain rfl := Option.some.inj hstep
      exact htold task htask
  · exact htold task htask

/-- **A task that has been told stays told.** -/
theorem told_onward (hknown : id < h.jobs.length) (htold : h.IsTold id) {task : Task ρ}
    (htask : (S.onward h moves).system.tasks.find? id = some task) :
    task.context.isCancelled = true := by
  induction moves using List.reverseRecOn generalizing task with
  | nil =>
    obtain ⟨before, hbefore, hcancelled⟩ := htold
    rwa [Option.some.inj (htask.symm.trans hbefore)]
  | append_singleton moves move ih =>
    rw [onward_concat] at htask
    exact told_after (Nat.lt_of_lt_of_le hknown (S.length_jobs_onward h moves))
      (fun _ hbefore => ih hbefore) htask

/-- A task that has been told hears when it looks. -/
theorem hears_of_looks (hknown : id < h.jobs.length) (htold : h.IsTold id)
    (hlooks : (S.onward h moves).Looks id) : (S.onward h moves).Hears id := by
  obtain ⟨c, go, hprogram, hlook⟩ := hlooks
  obtain ⟨⟨program, me⟩, htask, hcall⟩ := Option.map_eq_some_iff.1 hprogram
  obtain rfl : program = .call c go := hcall
  have hcancelled : me.isCancelled = true := told_onward hknown htold htask
  refine ⟨c, go, me, htask, ?_⟩
  cases c with
  | isCancelled => exact hcancelled
  | next isRow => exact .inl hcancelled
  | _ => exact hlook.elim

/-- With one of its moves a task has heard that it has been told to give up. -/
def HasHeard (S : Setting ι ρ) (h : History ι ρ) (id : TaskId) (moves : List (Move ι)) : Prop :=
  ∃ front, front ++ [.call id] <+: moves ∧ (S.onward h front).Hears id

/-- A task has heard that it has to give up behind one more move if it had before, or if the move is
its call and it hears so. -/
theorem hasHeard_concat : S.HasHeard h id (moves ++ [move]) ↔
    S.HasHeard h id moves ∨ move = .call id ∧ (S.onward h moves).Hears id := by
  constructor
  · rintro ⟨front, hfront, hhears⟩
    rcases List.prefix_concat_iff.1 hfront with hall | hold
    · obtain ⟨rfl, hlast⟩ := List.append_inj' hall rfl
      exact .inr ⟨(List.singleton_inj.1 hlast).symm, hhears⟩
    · exact .inl ⟨front, hold, hhears⟩
  · rintro (⟨front, hfront, hhears⟩ | ⟨rfl, hhears⟩)
    · exact ⟨front, hfront.trans (List.prefix_append _ _), hhears⟩
    · exact ⟨moves, List.prefix_rfl, hhears⟩

/-- What can be seen of a task with more moves. -/
def signs (S : Setting ι ρ) (h : History ι ρ) (id : TaskId) : List (Move ι) → List Sign
  | [] => []
  | move :: rest => h.signs id move ++ signs S (S.after h move) id rest

/-- The signs of one more move come last. -/
theorem signs_concat (S : Setting ι ρ) (h : History ι ρ) (id : TaskId) (moves : List (Move ι))
    (move : Move ι) :
    S.signs h id (moves ++ [move]) = S.signs h id moves ++ (S.onward h moves).signs id move := by
  induction moves generalizing h with
  | nil => exact List.append_nil _
  | cons first rest ih =>
    rw [List.cons_append, signs, signs, ih, List.append_assoc]
    rfl

/-! ## Requests are seen -/

/-- What a move adds to the requests of a job can be seen. -/
theorem requests_after (S : Setting ι ρ) (move : Move ι) (hjob : h.jobs[id]? = some job) :
    ∃ job', (S.after h move).jobs[id]? = some job' ∧ job'.what = job.what ∧
      job'.course.requests.reverse =
        job.course.requests.reverse ++ (h.signs id move).filterMap Sign.asked? := by
  -- Where nothing is seen, the requests have to stay.
  have hsame : ∀ {job' : Job ι}, h.signs id move = [] →
      job'.course.requests = job.course.requests → job'.course.requests.reverse =
        job.course.requests.reverse ++ (h.signs id move).filterMap Sign.asked? := by
    intro job' hsigns hrequests
    rw [hsigns, hrequests]
    exact (List.append_nil _).symm
  unfold Setting.after
  split
  · rename_i system hstep
    cases move with
    | start what isCancelled trigger =>
      exact ⟨job, (List.getElem?_append_left (List.getElem?_eq_some_iff.1 hjob).1).trans hjob, rfl,
        hsame rfl rfl⟩
    | call id' =>
      by_cases hid : id' = id
      · subst hid
        obtain ⟨me, c, go, htask, rfl⟩ := System.step_call hstep
        refine ⟨_, getElem?_modify_self hjob _, rfl, ?_⟩
        show (courseAfterCall h.system id' job.course).requests.reverse = _
        cases hreply : (h.system.world.perform me c).2.2 with
        | some reply =>
          rw [courseAfterCall_some htask hreply, History.signs_call htask hreply,
            Course.requests_after]
        | none =>
          rw [courseAfterCall_none htask hreply]
          refine hsame (h.signs_eq_nil fun c' go' me' reply' _ htask' hreply' => ?_) rfl
          obtain ⟨hcall, rfl⟩ := Task.mk.inj (Option.some.inj (htask.symm.trans htask'))
          obtain ⟨rfl, -⟩ := Program.call.inj hcall
          exact absurd (hreply.symm.trans hreply') (by simp)
      · exact ⟨job, (List.getElem?_modify_ne _ _ hid).trans hjob, rfl, hsame (if_neg hid) rfl⟩
    | expire id' =>
      by_cases hid : id' = id
      · subst hid
        exact ⟨_, getElem?_modify_self hjob _, rfl, hsame rfl rfl⟩
      · exact ⟨job, (List.getElem?_modify_ne _ _ hid).trans hjob, rfl, hsame rfl rfl⟩
    | abandon id' =>
      by_cases hid : id' = id
      · subst hid
        refine ⟨_, getElem?_modify_self hjob _, rfl, hsame rfl ?_⟩
        show job.course.drop.requests = _
        unfold Course.drop
        split <;> rfl
      · exact ⟨job, (List.getElem?_modify_ne _ _ hid).trans hjob, rfl, hsame rfl rfl⟩
    | cancel id' => exact ⟨job, hjob, rfl, hsame rfl rfl⟩
    | wait micros => exact ⟨job, hjob, rfl, hsame rfl rfl⟩
    | tick nanos => exact ⟨job, hjob, rfl, hsame rfl rfl⟩
  · rename_i hstep
    refine ⟨job, hjob, rfl, hsame (h.signs_eq_nil fun c go me reply hmove htask hreply => ?_) rfl⟩
    subst hmove
    rw [event, System.step, htask, Option.bind_eq_bind, Option.bind_some] at hstep
    dsimp only at hstep
    rw [hreply] at hstep
    exact absurd hstep (by simp)

/-- **The requests of a job are those among its signs.** -/
theorem requests_onward (hjob : h.jobs[id]? = some job) (hstart : job.course.requests = [])
    (moves : List (Move ι)) : ∃ job', (S.onward h moves).jobs[id]? = some job' ∧
      job'.what = job.what ∧
      job'.course.requests.reverse = (S.signs h id moves).filterMap Sign.asked? := by
  induction moves using List.reverseRecOn with
  | nil => exact ⟨job, hjob, rfl, congrArg List.reverse hstart⟩
  | append_singleton moves move ih =>
    obtain ⟨before, hbefore, hwhat, hrequests⟩ := ih
    obtain ⟨after, hafter, hsame, hadded⟩ := requests_after S move hbefore
    rw [onward_concat, signs_concat, List.filterMap_append, ← hrequests]
    exact ⟨after, hafter, hsame.trans hwhat, hadded⟩

end Told

/-! ## Programs that heed what they are told -/

section Heeds

variable {ι α : Type} {S : Setting ι (Except Failure α)} {h calm : History ι (Except Failure α)}
  {id : TaskId} {moves : List (Move ι)} {move : Move ι} {Q : α → List Sign → Prop}
  {seen : List Sign}

/-- A task that has not heard goes on showing what it does. -/
theorem heeds_after (hknown : id < h.jobs.length)
    (hheeds : ∀ p, h.program? id = some p → p.Heeds Q seen)
    (hhears : move = .call id → ¬ h.Hears id) {p : Program (Except Failure α)}
    (hp : (S.after h move).program? id = some p) : p.Heeds Q (seen ++ h.signs id move) := by
  by_cases hanswered : ∃ c go me reply, move = .call id ∧
      h.system.tasks.find? id = some ⟨.call c go, me⟩ ∧
      (h.system.world.perform me c).2.2 = some reply
  · obtain ⟨c, go, me, reply, rfl, htask, hreply⟩ := hanswered
    rw [program?_after_call htask hreply] at hp
    obtain rfl := Option.some.inj hp
    rw [History.signs_call htask hreply]
    exact (hheeds _ (History.program?_eq htask) reply).2
      (World.not_hears_reply (fun hhear => hhears rfl ⟨c, go, me, htask, hhear⟩) hreply)
  · have hnothing : h.signs id move = [] := h.signs_eq_nil fun c go me reply hmove htask hreply =>
      hanswered ⟨c, go, me, reply, hmove, htask, hreply⟩
    rw [hnothing, List.append_nil]
    cases S.advances_after h move id with
    | idle hsame => exact hheeds p (hsame.symm.trans hp)
    | started hmove hid hbefore => exact absurd hknown (by rw [hid]; exact Nat.lt_irrefl _)
    | answered hmove htask hreply => exact absurd ⟨_, _, _, _, hmove, htask, hreply⟩ hanswered
    | @timedOut tx request go fault hmove hbefore hbehind =>
      rw [hbehind] at hp
      obtain rfl := Option.some.inj hp
      -- A request that is not answered cannot be seen.
      have hgo : (go (.error fault)).Heeds Q (seen ++ []) :=
        (hheeds _ hbefore (.error fault)).2 fun hhear => hhear
      rwa [List.append_nil] at hgo
    | dropped hmove hbefore hbehind => exact absurd (hbehind.symm.trans hp) (by simp)

/-- A task that quits goes on quitting. -/
theorem quits_after (hknown : id < h.jobs.length) (hquits : ∀ p, h.program? id = some p → p.Quits)
    {p : Program (Except Failure α)} (hp : (S.after h move).program? id = some p) : p.Quits := by
  cases S.advances_after h move id with
  | idle hsame => exact hquits p (hsame.symm.trans hp)
  | started hmove hid hbefore => exact absurd hknown (by rw [hid]; exact Nat.lt_irrefl _)
  | answered hmove htask hreply hworld hbehind =>
    rw [hbehind] at hp
    obtain rfl := Option.some.inj hp
    exact (hquits _ (History.program?_eq htask)).2 _
  | timedOut hmove hbefore hbehind =>
    rw [hbehind] at hp
    obtain rfl := Option.some.inj hp
    exact (hquits _ hbefore).2 _
  | dropped hmove hbefore hbehind => exact absurd (hbehind.symm.trans hp) (by simp)

/-- A task that hears quits. -/
theorem quits_of_hears (hheeds : ∀ p, h.program? id = some p → p.Heeds Q seen)
    (hhears : h.Hears id) {p : Program (Except Failure α)}
    (hp : (S.after h (.call id)).program? id = some p) : p.Quits := by
  obtain ⟨c, go, me, htask, hhear⟩ := hhears
  obtain ⟨me', reply, hperform, hreply⟩ :=
    World.exists_reply_of_hears (w := h.system.world) hhear
  rw [program?_after_call htask (congrArg (fun result => result.2.2) hperform)] at hp
  obtain rfl := Option.some.inj hp
  exact (hheeds _ (History.program?_eq htask) reply).1 hreply

/-- **A task that heeds what it is told either has not heard**, goes in step with a run in which it
is never told and shows the signs of its program, **or it has heard and quits.** -/
theorem heeds_onward (hs : InStep h calm id)
    (hheeds : ∀ p, h.program? id = some p → p.Heeds Q []) (moves : List (Move ι)) :
    (¬ S.HasHeard h id moves ∧
      InStep (S.onward h moves) (S.onward calm (moves.filter fun move => !move.Tells id)) id ∧
      ∀ p, (S.onward h moves).program? id = some p → p.Heeds Q (S.signs h id moves)) ∨
    (S.HasHeard h id moves ∧ ∀ p, (S.onward h moves).program? id = some p → p.Quits) := by
  -- Induction from the end: before it either the task has not heard, and heeds, or it quits.
  induction moves using List.reverseRecOn with
  | nil =>
    refine .inl ⟨?_, hs, hheeds⟩
    rintro ⟨front, hfront, -⟩
    exact absurd (List.prefix_nil.1 hfront) (by simp)
  | append_singleton moves move ih =>
    rw [hasHeard_concat, onward_concat, signs_concat]
    rcases ih with ⟨hnot, hstep, hrest⟩ | ⟨hheard, hquits⟩
    -- The last move is the one at which the task hears, or the task goes on as if it had not been
    -- told.
    · by_cases hhears : move = .call id ∧ (S.onward h moves).Hears id
      · obtain ⟨rfl, hhear⟩ := hhears
        exact .inr ⟨.inr ⟨rfl, hhear⟩, fun p => quits_of_hears hrest hhear⟩
      · have hdeaf : move = .call id → ¬ (S.onward h moves).Hears id := fun hmove hhear =>
          hhears ⟨hmove, hhear⟩
        refine .inl ⟨not_or.2 ⟨hnot, hhears⟩, ?_, fun p => heeds_after hstep.known hrest hdeaf⟩
        -- The calm run leaves out the telling, which the task has not noticed yet.
        rw [List.filter_append]
        cases htells : move.Tells id with
        | true =>
          rw [List.filter_cons_of_neg (by simp [htells]), List.filter_nil, List.append_nil]
          exact hstep.cancel htells
        | false =>
          rw [List.filter_cons_of_pos (by simp [htells]), List.filter_nil, onward_concat]
          exact hstep.after htells hdeaf
    · have hknown := Nat.lt_of_lt_of_le hs.known (S.length_jobs_onward h moves)
      exact .inr ⟨.inl hheard, fun p => quits_after hknown hquits⟩

end Heeds

end Setting

end Muster
