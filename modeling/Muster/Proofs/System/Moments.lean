import Muster.Proofs.System.Spans

/-!
# The moments of a job

A job whose transaction is not open has two moments: the one at which its transaction began and the
one at which it ended (`Closes`). Its log is borne out by what was committed then, and what it
changed it changed at the second of them; when it moves otherwise, contents stay as they are.

A run can also be looked at move by move. `Steps` are the moves of one job, each with the history
before and behind it; what a history remembers of its past is what was committed at its steps
(`Steps.past`).
-/

namespace Muster

open Transaction (Replays)

/-- When the transaction of a job began; for one without, when it started. -/
def Job.opening {ι : Type} (job : Job ι) : Nat :=
  job.began.getD job.started

/-- When the transaction of a job ended; for one without, when it started. -/
def Job.closing {ι : Type} (job : Job ι) : Nat :=
  job.ended.getD job.started

/-- The moments of a job whose transaction has ended. -/
theorem Job.moments_eq {ι : Type} (job : Job ι) {b e : Nat} (hb : job.began = some b)
    (he : job.ended = some e) : job.opening = b ∧ job.closing = e := by
  unfold Job.opening Job.closing
  rw [hb, he]
  exact ⟨rfl, rfl⟩

namespace Setting

variable {ι ρ : Type} {S : Setting ι ρ} {h : History ι ρ} {s : Store} {id : TaskId} {job : Job ι}
  {tx : Transaction}

/-- The transaction of a job is not open: its moments are its own and in order, and what was
committed at them bears out its log. -/
structure Closes (h : History ι ρ) (id : TaskId) (job : Job ι) (tx : Transaction) : Prop where
  /-- Its transaction did not begin before it did. -/
  opening : job.started ≤ job.opening ∧ job.opening ≤ job.closing
  /-- Its transaction did not end after it did. -/
  closing : job.closing ≤ job.last ∧ job.last < h.now
  /-- Its moments are its own. -/
  who : h.who job.opening = some id ∧ h.who job.closing = some id
  /-- Its log is borne out. -/
  replays : Replays (h.past job.closing) (.begin (h.past job.opening)) job.course.requests tx
  /-- If it has committed, its changes were applied. -/
  applied : job.course.IsCommitted →
    h.past (job.closing + 1) = (h.past job.closing).apply tx.changes
  /-- If it has not, nothing was changed. -/
  still : ¬ job.course.IsCommitted → h.past (job.closing + 1) = h.past job.closing

/-- When a job that has not committed moves, the contents stay as they are. -/
theorem AllFit.past_succ_of_not_committed (hf : S.AllFit h s) {n : Nat} (hn : n < h.now)
    (hjob : h.jobs[id]? = some job) (hwho : h.who n = some id) (hnot : ¬ job.course.IsCommitted) :
    h.past (n + 1) = h.past n := by
  by_contra hpast
  obtain ⟨id', job', hjob', hended, hcommitted⟩ := hf.still hn hpast
  have hwho' := ((hf.fits hjob').ended n hended).2
  obtain rfl := Option.some.inj (hwho.symm.trans hwho')
  obtain rfl := Option.some.inj (hjob.symm.trans hjob')
  exact hnot hcommitted

/-- When a job moves at another moment than that of its commit, the contents stay as they are. -/
theorem AllFit.past_succ_of_ne_closing (hf : S.AllFit h s) {n : Nat} (hn : n < h.now)
    (hjob : h.jobs[id]? = some job) (hwho : h.who n = some id) (hne : n ≠ job.closing) :
    h.past (n + 1) = h.past n := by
  by_contra hpast
  obtain ⟨id', job', hjob', hended, -⟩ := hf.still hn hpast
  have hwho' := ((hf.fits hjob').ended n hended).2
  obtain rfl := Option.some.inj (hwho.symm.trans hwho')
  obtain rfl := Option.some.inj (hjob.symm.trans hjob')
  refine hne ?_
  rw [Job.closing, hended]
  rfl

/-- The moments of a job between which its transaction was open. -/
theorem Closes.of_moments (hf : S.AllFit h s) (hjob : h.jobs[id]? = some job) {b e : Nat}
    (hb : job.began = some b) (he : job.ended = some e) (hbe : b < e)
    (hreplays : Replays (h.past e) (.begin (h.past b)) job.course.requests tx)
    (happlied : job.course.IsCommitted → h.past (e + 1) = (h.past e).apply tx.changes)
    (hstill : ¬ job.course.IsCommitted → h.past (e + 1) = h.past e) : Closes h id job tx := by
  have hfits := hf.fits hjob
  obtain ⟨-, hlast, -⟩ := hfits.started
  obtain ⟨hsb, -, hwhob⟩ := hfits.began b hb
  obtain ⟨hel, hwhoe⟩ := hfits.ended e he
  obtain ⟨rfl, rfl⟩ := job.moments_eq hb he
  exact ⟨⟨Nat.le_of_lt hsb, Nat.le_of_lt hbe⟩, ⟨hel, hlast⟩, ⟨hwhob, hwhoe⟩, hreplays, happlied,
    hstill⟩

/-- The moment of a job that has begun no transaction. Without one its log is empty, so any contents
bear it out. -/
theorem Closes.of_start (hf : S.AllFit h s) (hjob : h.jobs[id]? = some job)
    (hstage : job.course.stage = .fresh) :
    Closes h id job (.begin (h.past job.started)) := by
  have hspans := (hf.fits hjob).spans
  unfold Spans at hspans
  rw [hstage] at hspans
  obtain ⟨hb, he, hrequests⟩ := hspans
  obtain ⟨hstarted, hlast, hwho⟩ := (hf.fits hjob).started
  -- Without a transaction there are no moments of its own: it opens and closes where it started.
  have hopening : job.opening = job.started := by rw [Job.opening, hb]; rfl
  have hclosing : job.closing = job.started := by rw [Job.closing, he]; rfl
  have hnot : ¬ job.course.IsCommitted := Course.IsFailed.not_isCommitted (.inl hstage)
  have hstill := hf.past_succ_of_not_committed (Nat.lt_of_le_of_lt hstarted hlast) hjob hwho hnot
  -- Within the run; the moves at its ends are its own; nothing replayed; nothing changed.
  refine ⟨?_, ?_, ?_, ?_, fun hcommitted => absurd hcommitted hnot, fun _ => ?_⟩
  · rw [hopening, hclosing]
    exact ⟨Nat.le_refl _, Nat.le_refl _⟩
  · rw [hclosing]
    exact ⟨hstarted, hlast⟩
  · rw [hopening, hclosing]
    exact ⟨hwho, hwho⟩
  · rw [hopening, hclosing, hrequests]
    exact rfl
  · rw [hclosing, hstill]

/-- A job that fits and whose transaction is not open has its two moments. -/
theorem AllFit.closes (hf : S.AllFit h s) (hjob : h.jobs[id]? = some job)
    (hnot : ∀ tx, job.course.stage ≠ .opened tx) : ∃ tx, Closes h id job tx := by
  have hspans := (hf.fits hjob).spans
  -- What is known of the moments depends on the stage, and the open one is excluded.
  unfold Spans at hspans
  cases hstage : job.course.stage with
  | fresh => exact ⟨_, .of_start hf hjob hstage⟩
  | opened tx => exact absurd hstage (hnot tx)
  | discarded ticket =>
    rw [hstage] at hspans
    obtain ⟨b, e, tx, hb, he, hbe, -, hreplays, hsame⟩ := hspans
    have hnot : ¬ job.course.IsCommitted := Course.IsFailed.not_isCommitted (.inr ⟨ticket, hstage⟩)
    exact ⟨tx, .of_moments hf hjob hb he hbe hreplays (fun hc => absurd hc hnot) fun _ => hsame⟩
  | committed ticket =>
    rw [hstage] at hspans
    obtain ⟨b, e, tx, hb, he, hbe, -, hreplays, hchanged⟩ := hspans
    exact ⟨tx, .of_moments hf hjob hb he hbe hreplays (fun _ => hchanged)
      fun hnot => absurd ⟨ticket, hstage⟩ hnot⟩

/-! ## A run move by move -/

section Steps

variable {world : World} {moves : List (Move ι)} {h h' k k' : History ι ρ} {move : Move ι}
  {id' : TaskId}

/-- A move takes no moment or one. -/
theorem now_after (S : Setting ι ρ) (h : History ι ρ) (move : Move ι) :
    S.after h move = h ∨ (S.after h move).now = h.now + 1 := by
  rw [Setting.after]
  split
  · exact .inr rfl
  · exact .inl rfl

/-- Moments do not go back. -/
theorem now_le_after (S : Setting ι ρ) (h : History ι ρ) (move : Move ι) :
    h.now ≤ (S.after h move).now := by
  rcases S.now_after h move with hsame | hnow
  · exact Nat.le_of_eq (congrArg History.now hsame).symm
  · rw [hnow]
    exact Nat.le_succ _

/-- A move leaves the past as it is. -/
theorem past_after (S : Setting ι ρ) (h : History ι ρ) (move : Move ι) {n : Nat} (hn : n ≤ h.now) :
    (S.after h move).past n = h.past n := by
  rw [Setting.after]
  split
  · exact past_recorded hn
  · rfl

/-- Who has moved at a moment is not changed by later moves. -/
theorem who_after (S : Setting ι ρ) (h : History ι ρ) (move : Move ι) {n : Nat} (hn : n < h.now) :
    (S.after h move).who n = h.who n := by
  rw [Setting.after]
  split
  · exact who_recorded hn
  · rfl

/-- No job is taken back. -/
theorem length_jobs_after (S : Setting ι ρ) (h : History ι ρ) (move : Move ι) :
    h.jobs.length ≤ (S.after h move).jobs.length := by
  rw [Setting.after]
  split
  · show h.jobs.length ≤ (jobsAfter h move).1.length
    -- A start appends a job, the other moves change one or none.
    cases move with
    | start what isCancelled trigger =>
      rw [jobsAfter, List.length_append]
      exact Nat.le_add_right _ _
    | call id => exact Nat.le_of_eq (List.length_modify ..).symm
    | expire id => exact Nat.le_of_eq (List.length_modify ..).symm
    | abandon id => exact Nat.le_of_eq (List.length_modify ..).symm
    | cancel id => exact Nat.le_refl _
    | wait micros => exact Nat.le_refl _
    | tick nanos => exact Nat.le_refl _
  · exact Nat.le_refl _

/-- What a job is to do, it was started to do. -/
theorem exists_start (S : Setting ι ρ) (world : World) (moves : List (Move ι))
    (hjob : (S.run world moves).jobs[id]? = some job) :
    ∃ isCancelled trigger, Move.start job.what isCancelled trigger ∈ moves := by
  induction moves using List.reverseRecOn generalizing job with
  | nil => exact absurd hjob (by simp [Setting.run, Setting.begin])
  | append_singleton moves move ih =>
    have hearlier : ∀ {job'}, (S.run world moves).jobs[id]? = some job' → job.what = job'.what →
        ∃ isCancelled trigger, Move.start job.what isCancelled trigger ∈ moves ++ [move] := by
      intro job' hjob' hwhat
      obtain ⟨isCancelled, trigger, hmem⟩ := ih hjob'
      exact ⟨isCancelled, trigger, List.mem_append_left _ (hwhat ▸ hmem)⟩
    -- A move of a job leaves what it is to do.
    have hmodify : ∀ {id' : TaskId} {now : Nat} {course : Job ι → Course},
        ((S.run world moves).jobs.modify id' fun job => job.move now (course job))[id]? = some job →
        ∃ isCancelled trigger, Move.start job.what isCancelled trigger ∈ moves ++ [move] := by
      intro id' now course hmoved
      rcases getElem?_modify_cases hmoved with ⟨hid, job', hjob', hsame⟩ | ⟨-, hjob'⟩
      · rw [← hid] at hjob'
        exact hearlier hjob' (by rw [hsame]; rfl)
      · exact hearlier hjob' rfl
    rw [run_concat, Setting.after] at hjob
    split at hjob
    · cases move with
      | start what isCancelled trigger =>
        rcases getElem?_concat_cases hjob with ⟨-, rfl⟩ | ⟨-, hjob'⟩
        · exact ⟨isCancelled, trigger, by simp⟩
        · exact hearlier hjob' rfl
      | call id' => exact hmodify hjob
      | expire id' => exact hmodify hjob
      | abandon id' => exact hmodify hjob
      | cancel id' => exact hearlier hjob rfl
      | wait micros => exact hearlier hjob rfl
      | tick nanos => exact hearlier hjob rfl
    · exact hearlier hjob rfl

/-- What is committed now is the last part of the past. -/
theorem past_now (S : Setting ι ρ) (world : World) (moves : List (Move ι)) :
    (S.run world moves).past (S.run world moves).now = S.committed (S.run world moves).system := by
  induction moves using List.reverseRecOn with
  | nil => rfl
  | append_singleton moves move ih =>
    rw [run_concat, Setting.after]
    split
    · exact if_neg (Nat.not_succ_le_self _)
    · exact ih

/-- A move of a job in a run: the history before it and the history behind it. A move that is passed
over leaves the history as it is. -/
inductive Steps (S : Setting ι ρ) (world : World) (moves : List (Move ι)) (id : TaskId) :
    History ι ρ → History ι ρ → Prop
  /-- The move behind the first moves is one of the job. -/
  | of {front : List (Move ι)} {move : Move ι} (hfront : front ++ [move] <+: moves)
    (hwho : (jobsAfter (S.run world front) move).2 = some id) :
    Steps S world moves id (S.run world front) (S.run world (front ++ [move]))

/-- The steps of a longer run are those of the run before and the last one. -/
theorem steps_concat : S.Steps world (moves ++ [move]) id h h' ↔
    S.Steps world moves id h h' ∨ h = S.run world moves ∧ h' = S.after h move ∧
      (jobsAfter h move).2 = some id := by
  constructor
  · rintro ⟨hfront, hwho⟩
    rcases List.prefix_concat_iff.1 hfront with hall | hold
    · obtain ⟨rfl, hlast⟩ := List.append_inj' hall rfl
      obtain rfl := List.singleton_inj.1 hlast
      exact .inr ⟨rfl, S.run_concat world _ _, hwho⟩
    · exact .inl (.of hold hwho)
  · rintro (⟨hfront, hwho⟩ | ⟨rfl, rfl, hwho⟩)
    · exact .of (hfront.trans (List.prefix_append _ _)) hwho
    · rw [← run_concat]
      exact .of List.prefix_rfl hwho

/-- Without moves there are no steps. -/
theorem not_steps_nil : ¬ S.Steps world [] id h h' := by
  rintro ⟨hfront, -⟩
  exact absurd (List.prefix_nil.1 hfront) (by simp)

/-- What a history remembers of a step: the job that moved, and what was committed before it and
behind it. -/
theorem Steps.past (hsteps : S.Steps world moves id h h') :
    h' = h ∨ h'.now = h.now + 1 ∧ h.now < (S.run world moves).now ∧
      (S.run world moves).who h.now = some id ∧
      (S.run world moves).past h.now = S.committed h.system ∧
      (S.run world moves).past (h.now + 1) = S.committed h'.system := by
  induction moves using List.reverseRecOn with
  | nil => exact absurd hsteps not_steps_nil
  | append_singleton moves move ih =>
    rw [run_concat]
    rcases steps_concat.1 hsteps with hold | ⟨rfl, rfl, hwho⟩
    · -- An earlier step is remembered as before.
      rcases ih hold with hsame | ⟨hnow, hlt, hwho, hbefore, hbehind⟩
      · exact .inl hsame
      · refine .inr ⟨hnow, Nat.lt_of_lt_of_le hlt (S.now_le_after _ move), ?_, ?_, ?_⟩
        · rw [who_after _ _ _ hlt, hwho]
        · rw [past_after _ _ _ (Nat.le_of_lt hlt), hbefore]
        · rw [past_after _ _ _ hlt, hbehind]
    · have hlast := S.past_now world (moves ++ [move])
      rw [run_concat] at hlast
      rcases S.now_after (S.run world moves) move with hsame | hnow
      · exact .inl hsame
      · rw [hnow] at hlast
        refine .inr ⟨hnow, by rw [hnow]; exact Nat.lt_succ_self _, ?_, ?_, hlast⟩
        · unfold Setting.after at hnow ⊢
          split
          · exact who_recorded_now hwho
          · rename_i hpassed
            rw [hpassed] at hnow
            exact absurd hnow (Nat.ne_of_lt (Nat.lt_succ_self _))
        · rw [past_after _ _ _ (Nat.le_refl _), S.past_now]

/-- Every moment of a job is that of one of its steps. -/
theorem exists_steps {n : Nat} (hn : n < (S.run world moves).now)
    (hwho : (S.run world moves).who n = some id) :
    ∃ h h', S.Steps world moves id h h' ∧ h.now = n ∧ h'.now = n + 1 := by
  induction moves using List.reverseRecOn with
  | nil => exact absurd hn (Nat.not_lt_zero _)
  | append_singleton moves move ih =>
    by_cases hold : n < (S.run world moves).now
    · rw [run_concat, who_after _ _ _ hold] at hwho
      obtain ⟨h, h', hsteps, hbefore, hbehind⟩ := ih hold hwho
      exact ⟨h, h', steps_concat.2 (.inl hsteps), hbefore, hbehind⟩
    · -- The last move was not passed over, and the moment is its own.
      have hstep := S.now_after (S.run world moves) move
      rw [run_concat] at hn hwho
      rcases hstep with hsame | hnow
      · rw [hsame] at hn
        exact absurd hn hold
      · obtain rfl : n = (S.run world moves).now := by omega
        refine ⟨_, _, steps_concat.2 (.inr ⟨rfl, rfl, ?_⟩), rfl, hnow⟩
        unfold Setting.after at hnow hwho
        split at hwho
        · rw [← hwho]
          exact (if_pos rfl).symm
        · rename_i hpassed
          rw [hpassed] at hnow
          exact absurd hnow (Nat.ne_of_lt (Nat.lt_succ_self _))

/-- A moment of a job is that of a step, with what was committed before it and behind it. -/
theorem exists_steps_past {n : Nat} (hn : n < (S.run world moves).now)
    (hwho : (S.run world moves).who n = some id) :
    ∃ h h', S.Steps world moves id h h' ∧ h.now = n ∧ h'.now = n + 1 ∧
      (S.run world moves).past n = S.committed h.system ∧
      (S.run world moves).past (n + 1) = S.committed h'.system := by
  obtain ⟨h, h', hsteps, rfl, hbehind⟩ := exists_steps hn hwho
  rcases hsteps.past with rfl | ⟨-, -, -, hpast, hpast'⟩
  · exact absurd hbehind (Nat.ne_of_lt (Nat.lt_succ_self _))
  · exact ⟨h, h', hsteps, rfl, hbehind, hpast, hpast'⟩

/-- At a step of a job other than its commit the contents stay as they are. -/
theorem Steps.committed_eq (hsteps : S.Steps world moves id h h')
    (hf : S.AllFit (S.run world moves) s) (hjob : (S.run world moves).jobs[id]? = some job)
    (hnot : job.course.IsCommitted → h.now ≠ job.closing) :
    S.committed h'.system = S.committed h.system := by
  rcases hsteps.past with rfl | ⟨-, hlt, hwho, hpast, hpast'⟩
  · rfl
  · rw [← hpast, ← hpast']
    by_cases hcommitted : job.course.IsCommitted
    · exact hf.past_succ_of_ne_closing hlt hjob hwho (hnot hcommitted)
    · exact hf.past_succ_of_not_committed hlt hjob hwho hcommitted

/-- Two steps at one moment are one. -/
theorem Steps.unique (hsteps : S.Steps world moves id h h') (hnow : h'.now = h.now + 1)
    (hsteps' : S.Steps world moves id' k k') (hnow' : k'.now = k.now + 1) (hsame : h.now = k.now) :
    h = k ∧ h' = k' := by
  induction moves using List.reverseRecOn with
  | nil => exact absurd hsteps not_steps_nil
  | append_singleton moves move ih =>
    -- A step that is not the last one was made before it.
    have hearlier : ∀ {id : TaskId} {h h' : History ι ρ}, S.Steps world moves id h h' →
        h'.now = h.now + 1 → h.now < (S.run world moves).now := by
      intro id h h' hold hnow
      rcases hold.past with rfl | ⟨-, hlt, -⟩
      · exact absurd hnow (Nat.ne_of_lt (Nat.lt_succ_self _))
      · exact hlt
    rcases steps_concat.1 hsteps with hold | ⟨rfl, rfl, -⟩
    · rcases steps_concat.1 hsteps' with hold' | ⟨rfl, rfl, -⟩
      · exact ih hold hold'
      · exact absurd (hearlier hold hnow) (Nat.not_lt.2 (Nat.le_of_eq hsame.symm))
    · rcases steps_concat.1 hsteps' with hold' | ⟨rfl, rfl, -⟩
      · exact absurd (hearlier hold' hnow') (Nat.not_lt.2 (Nat.le_of_eq hsame))
      · exact ⟨rfl, rfl⟩

/-- A move that moves no program leaves the stores and the gateway lists that are kept. -/
theorem after_of_none (S : Setting ι ρ) (h : History ι ρ) (move : Move ι)
    (hwho : (jobsAfter h move).2 = none) :
    (S.after h move).system.world.sites = h.system.world.sites ∧
      (S.after h move).system.world.kept = h.system.world.kept := by
  unfold Setting.after
  split
  · rename_i system hstep
    -- Only the moves of no task are left, and they touch neither the stores nor the caches.
    cases move with
    | cancel id =>
      obtain ⟨task, -, rfl⟩ := System.step_cancel hstep
      exact ⟨rfl, rfl⟩
    | wait micros =>
      obtain rfl := Option.some.inj hstep
      exact ⟨rfl, rfl⟩
    | tick nanos =>
      obtain rfl := Option.some.inj hstep
      exact ⟨rfl, rfl⟩
    | _ => exact absurd hwho (by simp [jobsAfter])
  · exact ⟨rfl, rfl⟩

/-- What no step changes and no move between the steps is at the end as it was in the beginning. -/
theorem run_eq_of_steps {α : Type} (f : System ρ → α)
    (hfree : ∀ (h : History ι ρ) (move : Move ι), (jobsAfter h move).2 = none →
      f (S.after h move).system = f h.system)
    (hsteps : ∀ {id h h'}, S.Steps world moves id h h' → f h'.system = f h.system) :
    f (S.run world moves).system = f (S.begin world).system := by
  induction moves using List.reverseRecOn with
  | nil => rfl
  | append_singleton moves move ih =>
    have hearlier := ih fun hold => hsteps (steps_concat.2 (.inl hold))
    rw [run_concat, ← hearlier]
    cases hwho : (jobsAfter (S.run world moves) move).2 with
    | none => exact hfree _ move hwho
    | some id => exact hsteps (steps_concat.2 (.inr ⟨rfl, rfl, hwho⟩))

end Steps

end Setting

end Muster
