import Muster.Proofs.System.Moments
import Muster.Proofs.Table.Effect

/-!
# Histories of a table

Any number of operations of one table, run in any order. What the transactions of a history say
(`fits_run`) and what the discipline of the operations says (`follows_run`) come together in
`Faithful`: every operation that has succeeded had its effect on the contents at its own two
moments, and contents change at no other moments. All that follows about tables follows from this.
-/

namespace Muster

namespace Table

open Transaction (Replays)

/-- A history of the operations of a table. -/
abbrev Run := History Action (Except Failure Answer)

/-- The operations of a table on its store. -/
def setting (t : Table) : Setting Action (Except Failure Answer) :=
  ⟨t.store, t.program⟩

variable {t : Table} {h : Run} {s : Store} {id : TaskId} {job : Job Action} {answer : Answer}

/-- An operation has succeeded with an answer: its moments are its own and in order, and it had its
effect on the contents. -/
structure Serves (t : Table) (h : Run) (id : TaskId) (job : Job Action) (answer : Answer) :
    Prop where
  /-- Its transaction did not begin before the operation did. -/
  opening : job.started ≤ job.opening ∧ job.opening ≤ job.closing
  /-- Its transaction did not end after the operation did. -/
  closing : job.closing ≤ job.last ∧ job.last < h.now
  /-- Its moments are its own. -/
  who : h.who job.opening = some id ∧ h.who job.closing = some id
  /-- It had its effect. -/
  effect : t.Effect (h.past job.opening) (h.past job.closing) (h.past (job.closing + 1)) job.what
    job.course.etags answer

/-- The operations of a history had the effects that they should have. -/
structure Faithful (t : Table) (h : Run) : Prop where
  /-- An operation that has returned an answer has succeeded with it. -/
  returned : ∀ {id answer}, h.result? id = some (.ok answer) →
    ∃ job, h.jobs[id]? = some job ∧ t.Serves h id job answer ∧
      t.Outcome job.what job.course answer
  /-- An operation that has committed has succeeded. -/
  committed : ∀ {id : TaskId} {job : Job Action}, h.jobs[id]? = some job → job.course.IsCommitted →
    ∃ answer, t.Serves h id job answer ∧ t.Outcome job.what job.course answer
  /-- The log of an operation that has committed is borne out, and its changes were applied. -/
  applied : ∀ {id : TaskId} {job : Job Action}, h.jobs[id]? = some job → job.course.IsCommitted →
    ∃ tx, Replays (h.past job.closing) (.begin (h.past job.opening)) job.course.requests tx ∧
      h.past (job.closing + 1) = (h.past job.closing).apply tx.changes
  /-- An operation that has failed has not committed. -/
  failed : ∀ {id : TaskId} {job : Job Action} {failure}, h.jobs[id]? = some job →
    h.result? id = some (.error failure) → ¬ job.course.IsCommitted
  /-- Contents change only when an operation commits. -/
  still : ∀ {n}, n < h.now → h.past (n + 1) ≠ h.past n → ∃ (id : TaskId) (job : Job Action),
    h.jobs[id]? = some job ∧ job.course.IsCommitted ∧ job.closing = n

/-- The course of an operation that is done fits its result. -/
def Ends (t : Table) (action : Action) : Except Failure Answer → Course → Prop
  | .ok answer, k => t.Outcome action k answer
  | .error _, k => k.IsFailed

/-- All operations keep the discipline of the table. -/
theorem along_program (t : Table) (action : Action) :
    (t.program action).Along (t.discipline action) (t.Ends action) .start := by
  refine Program.Along.mono (t.isFollowed action) fun result k hresult => ?_
  cases result with
  | ok answer => exact hresult
  | error failure => exact hresult

/-- The setting of a table is disciplined: this is what each of its programs does, whatever replies
it gets. -/
theorem isDisciplined (t : Table) : t.setting.IsDisciplined := fun action =>
  ⟨_, _, t.along_program action⟩

/-- An operation that has ended has no open transaction. -/
theorem Outcome.not_opened {action : Action} {k : Course} (ho : t.Outcome action k answer)
    (tx : Ticket) : k.stage ≠ .opened tx := by
  cases ho with
  | prepared => simp [Course.start]
  | ignoredDelete clusterId hne => simp [Course.start]
  | _ => simp

/-- An outcome of a job that fits is a success. -/
theorem Serves.of_outcome (hf : t.setting.AllFit h s) (hjob : h.jobs[id]? = some job)
    (ho : t.Outcome job.what job.course answer) : t.Serves h id job answer := by
  obtain ⟨tx, hcloses⟩ := hf.closes hjob ho.not_opened
  exact ⟨hcloses.opening, hcloses.closing, hcloses.who,
    ho.effect hcloses.replays hcloses.applied hcloses.still⟩

/-- A program that is done leaves a course that fits its result. -/
theorem along_result (hfollow : t.setting.AllFollow h) {result : Except Failure Answer}
    (hresult : h.result? id = some result) :
    ∃ job, h.jobs[id]? = some job ∧ t.Ends job.what result job.course := by
  obtain ⟨job, -, hjob, -, -, hends⟩ := hfollow.ends t.along_program hresult
  exact ⟨job, hjob, hends⟩

/-- Histories whose programs follow their discipline and fit are faithful. -/
theorem Faithful.of_fits (hfollow : t.setting.AllFollow h) (hf : t.setting.AllFit h s) :
    t.Faithful h where
  -- A result was returned by a job, and all its outcomes are among those of its operation.
  returned {id answer} hresult := by
    obtain ⟨job, hjob, ho⟩ := along_result hfollow hresult
    exact ⟨job, hjob, .of_outcome hf hjob ho, ho⟩
  committed {id job} hjob hcommitted := by
    obtain ⟨answer, ho⟩ := (hfollow.follows hjob _ _ (t.along_program _)).1 hcommitted
    exact ⟨answer, .of_outcome hf hjob ho, ho⟩
  applied {id job} hjob hcommitted := by
    have hnot : ∀ tx, job.course.stage ≠ .opened tx := fun tx hopened =>
      Setting.not_isCommitted_of_opened hopened hcommitted
    obtain ⟨tx, hcloses⟩ := hf.closes hjob hnot
    exact ⟨tx, hcloses.replays, hcloses.applied hcommitted⟩
  -- A failure is never the answer of a transaction that was committed.
  failed {id job failure} hjob hresult := by
    obtain ⟨job', hjob', hfailed⟩ := along_result hfollow hresult
    obtain rfl := Option.some.inj (hjob.symm.trans hjob')
    exact Course.IsFailed.not_isCommitted hfailed
  still {n} hn hpast := by
    obtain ⟨id, job, hjob, hended, hcommitted⟩ := hf.still hn hpast
    refine ⟨id, job, hjob, hcommitted, ?_⟩
    rw [Job.closing, hended]
    rfl

/-- **Every run of operations of a table is faithful.** -/
theorem faithful_run (t : Table) {world : World} (hstore : world.store? t.store = some s)
    (moves : List (Move Action)) : t.Faithful (t.setting.run world moves) := by
  obtain ⟨s', hs'⟩ := Setting.fits_run t.isDisciplined hstore moves
  exact .of_fits (t.setting.follows_run world moves) hs'

/-- A run begins with what its store keeps at the start. -/
theorem past_zero_run (t : Table) {world : World} (hstore : world.store? t.store = some s)
    (moves : List (Move Action)) : (t.setting.run world moves).past 0 = s.committed := by
  induction moves using List.reverseRecOn with
  | nil =>
    show t.setting.committed ⟨world, .empty⟩ = s.committed
    unfold Setting.committed
    rw [show world.store? t.setting.store = some s from hstore]
  | append_singleton moves move ih =>
    rw [Setting.run_concat]
    unfold Setting.after
    split
    · exact (Setting.past_recorded (Nat.zero_le _)).trans ih
    · exact ih

namespace Faithful

variable {n : Nat}

/-- If contents change, then some operation commits with an effect on them. -/
theorem effect_of_ne (hf : t.Faithful h) (hn : n < h.now) (hpast : h.past (n + 1) ≠ h.past n) :
    ∃ (id : TaskId) (job : Job Action) (answer : Answer), h.jobs[id]? = some job ∧
      job.course.IsCommitted ∧ job.closing = n ∧ t.Serves h id job answer := by
  obtain ⟨id, job, hjob, hcommitted, hclosing⟩ := hf.still hn hpast
  obtain ⟨answer, hserves, -⟩ := hf.committed hjob hcommitted
  exact ⟨id, job, answer, hjob, hcommitted, hclosing, hserves⟩

/-- No two operations that have succeeded share a moment. -/
theorem eq_of_closing (hserves : t.Serves h id job answer) {id' : TaskId} {job' : Job Action}
    {answer' : Answer} (hserves' : t.Serves h id' job' answer') (h : job.closing = job'.closing) :
    id = id' := by
  have hwho := hserves.who.2
  rw [h, hserves'.who.2] at hwho
  exact (Option.some.inj hwho).symm

end Faithful

/-- No insertion commits while the transaction of a job is open. -/
def IsUndisturbed (h : Run) (job : Job Action) : Prop :=
  ∀ (id' : TaskId) (job' : Job Action), h.jobs[id']? = some job' → job'.course.IsCommitted →
    (∃ entry expected, job'.what = .insertRow entry expected) →
    ¬ (job.opening < job'.closing ∧ job'.closing < job.closing)

/-- If no insertion commits while a transaction is open, then all rows that there are when it ends
were there when it began. -/
theorem Faithful.isSome_of_isUndisturbed (hf : t.Faithful h) (hjob : h.jobs[id]? = some job)
    (hserves : t.Serves h id job answer) (hund : IsUndisturbed h job) {cell : Cell}
    (hcell : cell.dictionary = t.stateName)
    (hsome : ((h.past job.closing).find? cell).isSome = true) :
    ((h.past job.opening).find? cell).isSome = true := by
  have hall : ∀ n, job.opening ≤ n → n ≤ job.closing → ((h.past n).find? cell).isSome = true →
      ((h.past job.opening).find? cell).isSome = true := by
    intro n hopening
    induction hopening with
    | refl => exact fun _ hsome => hsome
    | @step n hopening ih =>
      intro hclosing hsome
      refine ih (Nat.le_of_succ_le hclosing) ?_
      by_cases hpast : h.past (n + 1) = h.past n
      · rwa [hpast] at hsome
      · obtain ⟨hlast, hlt⟩ := hserves.closing
        have hnow : n < h.now := by omega
        obtain ⟨id', job', answer', hjob', hcommitted', rfl, hserves'⟩ :=
          hf.effect_of_ne hnow hpast
        -- The job itself does not commit before its end, so another one does.
        have hne : job.opening ≠ job'.closing := by
          intro hsame
          have hwho := hserves'.who.2
          rw [← hsame, hserves.who.1] at hwho
          obtain rfl := Option.some.inj hwho
          obtain rfl := Option.some.inj (hjob.symm.trans hjob')
          exact Nat.lt_irrefl _ hclosing
        refine hserves'.effect.change.isSome_of_isSome (fun entry expected hwhat => ?_) hcell hsome
        exact hund id' job' hjob' hcommitted' ⟨entry, expected, hwhat⟩
          ⟨Nat.lt_of_le_of_ne hopening hne, hclosing⟩
  exact hall _ hserves.opening.2 (Nat.le_refl _) hsome

/-! ## A small table -/

namespace Sample

open Muster.Silo (Address Entry)

/-- The address of a silo. -/
def address : Address :=
  ⟨.v4 ⟨10, 0, 0, 1⟩ 11111, 1⟩

/-- A moment. -/
def moment : Time.Timestamp :=
  ⟨⟨2024, 1, 1, by decide⟩, 0, 0, by decide, by decide, by decide⟩

/-- The entry of a silo that starts up. -/
def entry : Entry :=
  ⟨address, .joining, 0, "host", "silo", moment, moment, []⟩

/-- A table that stores canonical addresses. -/
def table : Table :=
  ⟨"table", "main", "cluster", "members", .canonical⟩

/-- A world with one store that keeps nothing. -/
def world : World :=
  ⟨SortedMap.empty.insert "main" (Site.empty Site.defaultLockTimeout), .empty, .empty,
    ⟨0, fun _ => 0⟩, 0, 0, []⟩

/-- A program is started and goes on alone for some calls. -/
def alone (id : TaskId) (action : Action) (calls : Nat) : List (Move Action) :=
  .start action false .never :: List.replicate calls (.call id)

end Sample

end Table

end Muster
