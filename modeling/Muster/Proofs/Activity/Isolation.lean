import Muster.Proofs.Activity.Waiting
import Muster.Proofs.Table.Bounds

/-!
# Tables that have nothing to do with each other

Tables on one store share its transactions, its clock and its etags, but two tables that are apart
share no dictionary. Whatever the operations of one of them do, and however they are interleaved
with everything else, the other one keeps its contents, its locks and its readings
(`apart_tables_are_isolated`).

That their state names differ is not enough: a table whose state name is that of another one
followed by `.version` keeps its rows where the other one keeps its version
(`version_name_is_not_isolated`).
-/

namespace Muster.Activity

open Setting (Steps Led Spares)

variable {store : String} {world : World} {moves : List (Move (Activity store))} {t u : Table}

/-- The activity is an operation of a table of a state name. -/
def isOf (stateName : String) : Activity store → Bool
  | .table t _ _ => t.stateName = stateName
  | .refresh _ _ => false

/-- In a run, the operations of tables named as `t` leave `u` alone. -/
structure Isolates (world : World) (moves : List (Move (Activity store))) (t u : Table) :
    Prop where
  /-- They ask for nothing in the dictionaries of `u`, be it to read, to lock or to write. -/
  requests : ∀ {id : TaskId} {job : Job (Activity store)},
    ((setting store).run world moves).jobs[id]? = some job → isOf t.stateName job.what = true →
    ∀ a ∈ job.course.requests, ¬ u.Owns a.1.dictionary
  /-- They hold no lock there, and they wait for none. -/
  locks : ∀ {id : TaskId} {job : Job (Activity store)} {tx : Ticket} {s : Store} {cell : Cell},
    ((setting store).run world moves).jobs[id]? = some job → isOf t.stateName job.what = true →
    job.course.stage.ticket? = some tx →
    ((setting store).run world moves).system.world.store? store = some s →
    u.Owns cell.dictionary → s.locks.holds tx.id cell = false ∧ ¬ s.locks.Queues tx.id cell
  /-- None of their steps writes or clears a cell there. -/
  steps : ∀ {id : TaskId} {job : Job (Activity store)} {h h' : Run store},
    ((setting store).run world moves).jobs[id]? = some job → isOf t.stateName job.what = true →
    (setting store).Steps world moves id h h' → (contents h').AgreeOn u.Owns (contents h)
  /-- At every moment the contents there are what the other jobs alone have left. -/
  past : ∀ {n}, n ≤ ((setting store).run world moves).now →
    (((setting store).run world moves).without (isOf t.stateName) n).AgreeOn u.Owns
      (((setting store).run world moves).past n)
  /-- A reading of `u` in the run answers what it makes of those, unless it fails as planned or is
  told to give up. -/
  among : ∀ {id : TaskId} {job : Job (Activity store)} {on : u.store = store}
    {action : Table.Action} {result : Except Failure Answer},
    ((setting store).run world moves).jobs[id]? = some job → job.what = .table u on action →
    action.isRead = true → ((setting store).run world moves).result? id = some result →
    ∃ answer, result = answer.map .table ∧ u.Answers (world.plan store ≠ [])
      (((setting store).run world moves).without (isOf t.stateName) job.opening) action answer
  /-- A reading of `u` that runs alone on what was committed at a moment answers what it makes of
  those. -/
  alone : ∀ {n : Nat} {w : World} {site : Site} {me : Context} {action : Table.Action}
    {reading : Except Stored.Fault Table.Roster}, n ≤ ((setting store).run world moves).now →
    w.IsQuiet u.store site (fun _ => False) → me.isCancelled = false → me.trigger = .never →
    site.store.committed = ((setting store).run world moves).past n →
    u.reads? (((setting store).run world moves).without (isOf t.stateName) n) action =
      some reading →
    ∃ w' me', w.run me (u.program action) = (w', me', .done (Table.readingAnswer reading))

/-- An operation of a table keeps to the bounds of the table. -/
theorem keepsTo_program {activity : Activity store} (h : activity.isOf t.stateName = true)
    (MayFail : Prop) :
    ∃ Q, activity.program.KeepsTo ⟨store, t.Owns, MayFail⟩ Q .start := by
  cases activity with
  | table t' on action =>
    cases on
    obtain ⟨Q, hkeeps⟩ := t'.keepsTo_operation MayFail action
    have howns : t'.Owns = t.Owns := by
      unfold Table.Owns
      rw [of_decide_eq_true h]
    have hanswer := hkeeps.answer Answer.table
    rw [Table.bounds, howns] at hanswer
    exact ⟨_, hanswer⟩
  | refresh g on => exact absurd h (by simp [isOf])

/-- So a job of a table spares what another table owns that is apart from it. -/
theorem spares_of_isApart (hapart : t.IsApart u) {id : TaskId} {job : Job (Activity store)}
    (hjob : ((setting store).run world moves).jobs[id]? = some job)
    (hof : isOf t.stateName job.what = true) :
    Spares ((setting store).run world moves) id job u.Owns := by
  obtain ⟨Q, hkeeps⟩ := keepsTo_program hof (world.plan store ≠ [])
  exact ((setting store).leads_run world moves hjob).spares hkeeps rfl rfl
    (Table.isApart_iff.1 hapart)

/-- A reading that is done answers what it makes of the contents at which its transaction began. -/
theorem answers_past {s : Store}
    (hf : (setting store).AllFit ((setting store).run world moves) s) {id : TaskId}
    {job : Job (Activity store)} {on : u.store = store} {action : Table.Action}
    {result : Except Failure Answer}
    (hjob : ((setting store).run world moves).jobs[id]? = some job)
    (hwhat : job.what = .table u on action) (hread : action.isRead = true)
    (hresult : ((setting store).run world moves).result? id = some result) :
    ∃ answer, result = answer.map .table ∧ u.Answers (world.plan store ≠ [])
      (((setting store).run world moves).past job.opening) action answer := by
  -- The result of a program that keeps to the bounds of its table is one that a reading may have.
  obtain ⟨task, htask, hdone⟩ := Option.bind_eq_some_iff.1 hresult
  have hleads := ((setting store).leads_run world moves hjob).leads htask
  cases on
  rw [hwhat] at hleads
  have hkeeps := (u.keepsTo_reading (world.plan u.store ≠ []) hread).answer Answer.table
  have hends := (Program.KeepsTo.leads hkeeps hleads).1
  unfold System.Task.result? at hdone
  split at hdone
  · rename_i result' hprogram
    obtain rfl := Option.some.inj hdone
    rw [hprogram] at hends
    obtain ⟨answer, hanswer, hreads⟩ := hends
    exact ⟨answer, hanswer, hreads.answers hf hjob⟩
  · exact absurd hdone (by simp)

/-- **Tables that are apart are isolated.** On a store that nothing is locked in, let any operations
of any tables and any refreshes be started, moved, cancelled, timed out and dropped in any order. If
the tables `t` and `u` have different state names, and the state name of neither is that of the
other one followed by `.version`, then no operation of `t` locks, reads, writes or clears anything
where `u` keeps its rows and its version. What is kept there is at every moment what it would be if
all operations of `t` were left out, and so is what the readings of `u` answer, be it a failure to
decode what they find. -/
theorem apart_tables_are_isolated (hapart : t.IsApart u) {s : Store}
    (hstore : world.store? store = some s) (hlocks : s.locks = .empty)
    (moves : List (Move (Activity store))) : Isolates world moves t u := by
  obtain ⟨s', hf, hs, ha⟩ :=
    Setting.ascends_run (isAscending store) (isDisciplined store) hstore hlocks moves
  -- Leaving out a table that spares a cell leaves the cell as it is at every moment.
  have hwithout : ∀ {n}, n ≤ ((setting store).run world moves).now →
      (((setting store).run world moves).without (isOf t.stateName) n).AgreeOn u.Owns
        (((setting store).run world moves).past n) := fun hn =>
    hf.without_agrees (fun hjob hof => spares_of_isApart hapart hjob hof) hn
  have hreads : ∀ {n} (action : Table.Action), n ≤ ((setting store).run world moves).now →
      u.reads? (((setting store).run world moves).without (isOf t.stateName) n) action =
        u.reads? (((setting store).run world moves).past n) action := fun action hn =>
    Table.reads?_congr (hwithout hn) action
  -- A lock on a cell of the other table would have been asked for by an activity that touches it.
  have hnone : ∀ {id : TaskId} {job : Job (Activity store)} {tx : Ticket} {cell : Cell},
      ((setting store).run world moves).jobs[id]? = some job → isOf t.stateName job.what = true →
      job.course.stage.ticket? = some tx → u.Owns cell.dictionary →
      ¬ (s'.locks.holds tx.id cell = true ∨ s'.locks.Queues tx.id cell) := by
    intro id job tx cell hjob hof htx hcell hlock
    obtain ⟨id', job', tx', hjob', hstage, hnumber, hspares⟩ := ha.exists_locker hs hf hcell hlock
    obtain ⟨rfl, rfl, -⟩ := hf.eq_of_number hjob htx hjob'
      (Stage.ticket?_of_opened hstage) hnumber
    exact hspares (spares_of_isApart hapart hjob hof)
  exact {
    requests := fun hjob hof => (spares_of_isApart hapart hjob hof).requests
    locks := fun {id job tx s'' cell} hjob hof htx hstore' hcell => by
      obtain rfl : s' = s'' := Option.some.inj (hf.store.symm.trans hstore')
      have hnot := hnone hjob hof htx hcell
      exact ⟨Bool.eq_false_iff.2 fun hheld => hnot (.inl hheld), fun hqueues => hnot (.inr hqueues)⟩
    steps := fun hjob hof hsteps => hsteps.agree hf hjob (spares_of_isApart hapart hjob hof)
    past := hwithout
    among := fun {id job on action result} hjob hwhat hread hresult => by
      obtain ⟨answer, hanswer, hanswers⟩ := answers_past hf hjob hwhat hread hresult
      refine ⟨answer, hanswer, hanswers.congr fun cell hcell => ?_⟩
      exact (hwithout (hf.fits hjob).opening_le_now cell hcell).symm
    alone := fun {n w site me action reading} hn hquiet hcancelled htrigger hcommitted hread => by
      rw [hreads action hn, ← hcommitted] at hread
      exact Table.run_reading hquiet hcancelled htrigger hread }

/-! ## A reading during an insertion into another table -/

namespace Sample

/-- A table that is apart from the small one. -/
def stranger : Table :=
  { Table.Sample.table with owner := "stranger", stateName := "others" }

/-- A row is about to be inserted; the stranger begins to read; the insertion commits; the reading
goes on to its end. -/
def strangeMoves : List (Move (Activity "main")) :=
  .start (insertion Table.Sample.entry) false .never :: List.replicate 20 (.call 0) ++
    .start (.table stranger rfl .readAll) false .never :: List.replicate 10 (.call 1) ++
    List.replicate 4 (.call 0) ++ List.replicate 14 (.call 1)

/-- The history of a reading during an insertion into another table. -/
def strange : Run "main" :=
  (setting "main").run Table.Sample.world strangeMoves

end Sample

/-- The insertion has committed a row, and the stranger has read that it has none. -/
theorem apart_tables_are_isolated_strange :
    Table.Sample.table.IsApart Sample.stranger ∧
    Table.Sample.world.store? "main" = some .empty ∧
    ((Sample.strange.past Sample.strange.now).rows "members").length = 1 ∧
    (Sample.strange.result? 1).bind Sample.roster? = some .empty ∧
    Isolates Table.Sample.world Sample.strangeMoves Table.Sample.table Sample.stranger := by
  have hapart : Table.Sample.table.IsApart Sample.stranger :=
    ⟨by decide, by decide, by decide⟩
  have hrun : ((Sample.strange.past Sample.strange.now).rows "members").length = 1 ∧
      (Sample.strange.result? 1).bind Sample.roster? = some .empty := by decide +kernel
  exact ⟨hapart, rfl, hrun.1, hrun.2, apart_tables_are_isolated hapart rfl rfl Sample.strangeMoves⟩

/-! ## A reading of rows that are the version of another table -/

namespace Sample

/-- The upper table is on the store of the small world. -/
theorem store_upper : upper.store = "main" :=
  rfl

/-- A reading of all rows of the upper table. -/
def upperReading : Activity "main" :=
  .table upper store_upper .readAll

/-- The upper table is read, a row is inserted into the lower one, and the upper one is read
again. -/
def overlaidMoves : List (Move (Activity "main")) :=
  .start upperReading false .never :: List.replicate 24 (.call 0) ++
    .start (insertion Table.Sample.entry) false .never :: List.replicate 24 (.call 1) ++
    .start upperReading false .never :: List.replicate 24 (.call 2)

/-- The history of an insertion between two readings of another table. -/
def overlaid : Run "main" :=
  (setting "main").run Table.Sample.world overlaidMoves

end Sample

/-- The state names of the tables differ, and only the lower one is written to. It has written its
version among the rows of the upper one, so that these, of which there were none, cannot be decoded
any more. -/
theorem version_name_is_not_isolated :
    Table.Sample.table.stateName ≠ Sample.upper.stateName ∧
    (Sample.overlaid.result? 0).bind Sample.roster? = some .empty ∧
    (Sample.overlaid.result? 2).bind Sample.message? =
      some "failed to deserialize record: missing field `silo_address`" ∧
    ¬ Isolates Table.Sample.world Sample.overlaidMoves Table.Sample.table Sample.upper := by
  have hrun : (Sample.overlaid.result? 0).bind Sample.roster? = some .empty ∧
      (Sample.overlaid.result? 2).bind Sample.message? =
        some "failed to deserialize record: missing field `silo_address`" ∧
      (Sample.overlaid.jobs[1]?.any fun job => isOf Table.Sample.table.stateName job.what &&
        job.course.requests.any fun a => a.1.dictionary = Sample.upper.stateName) = true := by
    decide +kernel
  obtain ⟨hbefore, hbehind, hinsertion⟩ := hrun
  refine ⟨by decide, hbefore, hbehind, fun hisolates => ?_⟩
  obtain ⟨job, hjob, hof⟩ := (Option.any_eq_true _ _).1 hinsertion
  obtain ⟨hof, hany⟩ := Bool.and_eq_true_iff.1 hof
  obtain ⟨a, ha, hdictionary⟩ := List.any_eq_true.1 hany
  exact hisolates.requests hjob hof a ha (.inl (of_decide_eq_true hdictionary))

end Muster.Activity
