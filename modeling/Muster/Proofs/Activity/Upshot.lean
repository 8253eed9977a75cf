import Muster.Proofs.Activity.Basic
import Muster.Proofs.System.Locks
import Muster.Proofs.System.Trails

/-!
# All or nothing

Any number of activities on one store, run in any order, each of them liable to fail at every call,
to wait in vain for a lock or to be told to give up. One that has returned has changed nothing at
all, or it has changed something at one of its steps and nothing at any other; which of the two, its
result says (`Upshot`). Either way no lock is left behind (`all_or_nothing`).

Contents are known from the course of the activity, by what was committed when its transaction
ended; the gateway lists that are kept are known from its trail; and locks from who holds them.
-/

namespace Muster

namespace Table

/-- An operation that is done has written nothing: it has said so, or it was one for a row that
there is not. -/
def Refuses (t : Table) (snapshot before : Contents) : Action → Answer → Prop
  | _, .flag false => True
  | .heartbeat entry, _ => before.find? (t.rowCell entry.address) = none
  | .readRow address, _ => snapshot.find? (t.rowCell address) = none
  | _, _ => False

/-- An operation that has written nothing leaves the contents as they are. -/
theorem Effect.after_eq_of_refuses {t : Table} {snapshot before after : Contents} {action : Action}
    {etags : List String} {answer : Answer}
    (h : t.Effect snapshot before after action etags answer)
    (hrefuses : t.Refuses snapshot before action answer) : after = before := by
  cases h with
  | rowExists entry expected rowEtag hrow hafter => exact hafter
  | noRowToUpdate entry etag expected hrow hafter => exact hafter
  | etagMismatch entry etag expected bytes record hrecord hne hrow hafter => exact hafter
  | noRowForHeartbeat entry hrow hafter => exact hafter
  | rowRead address members version hversion hmembers hafter => exact hafter
  | beaten entry rowEtag bytes record hrecord hrow hafter =>
    exact absurd (hrow.symm.trans hrefuses) (by simp)
  | _ => exact hrefuses.elim

end Table

namespace Activity

open Setting (Steps AllFit Closes Marks Secures)

variable {store : String} {world : World} {moves : List (Move (Activity store))} {id : TaskId}

/-- A history of activities. -/
abbrev Run (store : String) := History (Activity store) (Except Failure Answer)

variable {h h' k k' : Run store} {s : Store} {job : Job (Activity store)}

/-- What is committed in the store of activities. -/
def contents (h : Run store) : Contents :=
  (setting store).committed h.system

/-- The gateway lists that are kept. -/
def kept (h : Run store) : SortedMap String KeptList :=
  h.system.world.kept

/-- From one history to the other neither the contents nor the kept lists change. -/
def IsStill (h h' : Run store) : Prop :=
  contents h' = contents h ∧ kept h' = kept h

/-- An activity has changed nothing: none of its steps does, so where no other activity was started
all is at the end as it was in the beginning. -/
structure ChangesNothing (world : World) (moves : List (Move (Activity store))) (id : TaskId) :
    Prop where
  /-- None of its steps changes anything. -/
  steps : ∀ {h h'}, (setting store).Steps world moves id h h' → IsStill h h'
  /-- If it is alone, nothing has changed in the run. -/
  alone : ((setting store).run world moves).jobs.length = 1 →
    IsStill ((setting store).begin world) ((setting store).run world moves)

/-- An activity changes something at the step from `h` to `h'`, and at no other. -/
structure ChangesAt (world : World) (moves : List (Move (Activity store))) (id : TaskId)
    (h h' : Run store) : Prop where
  /-- The step is one of its own. -/
  own : (setting store).Steps world moves id h h'
  /-- No other step changes anything. -/
  others : ∀ {k k'}, (setting store).Steps world moves id k k' → k = h ∧ k' = h' ∨ IsStill k k'

/-- What an activity with a result has done. -/
inductive Upshot (world : World) (moves : List (Move (Activity store))) (id : TaskId) :
    Activity store → Except Failure Answer → Prop
  /-- It has failed and changed nothing. -/
  | failed (activity : Activity store) (failure : Failure)
    (nothing : ChangesNothing world moves id) : Upshot world moves id activity (.error failure)
  /-- It was an operation of a table. At one step it had its whole effect on the contents, with the
  snapshot of another; if it has refused to write, it has changed nothing. -/
  | acted {t : Table} {on : t.store = store} {action : Table.Action} {answer : Table.Answer}
    {etags : List String} {k k' h h' : Run store}
    (opening : (setting store).Steps world moves id k k') (before : k.now ≤ h.now)
    (changes : ChangesAt world moves id h h')
    (effect : t.Effect (contents k) (contents h) (contents h') action etags answer)
    (same : kept h' = kept h)
    (refused : t.Refuses (contents k) (contents h) action answer →
      ChangesNothing world moves id) :
    Upshot world moves id (.table t on action) (.ok (.table answer))
  /-- It was a refresh. It has returned the gateways of a snapshot, and at one step it has handed
  them in with what the clock showed at another. -/
  | refreshed {g : GatewayList} {on : g.store = store} {c c' k k' h h' : Run store}
    (clock : (setting store).Steps world moves id c c')
    (opening : (setting store).Steps world moves id k k') (changes : ChangesAt world moves id h h')
    (same : contents h' = contents h)
    (published : kept h' = (h.system.world.publish g.owner
      ⟨GatewayList.ofRows g.codec ((contents k).rows g.stateName),
        c.system.world.instant⟩).1.kept) :
    Upshot world moves id (.refresh g on)
      (.ok (.gateways (GatewayList.ofRows g.codec ((contents k).rows g.stateName))))

/-! ## The steps of an activity -/

/-- What was started as `id` has no steps but its own if it is alone. -/
theorem ChangesNothing.of_steps (hid : id < ((setting store).run world moves).jobs.length)
    (hsteps : ∀ {h h'}, (setting store).Steps world moves id h h' → IsStill h h') :
    ChangesNothing world moves id where
  steps := hsteps
  alone hlength := by
    -- Any other step is one of a task that is not known, and changes nothing at all.
    have hall : ∀ {id' h h'}, (setting store).Steps world moves id' h h' → IsStill h h' := by
      intro id' h h' hother
      rcases hother.eq_or_lt with rfl | hlt
      · exact ⟨rfl, rfl⟩
      · rw [hlength, Nat.lt_one_iff] at hid hlt
        obtain rfl := hlt.trans hid.symm
        exact hsteps hother
    constructor
    · refine Setting.run_eq_of_steps (setting store).committed (fun h move hwho => ?_)
        fun hsteps => (hall hsteps).1
      have hsites := ((setting store).after_of_none h move hwho).1
      unfold Setting.committed World.store?
      rw [hsites]
    · refine Setting.run_eq_of_steps (fun system => system.world.kept) (fun h move hwho => ?_)
        fun hsteps => (hall hsteps).2
      exact ((setting store).after_of_none h move hwho).2

/-- A job without a list of its own leaves the lists that are kept. -/
theorem kept_eq_of_marks {trail : Trail} {steps : List (Run store × Run store)}
    (hm : (setting store).Marks world moves id trail steps) (hnone : trail.published = [])
    (hsteps : (setting store).Steps world moves id h h') : kept h' = kept h := by
  have hpublished := hm.published
  rw [hnone, List.forall₂_nil_right_iff] at hpublished
  rcases hm.still hsteps with hmem | hsame
  · rw [hpublished] at hmem
    exact absurd hmem (by simp)
  · exact hsame

/-- What is known of an activity that is done. -/
structure Done (world : World) (moves : List (Move (Activity store))) (id : TaskId)
    (job : Job (Activity store)) (result : Except Failure Answer) (s : Store) (trail : Trail)
    (steps : List (Run store × Run store)) : Prop where
  /-- It is one of the run. -/
  known : ((setting store).run world moves).jobs[id]? = some job
  /-- All jobs fit. -/
  fits : (setting store).AllFit ((setting store).run world moves) s
  /-- Its course fits its result. -/
  ends : job.what.Ends result job.course
  /-- So does its trail. -/
  trailed : job.what.Trailed result trail
  /-- Its trail is borne out. -/
  marks : (setting store).Marks world moves id trail steps

variable {result : Except Failure Answer} {trail : Trail} {steps : List (Run store × Run store)}

/-- A result is that of an activity that is done. -/
theorem exists_done (hf : (setting store).AllFit ((setting store).run world moves) s)
    (hresult : ((setting store).run world moves).result? id = some result) :
    ∃ job trail steps, Done world moves id job result s trail steps := by
  obtain ⟨job, task, hjob, htask, hdone, hends⟩ :=
    ((setting store).follows_run world moves).ends along_program hresult
  obtain ⟨trail, steps, hmarks, hrest⟩ :=
    (setting store).trails_run world moves hjob _ job.what.leaves_program
  have htrailed := hrest task htask
  rw [hdone] at htrailed
  exact ⟨job, trail, steps, hjob, hf, hends, htrailed, hmarks⟩

/-- An activity that is done is one of the history. -/
theorem Done.lt (hd : Done world moves id job result s trail steps) :
    id < ((setting store).run world moves).jobs.length :=
  (List.getElem?_eq_some_iff.1 hd.known).1

/-- An activity that has failed has changed nothing. -/
theorem Done.failed {failure : Failure}
    (hd : Done world moves id job (.error failure) s trail steps) :
    ChangesNothing world moves id := by
  have hnone := hd.trailed.published_eq_nil
  have hnot : ¬ job.course.IsCommitted := Course.IsFailed.not_isCommitted hd.ends
  refine .of_steps hd.lt fun hsteps => ⟨?_, kept_eq_of_marks hd.marks hnone hsteps⟩
  exact hsteps.committed_eq hd.fits hd.known fun hcommitted => absurd hcommitted hnot

/-- An operation of a table that is done had its effect at the step at which its transaction
ended. -/
theorem Done.acted {t : Table} {on : t.store = store} {action : Table.Action}
    {answer : Table.Answer} (hd : Done world moves id job result s trail steps)
    (ho : t.Outcome action job.course answer) (hnone : trail.published = []) :
    Upshot world moves id (.table t on action) (.ok (.table answer)) := by
  obtain ⟨tx, hcloses⟩ := hd.fits.closes hd.known ho.not_opened
  obtain ⟨hopening, hclosing⟩ := hcloses.who
  have hle := hcloses.opening.2
  have hlt : job.closing < ((setting store).run world moves).now :=
    Nat.lt_of_le_of_lt hcloses.closing.1 hcloses.closing.2
  -- The moments of the opening and the closing are steps of the run.
  obtain ⟨k, k', hk, hkopening, -, hksnapshot, -⟩ :=
    Setting.exists_steps_past (Nat.lt_of_le_of_lt hle hlt) hopening
  obtain ⟨h, h', hh, hhclosing, hbehind, hbefore, hafter⟩ := Setting.exists_steps_past hlt hclosing
  have heffect := ho.effect hcloses.replays hcloses.applied hcloses.still
  rw [hksnapshot, hbefore, hafter] at heffect
  have hkept : ∀ {g g'}, (setting store).Steps world moves id g g' → kept g' = kept g :=
    kept_eq_of_marks hd.marks hnone
  -- The contents change at the closing only, and the lists never.
  have hchanges : ChangesAt world moves id h h' := by
    refine ⟨hh, fun {g g'} hg => ?_⟩
    rcases hg.past with rfl | ⟨hnow, -⟩
    · exact .inr ⟨rfl, rfl⟩
    · by_cases hsame : g.now = job.closing
      · exact .inl (hg.unique hnow hh (by rw [hbehind, hhclosing]) (hsame.trans hhclosing.symm))
      · exact .inr ⟨hg.committed_eq hd.fits hd.known fun _ => hsame, hkept hg⟩
  -- An operation that refuses to write has the effect of writing nothing.
  refine .acted hk (by omega) hchanges heffect (hkept hh) fun hrefuses => ?_
  refine .of_steps hd.lt fun {g g'} hg => ?_
  rcases hchanges.others hg with ⟨rfl, rfl⟩ | hstill
  · exact ⟨heffect.after_eq_of_refuses hrefuses, hkept hh⟩
  · exact hstill

/-- A refresh that is done has handed in the gateways of its snapshot. -/
theorem Done.refreshed {g : GatewayList} {on : g.store = store} {uris : List Uri}
    (hd : Done world moves id job result s trail steps) (ho : g.Outcome job.course uris)
    (htrailed : g.Trailed (.ok uris) trail) :
    Upshot world moves id (.refresh g on) (.ok (.gateways uris)) := by
  obtain ⟨startedAt, hreadings, hpublished⟩ := htrailed
  generalize hcourse : job.course = course at ho
  cases ho with
  | scanned ticket rows =>
    have hstage : ∀ tx, job.course.stage ≠ .opened tx := by
      rw [hcourse]
      exact Course.IsFailed.not_opened (.inr ⟨ticket, rfl⟩)
    have hnot : ¬ job.course.IsCommitted := by
      rw [hcourse]
      exact Course.IsFailed.not_isCommitted (.inr ⟨ticket, rfl⟩)
    have hcontents : ∀ {k k'}, (setting store).Steps world moves id k k' →
        contents k' = contents k := fun hk =>
      hk.committed_eq hd.fits hd.known fun hcommitted => absurd hcommitted hnot
    -- What was scanned are the rows of the snapshot.
    obtain ⟨tx, hcloses⟩ := hd.fits.closes hd.known hstage
    have hlt : job.opening < ((setting store).run world moves).now :=
      Nat.lt_of_le_of_lt (Nat.le_trans hcloses.opening.2 hcloses.closing.1) hcloses.closing.2
    obtain ⟨k, k', hk, -, -, hsnapshot, -⟩ := Setting.exists_steps_past hlt hcloses.who.1
    have hreplays := hcloses.replays
    rw [hcourse, hsnapshot] at hreplays
    obtain ⟨rfl, hrows⟩ := hreplays.scan
    obtain rfl : rows = (contents k).rows g.stateName := hrows
    -- The clock was read at one step, and the list was handed in at another.
    obtain ⟨c, c', hc, hinstant⟩ := hd.marks.readings startedAt (by rw [hreadings]; simp)
    have hmarks := hd.marks.published
    rw [hpublished, List.forall₂_cons_right_iff] at hmarks
    obtain ⟨⟨h, h'⟩, rest, ⟨hh, hhands⟩, hrest, rfl⟩ := hmarks
    rw [List.forall₂_nil_right_iff] at hrest
    subst hrest
    subst hinstant
    refine .refreshed hc hk ⟨hh, fun {i i'} hi => ?_⟩ (hcontents hh) hhands
    rcases hd.marks.still hi with hmem | hsame
    · obtain ⟨rfl, rfl⟩ := Prod.mk.inj (List.mem_singleton.1 hmem)
      exact .inl ⟨rfl, rfl⟩
    · exact .inr ⟨hcontents hi, hsame⟩

/-- An activity that is done has failed and changed nothing, or it has had its whole effect. -/
theorem Done.upshot (hd : Done world moves id job result s trail steps) :
    Upshot world moves id job.what result := by
  have hends := hd.ends
  have htrailed := hd.trailed
  generalize job.what = activity at hends htrailed ⊢
  cases result with
  | error failure => exact .failed activity failure hd.failed
  | ok answer =>
    cases hends with
    | table ho => exact hd.acted ho htrailed
    | refresh ho => exact hd.refreshed ho htrailed

/-- **All or nothing.** An activity that has returned has changed nothing, or it has had its whole
effect at one of its steps, as its result says; and it holds no lock. -/
theorem all_or_nothing (hstore : world.store? store = some s) (hsettled : Setting.IsSettled s)
    (moves : List (Move (Activity store))) (id : TaskId) (result : Except Failure Answer)
    (hresult : ((setting store).run world moves).result? id = some result) :
    ∃ job s', ((setting store).run world moves).jobs[id]? = some job ∧
      Upshot world moves id job.what result ∧
      ((setting store).run world moves).system.world.store? store = some s' ∧
      ∀ tx, job.course.stage.ticket? = some tx → ∀ cell, s'.locks.holds tx.id cell = false := by
  obtain ⟨s', hf, hsecures⟩ := Setting.secures_run (isDisciplined store) hstore hsettled moves
  obtain ⟨job, trail, steps, hd⟩ := exists_done hf hresult
  exact ⟨job, s', hd.known, hd.upshot, hf.store, fun tx htx =>
    hsecures.not_holds hf hd.known htx hd.ends.not_opened⟩

/-! ## An insertion that cannot write the version -/

namespace Sample

/-- A world with one store that keeps nothing and in which the first writing of a cell fails. -/
def fullWorld : World :=
  { Table.Sample.world with
    sites := SortedMap.empty.insert "main"
      { Site.empty Site.defaultLockTimeout with plan := [⟨.set, 0, "disk full"⟩] } }

/-- An insertion, which has to write the version behind its row. -/
def insertion (entry : Silo.Entry) : Activity "main" :=
  .table Table.Sample.table rfl (.insertRow entry .initial)

/-- An insertion goes on alone. -/
def insertionMoves : List (Move (Activity "main")) :=
  .start (insertion Table.Sample.entry) false .never :: List.replicate 24 (.call 0)

/-- The history of an insertion that fails at its last write. -/
def failedInsertion : Run "main" :=
  (setting "main").run fullWorld insertionMoves

/-- What a failure says, if there is one. -/
def message? : Except Failure Answer → Option String
  | .error failure => some failure.message
  | .ok _ => none

end Sample

/-- The insertion has failed when its row was written already, and has changed nothing. -/
theorem all_or_nothing_failedInsertion :
    Sample.fullWorld.store? "main" = some .empty ∧ Setting.IsSettled .empty ∧
    ∃ result, Sample.failedInsertion.result? 0 = some result ∧
      Sample.message? result = some "store error: disk full" ∧
      ∃ job s', Sample.failedInsertion.jobs[0]? = some job ∧
        Upshot Sample.fullWorld Sample.insertionMoves 0 job.what result ∧
        Sample.failedInsertion.system.world.store? "main" = some s' ∧
        ∀ tx, job.course.stage.ticket? = some tx → ∀ cell, s'.locks.holds tx.id cell = false := by
  have hsettled : Setting.IsSettled .empty := Setting.isSettled_of_locks_eq_empty rfl
  have hfailed : Sample.failedInsertion.result? 0 |>.any fun result =>
      Sample.message? result = some "store error: disk full" := by decide +kernel
  obtain ⟨hsome, hmessage⟩ := (Option.any_eq_true_iff_get _ _).1 hfailed
  have hresult := (Option.some_get hsome).symm
  refine ⟨rfl, hsettled, _, hresult, of_decide_eq_true hmessage, ?_⟩
  unfold Sample.failedInsertion at hresult ⊢
  exact all_or_nothing rfl hsettled Sample.insertionMoves 0 _ hresult

end Activity

end Muster
