import Muster.Proofs.Activity.Heed
import Muster.Proofs.Activity.Listed
import Muster.Proofs.Gateways.Alone
import Muster.Proofs.System.Heard
import Muster.Proofs.System.Proceeds
import Muster.Proofs.Table.Writes

/-!
# Scans that are told to give up

A reading of all rows, a deletion and a refresh may be told to give up at any moment: before they
begin, from outside between any two of their calls, or by their own progress. Among any other
activities, one that has a result has given up exactly if it has heard that it was told to, which it
does when it looks the next time; where it looks is known from its signs. If it has given up, it has
changed nothing. If it has not, it has done what it would have done if it was never told, and what
it answers is about all rows of its snapshot (`scans_give_up_or_complete`).

That it comes to an end is known of one that runs alone: it gives up, or it answers what it answers
when it is never told.
-/

namespace Muster

/-- A log whose first request is a scan has its rows from the snapshot. -/
theorem Transaction.Replays.first_scan {latest snapshot : Contents} {tx : Transaction}
    {log : List Answered} {dictionary : String} {rows : List Row}
    (h : Replays latest (.begin snapshot) (log ++ [⟨.scan dictionary, rows⟩]) tx) :
    rows = snapshot.rows dictionary := by
  induction log generalizing tx with
  | nil =>
    obtain ⟨before, rfl, hscan⟩ := h
    exact (congrArg Prod.snd hscan).symm
  | cons a log ih =>
    obtain ⟨before, hbefore, -⟩ := h
    exact ih hbefore

namespace Activity

open Setting (AllFit Closes HasHeard)

variable {store : String} {world : World} {before behind : List (Move (Activity store))}
  {activity : Activity store} {isCancelled : Bool} {trigger : Trigger} {id : TaskId}

/-- The dictionary of the rows. -/
def stateName : Activity store → String
  | .table t _ _ => t.stateName
  | .refresh g _ => g.stateName

/-- What an activity that scans answers when it runs alone on contents and is never told to give
up. -/
def calmAnswer (activity : Activity store) (c : Contents) : Except Failure Answer :=
  match activity with
  | .table t _ .readAll => (Table.readingAnswer (t.fullReading? c)).map .table
  | .table _ _ _ => .ok (.table .done)
  | .refresh g _ => .ok (.gateways (GatewayList.ofRows g.codec (c.rows g.stateName)))

/-- What a job that scans has answered and done is about all rows of its snapshot. -/
inductive IsWhole (h : Run store) (job : Job (Activity store)) : Activity store → Answer → Prop
  /-- It has read all rows, and the version. -/
  | read {t : Table} {on : t.store = store} (roster : Table.Roster)
    (reading : t.fullReading? (h.past job.opening) = .ok roster) :
    IsWhole h job (.table t on .readAll) (.table (.roster roster))
  /-- It has cleared all rows, and the version. -/
  | deleted {t : Table} {on : t.store = store}
    (cleared : ∀ cell, (h.past (job.closing + 1)).find? cell =
      if cell = t.versionCell ∨
        cell.dictionary = t.stateName ∧ ((h.past job.opening).find? cell).isSome = true then none
      else (h.past job.closing).find? cell) :
    IsWhole h job (.table t on (.deleteEntries t.clusterId)) (.table .done)
  /-- It has listed the gateways of all rows. -/
  | refreshed {g : GatewayList} {on : g.store = store} :
    IsWhole h job (.refresh g on)
      (.gateways (GatewayList.ofRows g.codec ((h.past job.opening).rows g.stateName)))

/-- The history in which an activity has just been started behind the moves `before`. -/
def started (world : World) (before : List (Move (Activity store))) (activity : Activity store)
    (isCancelled : Bool) (trigger : Trigger) : Run store :=
  (setting store).after ((setting store).run world before) (.start activity isCancelled trigger)

/-- How an activity that was started as `id` behind the moves `before`, and has a result behind the
moves `behind`, has dealt with being told to give up. -/
structure Heeded (world : World) (before : List (Move (Activity store))) (activity : Activity store)
    (isCancelled : Bool) (trigger : Trigger) (behind : List (Move (Activity store))) (id : TaskId)
    (result : Except Failure Answer) : Prop where
  /-- It has given up exactly if it has heard that it was told to. -/
  heard : result = .error .cancelled ↔
    (setting store).HasHeard (started world before activity isCancelled trigger) id behind
  /-- It has given up if it was told to before it looked, and be it for the last time. -/
  told : ∀ front middle, front ++ middle ++ [.call id] <+: behind →
    ((setting store).onward (started world before activity isCancelled trigger) front).IsTold id →
    ((setting store).onward (started world before activity isCancelled trigger)
      (front ++ middle)).Looks id → result = .error .cancelled
  /-- If it has given up, it has changed nothing. -/
  nothing : result = .error .cancelled →
    ChangesNothing world (before ++ .start activity isCancelled trigger :: behind) id
  /-- If it has not given up, all is as if it was never told. -/
  calm : result ≠ .error .cancelled →
    let calm := (setting store).onward (started world before activity false .never)
      (behind.filter fun move => !move.Tells id)
    calm.result? id = some result ∧ calm.system.world =
      ((setting store).onward (started world before activity isCancelled trigger)
        behind).system.world
  /-- If it has succeeded, its answer is about all rows of a snapshot of its own, and it has looked
  at all the places. -/
  whole : ∀ answer, result = .ok answer → ∃ job,
    let h := (setting store).onward (started world before activity isCancelled trigger) behind
    h.jobs[id]? = some job ∧ job.what = activity ∧
      (job.started ≤ job.opening ∧ job.opening ≤ job.closing ∧ job.closing ≤ job.last) ∧
      (h.who job.opening = some id ∧ h.who job.closing = some id) ∧
      IsWhole h job activity answer ∧
      activity.Signed ((h.past job.opening).rows activity.stateName)
        ((setting store).signs (started world before activity isCancelled trigger) id behind)

/-! ## Behind the start -/

/-- A run that starts an activity half-way is a run onward from the moment of the start. -/
theorem run_started (world : World) (before behind : List (Move (Activity store)))
    (activity : Activity store) (isCancelled : Bool) (trigger : Trigger) :
    (setting store).run world (before ++ .start activity isCancelled trigger :: behind) =
      (setting store).onward (started world before activity isCancelled trigger) behind :=
  (setting store).run_append world before _

/-- In a run no task has the number of the next job. -/
theorem next_is_free (world : World) (before : List (Move (Activity store))) :
    ((setting store).run world before).system.tasks.find?
      ((setting store).run world before).jobs.length = none := by
  rw [Option.eq_none_iff_forall_ne_some]
  intro task htask
  exact Nat.lt_irrefl _ (((setting store).follows_run world before).known htask)

variable {result : Except Failure Answer} {s : Store}

/-- What was started has the program of the activity and has not asked for anything. -/
theorem started_spec (world : World) (before : List (Move (Activity store)))
    (activity : Activity store) (isCancelled : Bool) (trigger : Trigger) :
    (started world before activity isCancelled trigger).system.tasks.find?
        ((setting store).run world before).jobs.length =
      some ⟨activity.program, .start isCancelled trigger⟩ ∧
    ∃ job, (started world before activity isCancelled trigger).jobs[
      ((setting store).run world before).jobs.length]? = some job ∧ job.what = activity ∧
      job.course.requests = [] := by
  obtain ⟨hsystem, hjobs⟩ := (setting store).after_start (next_is_free world before) activity
    isCancelled trigger
  refine ⟨?_, ?_⟩
  · rw [started, hsystem]
    exact SortedMap.find?_insert_self ..
  · rw [started, hjobs]
    exact ⟨_, List.getElem?_concat_length, rfl, rfl⟩

/-- An activity that has a result has heard and given up, or it has not heard, all is as if it was
never told, and what is seen of it are its signs. -/
theorem heard_or_calm (hscans : activity.Scans)
    (hresult : ((setting store).onward (started world before activity isCancelled trigger)
      behind).result? ((setting store).run world before).jobs.length = some result) :
    let h₁ := started world before activity isCancelled trigger
    let id := ((setting store).run world before).jobs.length
    let calm := (setting store).onward (started world before activity false .never)
      (behind.filter fun move => !move.Tells id)
    (result = .error .cancelled ∧ (setting store).HasHeard h₁ id behind) ∨
    (result ≠ .error .cancelled ∧ ¬ (setting store).HasHeard h₁ id behind ∧
      (calm.result? id = some result ∧
        calm.system.world = ((setting store).onward h₁ behind).system.world) ∧
      ∀ answer, result = .ok answer →
        ∃ rows, activity.Signed rows ((setting store).signs h₁ id behind)) := by
  intro h₁ id calm
  -- The program that is left right behind the start heeds what it is told.
  have hprogram : ∀ p, h₁.program? id = some p →
      p.Heeds (fun _ signs => ∃ rows, activity.Signed rows signs) [] := by
    intro p hp
    rw [History.program?_eq (started_spec world before activity isCancelled trigger).1] at hp
    rw [← Option.some.inj hp]
    exact heeds_program hscans
  have hstep :=
    (setting store).inStep_start (next_is_free world before) activity isCancelled trigger
  have hdone := Setting.result?_eq_some_iff.1 hresult
  -- Either it has never heard, and goes on like one that nobody tells anything; or it has heard,
  -- and quits.
  rcases Setting.heeds_onward hstep hprogram behind with ⟨hnot, hcalm, hheeds⟩ | ⟨hheard, hquits⟩
  · have hend := hheeds _ hdone
    refine .inr ⟨?_, hnot, ⟨?_, hcalm.system.world⟩, fun answer hanswer => ?_⟩
    · rintro rfl
      exact absurd rfl hend
    · obtain ⟨⟨program, me⟩, htask, hprog⟩ := Option.map_eq_some_iff.1 hdone
      obtain rfl : program = .done result := hprog
      have hsame : calm.system.tasks.find? id = some (Task.deaf ⟨.done result, me⟩) :=
        hcalm.system.mine.trans (congrArg (Option.map Task.deaf) htask)
      rw [History.result?, hsame]
      rfl
    · subst hanswer
      exact hend
  · exact .inl ⟨hquits _ hdone, hheard⟩

/-! ## What has succeeded is whole -/

/-- The first request of an activity that scans is its scan. -/
theorem Signed.first_scan {rows : List Row} {signs : List Sign} (h : activity.Signed rows signs) :
    ∃ rest, signs.filterMap Sign.asked? = ⟨.scan activity.stateName, rows⟩ :: rest := by
  -- A scan asks once, for its rows, and looks at the token otherwise.
  have hscan : ∀ dictionary behind, (Operation.scanSigns dictionary rows ++ behind).filterMap
      Sign.asked? = ⟨.scan dictionary, rows⟩ :: behind.filterMap Sign.asked? := by
    intro dictionary behind
    have hasked : Sign.asked? (.asked ⟨.scan dictionary, rows⟩) = some ⟨.scan dictionary, rows⟩ :=
      rfl
    rw [Operation.scanSigns, List.cons_append, List.cons_append, List.filterMap_cons_none rfl,
      List.filterMap_cons_some hasked, List.filterMap_append, List.filterMap_replicate_of_none rfl]
    rfl
  cases activity with
  | refresh g on =>
    have hsigns : signs = Operation.scanSigns g.stateName rows := h
    rw [hsigns, ← List.append_nil (Operation.scanSigns _ _)]
    exact ⟨_, hscan _ _⟩
  | table t on action =>
    cases action with
    | readAll =>
      obtain ⟨stored, rfl⟩ := h
      exact ⟨_, hscan _ _⟩
    | deleteEntries clusterId =>
      obtain ⟨removals, stored, -, rfl⟩ := h
      exact ⟨_, hscan _ _⟩
    | _ => exact h.elim

/-- What a job answers that scans is about all rows of its snapshot. -/
theorem isWhole_of_outcome (hscans : activity.Scans) {h : Run store} {job : Job (Activity store)}
    {tx : Transaction} {answer : Answer} (hcloses : Closes h id job tx)
    (ho : Outcome activity job.course answer) : IsWhole h job activity answer := by
  cases hscans with
  | read t on =>
    cases ho with
    | table ho =>
      -- The effect of a full reading is what it answers about its snapshot.
      have heffect := ho.effect hcloses.replays hcloses.applied hcloses.still
      generalize job.course.etags = etags at heffect
      cases heffect with
      | allRead members version hversion hmembers hafter =>
        exact .read _ (Table.reading?_ok hversion hmembers)
  | delete t on =>
    cases ho with
    | table ho =>
      -- The table is told its own cluster, so the deletion is not one that is passed over.
      have heffect := ho.effect hcloses.replays hcloses.applied hcloses.still
      generalize job.course.etags = etags at heffect
      cases heffect with
      | ignoredDelete clusterId hne hafter => exact absurd rfl hne
      | deleted hafter => exact .deleted hafter
  | refresh g on =>
    cases ho with
    | refresh ho =>
      obtain rfl := (ho.reads hcloses.replays).1
      exact .refreshed

/-- An activity that scans has heeded its token when it returns. -/
theorem heeded (hscans : activity.Scans)
    (hf : (setting store).AllFit ((setting store).run world
      (before ++ .start activity isCancelled trigger :: behind)) s)
    (hresult : ((setting store).onward (started world before activity isCancelled trigger)
      behind).result? ((setting store).run world before).jobs.length = some result) :
    Heeded world before activity isCancelled trigger behind
      ((setting store).run world before).jobs.length result := by
  have hcases := heard_or_calm hscans hresult
  obtain ⟨-, job₁, hjob₁, hwhat₁, hrequests₁⟩ :=
    started_spec world before activity isCancelled trigger
  have hknown := (List.getElem?_eq_some_iff.1 hjob₁).1
  -- It has ended with the failure that says so exactly if it has heard.
  have hheard : result = .error .cancelled ↔ (setting store).HasHeard
      (started world before activity isCancelled trigger)
      ((setting store).run world before).jobs.length behind := by
    rcases hcases with ⟨hcancelled, hheard⟩ | ⟨hne, hnot, -⟩
    · exact iff_of_true hcancelled hheard
    · exact iff_of_false hne hnot
  -- Seen as one run, the activity has one course, which says what it has done.
  have hresult' := hresult
  rw [← run_started] at hresult'
  refine ⟨hheard, fun front middle hfront htold hlooks => hheard.2 ⟨_, hfront, ?_⟩,
    fun hcancelled => ?_, fun hne => ?_, fun answer hanswer => ?_⟩
  -- A look behind the end of the token hears it.
  · have hsplit : (setting store).onward (started world before activity isCancelled trigger)
        (front ++ middle) = (setting store).onward ((setting store).onward
          (started world before activity isCancelled trigger) front) middle :=
      List.foldl_append
    rw [hsplit] at hlooks ⊢
    exact Setting.hears_of_looks
      (Nat.lt_of_lt_of_le hknown ((setting store).length_jobs_onward _ front)) htold hlooks
  · subst hcancelled
    obtain ⟨job, trail, steps, hd⟩ := exists_done hf hresult'
    exact hd.failed
  · rcases hcases with ⟨hcancelled, -⟩ | ⟨-, -, hcalm, -⟩
    · exact absurd hcancelled hne
    · exact hcalm
  -- It has not failed, so its transaction was closed and its outcome has the effect.
  · subst hanswer
    obtain ⟨job, hjob, hwhat, hrequests⟩ :=
      Setting.requests_onward (S := setting store) hjob₁ hrequests₁ behind
    rw [← run_started] at hjob
    obtain ⟨hends, tx, hcloses⟩ := exists_closes hf hjob hresult'
    obtain rfl : job.what = activity := hwhat.trans hwhat₁
    refine ⟨job, ?_⟩
    rw [← run_started]
    refine ⟨hjob, rfl, ⟨hcloses.opening.1, hcloses.opening.2, hcloses.closing.1⟩, hcloses.who,
      isWhole_of_outcome hscans hcloses hends, ?_⟩
    rcases hcases with ⟨hcancelled, -⟩ | ⟨-, -, -, hsigns⟩
    · exact absurd hcancelled (by simp)
    -- The first sign is the scan, and so is the first request of the course: both are about the
    -- rows of the snapshot.
    · obtain ⟨rows, hsigned⟩ := hsigns answer rfl
      obtain ⟨rest, hfirst⟩ := hsigned.first_scan
      rw [hfirst] at hrequests
      have hreplays := hcloses.replays
      rw [List.reverse_eq_iff.1 hrequests, List.reverse_cons] at hreplays
      rw [← hreplays.first_scan]
      exact hsigned

/-! ## Alone -/

/-- Alone and never told to give up, an activity that scans comes to an end with its answer. -/
theorem run_calm (hscans : activity.Scans) {w : World} {site : Site}
    (hq : w.IsQuiet store site fun _ => True) : ∃ w' me',
      w.run (.start false .never) activity.program =
        (w', me', .done (activity.calmAnswer site.store.committed)) := by
  -- Nothing tells the program anything, so what it does alone is known from its text.
  have hcalm : (Context.start false .never).isCancelled = false ∧
      (Context.start false .never).trigger = .never := ⟨rfl, rfl⟩
  cases hscans with
  | read t on =>
    cases on
    obtain ⟨w', me', result, -, -, hrun, -, -, inner, rfl, inner', rfl, rfl, -⟩ := hq.run
      (.start false .never) (((Table.does_readAll hcalm).answer Table.Answer.roster).answer
        Answer.table)
    exact ⟨w', me', hrun⟩
  | delete t on =>
    cases on
    have hdoes : (t.deleteEntries t.clusterId).Does (t.solo w.sites (fun _ => True) _)
        ⟨site.store.committed, none, w.etags⟩ fun result _ => result = .ok () :=
      Table.does_deleteEntries hcalm (fun _ => trivial) fun _ _ => rfl
    obtain ⟨w', me', result, -, -, hrun, -, -, inner, rfl, inner', rfl, rfl⟩ := hq.run
      (.start false .never) ((hdoes.answer fun _ => Table.Answer.done).answer Answer.table)
    exact ⟨w', me', hrun⟩
  | refresh g on =>
    cases on
    obtain ⟨w', me', result, -, -, hrun, -, -, inner, rfl, rfl⟩ := hq.run
      (.start false .never) ((GatewayList.does_refresh hcalm).answer Answer.gateways)
    exact ⟨w', me', hrun⟩

/-- **Alone, an activity that scans comes to an end** whenever it is told to give up: it gives up,
or it answers what it answers when it is never told. -/
theorem exists_result_alone (hscans : activity.Scans) {site : Site}
    (hq : world.IsQuiet store site fun _ => True) (isCancelled : Bool) (trigger : Trigger)
    (hbehind : ∀ move ∈ behind, move = .call 0 ∨ move = .cancel 0) : ∃ n result,
    ((setting store).onward (started world [] activity isCancelled trigger)
      (behind ++ List.replicate n (.call 0))).result? 0 = some result ∧
    (result = .error .cancelled ∨ result = activity.calmAnswer site.store.committed) := by
  -- At its start the activity has its whole program before it.
  have hstart : Setting.Goes (fun _ signs => ∃ rows, activity.Signed rows signs)
      (activity.calmAnswer site.store.committed)
      (started world [] activity isCancelled trigger) 0 := by
    have htask := (started_spec world [] activity isCancelled trigger).1
    have hworld : (started world [] activity isCancelled trigger).system.world = world :=
      congrArg System.world ((setting store).after_start (next_is_free world []) activity
        isCancelled trigger).1
    refine ⟨_, _, htask, .inr ⟨⟨[], heeds_program hscans⟩, ?_⟩⟩
    rw [hworld]
    exact run_calm hscans hq
  -- The moves behind it keep it going, be they its own calls or the token.
  have hgoes : Setting.Goes (fun _ signs => ∃ rows, activity.Signed rows signs)
      (activity.calmAnswer site.store.committed)
      ((setting store).onward (started world [] activity isCancelled trigger) behind) 0 := by
    induction behind using List.reverseRecOn with
    | nil => exact hstart
    | append_singleton moves move ih =>
      rw [Setting.onward_concat]
      have hgo := ih fun move hmem => hbehind move (List.mem_append_left _ hmem)
      rcases hbehind move (by simp) with rfl | rfl
      · exact hgo.call
      · exact hgo.cancel
  obtain ⟨n, result, hresult, hfits⟩ := hgoes.exists_result (S := setting store)
  refine ⟨n, result, ?_, hfits⟩
  rw [Setting.onward, List.foldl_append]
  exact hresult

/-- **Scans give up or are complete.** Whatever else goes on, an activity that scans and has a
result has given up exactly if it has heard that it was told to, which it has if it was told before
it looked for the last time. If it has given up, it has changed nothing. Otherwise all is as if it
was never told, and if it has succeeded, it has looked everywhere from before its scan up to its
commit, and its answer is about all rows of its snapshot. Alone, it always comes to an end: it gives
up, or it answers what it answers when it is never told. -/
theorem scans_give_up_or_complete (hstore : world.store? store = some s)
    (before : List (Move (Activity store))) (hscans : activity.Scans) (isCancelled : Bool)
    (trigger : Trigger) (behind : List (Move (Activity store))) :
    let id := ((setting store).run world before).jobs.length
    (∀ result, ((setting store).run world
        (before ++ .start activity isCancelled trigger :: behind)).result? id = some result →
      Heeded world before activity isCancelled trigger behind id result) ∧
    ∀ site, before = [] → world.IsQuiet store site (fun _ => True) →
      (∀ move ∈ behind, move = .call 0 ∨ move = .cancel 0) → ∃ n result,
        ((setting store).run world (.start activity isCancelled trigger ::
          (behind ++ List.replicate n (.call 0)))).result? 0 = some result ∧
        (result = .error .cancelled ∨ result = activity.calmAnswer site.store.committed) := by
  intro id
  obtain ⟨s', hf⟩ := Setting.fits_run (isDisciplined store) hstore
    (before ++ .start activity isCancelled trigger :: behind)
  refine ⟨fun result hresult => ?_, fun site _ hq hbehind => ?_⟩
  · rw [run_started] at hresult
    exact heeded hscans hf hresult
  · exact exists_result_alone hscans hq isCancelled trigger hbehind

/-! ## A deletion that is told to give up halfway -/

namespace Sample

/-- A deletion of the entries of the own cluster. -/
def deletion : Activity "main" :=
  .table Table.Sample.table store_table (.deleteEntries Table.Sample.table.clusterId)

/-- The deletion goes on alone. -/
def halfwayMoves : List (Move (Activity "main")) :=
  List.replicate 30 (.call 0)

/-- The history of a deletion of two rows that is told to give up with its second removal. -/
def halfway : Run "main" :=
  (setting "main").run rowsWorld (.start deletion false (.onRemove 1) :: halfwayMoves)

end Sample

/-- The deletion has given up although it had cleared all that it was to clear, and has changed
nothing. Alone, it comes to an end. -/
theorem scans_give_up_or_complete_halfway :
    Sample.rowsWorld.store? "main" = some Sample.rowsStore ∧ Sample.deletion.Scans ∧
    (∃ result, Sample.halfway.result? 0 = some result ∧
      Sample.message? result = some "operation cancelled" ∧
      Heeded Sample.rowsWorld [] Sample.deletion false (.onRemove 1) Sample.halfwayMoves 0
        result) ∧
    ∃ n result, ((setting "main").run Sample.rowsWorld
        (.start Sample.deletion false (.onRemove 1) ::
          ([.call 0, .cancel 0] ++ List.replicate n (.call 0)))).result? 0 = some result ∧
      (result = .error .cancelled ∨
        result = Sample.deletion.calmAnswer Sample.rowsStore.committed) := by
  have hscans : Sample.deletion.Scans := .delete Table.Sample.table Sample.store_table
  have hstopped : Sample.halfway.result? 0 |>.any fun result =>
      Sample.message? result = some "operation cancelled" := by decide +kernel
  obtain ⟨hsome, hmessage⟩ := (Option.any_eq_true_iff_get _ _).1 hstopped
  have hresult := (Option.some_get hsome).symm
  have hquiet : Sample.rowsWorld.IsQuiet "main" _ fun _ => True :=
    Table.Sample.isQuiet_sole rfl rfl rfl _ _
  refine ⟨rfl, hscans, ⟨_, hresult, of_decide_eq_true hmessage, ?_⟩, ?_⟩
  · unfold Sample.halfway at hresult ⊢
    exact (scans_give_up_or_complete rfl [] hscans false (.onRemove 1) Sample.halfwayMoves).1 _
      hresult
  · exact (scans_give_up_or_complete rfl [] hscans false (.onRemove 1) [.call 0, .cancel 0]).2 _
      rfl hquiet (by simp)

end Activity

end Muster
