import Muster.Proofs.Table.Deletion
import Muster.Proofs.Table.Sequential

/-!
# Tables are linearizable

The operations of a history that have succeeded can be put in an order in which a `Sheet` gives each
of them the answer that it got. Each operation has its place at one of its own moments: one that
reads at the moment of its snapshot, any other at the moment at which its transaction ended. No two
operations share a moment, so the moments are an order (`Job.point`).

The proof goes through the moments of the history one by one. The contents of each moment stand for
the sheet after the operations whose place is before it; at each moment either one operation has its
place there, or the contents stay as they are.
-/

namespace Muster

/-- The moment of the place of an operation: for one that reads that of its snapshot, for any other
that of its end. -/
def Job.point (job : Job Table.Action) : Nat :=
  if job.what.isRead then job.opening else job.closing

namespace Table

open Muster.Silo (Address Codec Entry)

variable {t : Table} {h : Run} {s s' : Sheet} {id : TaskId} {job : Job Action} {answer : Answer}
  {n : Nat}

/-! ## Orders of calls -/

/-- A call in its place. -/
structure Call where
  /-- The number of the operation. -/
  id : TaskId
  /-- What it was to do. -/
  what : Action
  /-- The etags that it was given, the last first. -/
  etags : List String
  /-- Its answer. -/
  answer : Answer
  /-- The moment of its place. -/
  moment : Nat

/-- A sheet is asked for calls one after another, gives each of them its answer and ends as another
sheet. -/
def Sheet.Plays (codec : Codec) (clusterId : String) : Sheet → List Call → Sheet → Prop
  | s, [], s' => s' = s
  | s, c :: calls, s' =>
    s.Answers codec c.what c.answer ∧
      Sheet.Plays codec clusterId
        (s.after clusterId (rowEtag c.etags) (versionEtag c.etags) c.what) calls s'

/-- The calls of a history in an order that its answers and its contents allow: those that have
returned an answer, and those that have committed without getting so far. -/
structure IsOrder (h : Run) (calls : List Call) : Prop where
  /-- Every operation that has returned an answer has its place. -/
  returned : ∀ {id answer}, h.result? id = some (.ok answer) →
    ∃ c ∈ calls, c.id = id ∧ c.answer = answer
  /-- Every operation that has committed has its place. -/
  committed : ∀ {id : TaskId} {job : Job Action}, h.jobs[id]? = some job →
    job.course.IsCommitted → ∃ c ∈ calls, c.id = id
  /-- No other operation has a place, above all none that has failed. -/
  succeeded : ∀ c ∈ calls, ∃ job, h.jobs[c.id]? = some job ∧ c.what = job.what ∧
    c.etags = job.course.etags ∧ (h.result? c.id = some (.ok c.answer) ∨
      h.result? c.id = none ∧ job.course.IsCommitted)
  /-- The place of an operation is at a moment of its own between its start and its end. -/
  within : ∀ c ∈ calls, ∀ job, h.jobs[c.id]? = some job →
    job.started ≤ c.moment ∧ c.moment ≤ job.last ∧ h.who c.moment = some c.id
  /-- Places are in the order of their moments. -/
  ascending : calls.Pairwise fun a b => a.moment < b.moment
  /-- No operation has two places. -/
  once : (calls.map Call.id).Nodup

/-- One more call is played last. -/
theorem Sheet.Plays.concat {codec : Codec} {clusterId : String} {calls : List Call} {c : Call}
    {s₀ : Sheet} (hplays : s₀.Plays codec clusterId calls s)
    (hanswer : s.Answers codec c.what c.answer) :
    s₀.Plays codec clusterId (calls ++ [c])
      (s.after clusterId (rowEtag c.etags) (versionEtag c.etags) c.what) := by
  induction calls generalizing s₀ with
  | nil =>
    obtain rfl : s = s₀ := hplays
    exact ⟨hanswer, rfl⟩
  | cons first calls ih => exact ⟨hplays.1, ih hplays.2⟩

/-- Reading leaves a sheet as it is. -/
theorem Sheet.after_of_isRead {action : Action} (hread : action.isRead = true)
    (clusterId rowEtag versionEtag : String) :
    s.after clusterId rowEtag versionEtag action = s := by
  cases action with
  | readRow address => rfl
  | readAll => rfl
  | _ => exact absurd hread (by simp [Action.isRead])

/-! ## The place of an operation -/

/-- An operation that has succeeded: it has returned its answer, or it has committed at least. -/
structure Succeeds (t : Table) (h : Run) (id : TaskId) (job : Job Action) (answer : Answer) :
    Prop where
  /-- It is one of the history. -/
  known : h.jobs[id]? = some job
  /-- It had its effect. -/
  serves : t.Serves h id job answer
  /-- It has ended in an outcome. -/
  outcome : t.Outcome job.what job.course answer
  /-- It has returned its answer, or it has committed. -/
  result : h.result? id = some (.ok answer) ∨ h.result? id = none ∧ job.course.IsCommitted

/-- An operation that reads does not commit. -/
theorem Outcome.not_isCommitted_of_isRead {action : Action} {k : Course}
    (ho : t.Outcome action k answer) (hread : action.isRead = true) : ¬ k.IsCommitted := by
  rintro ⟨tx, hstage⟩
  cases ho with
  | rowRead => exact absurd hstage (by simp)
  | allRead => exact absurd hstage (by simp)
  | _ => exact absurd hread (by simp [Action.isRead])

/-- An operation that has returned an answer has succeeded. -/
theorem Faithful.succeeds_of_result (hf : t.Faithful h)
    (hresult : h.result? id = some (.ok answer)) : ∃ job, t.Succeeds h id job answer := by
  obtain ⟨job, hjob, hserves, ho⟩ := hf.returned hresult
  exact ⟨job, hjob, hserves, ho, .inl hresult⟩

/-- An operation that has committed has succeeded. -/
theorem Faithful.succeeds_of_committed (hf : t.Faithful h) (hjob : h.jobs[id]? = some job)
    (hcommitted : job.course.IsCommitted) : ∃ answer, t.Succeeds h id job answer := by
  cases hresult : h.result? id with
  | none =>
    obtain ⟨answer, hserves, ho⟩ := hf.committed hjob hcommitted
    exact ⟨answer, hjob, hserves, ho, .inr ⟨hresult, hcommitted⟩⟩
  | some result =>
    cases result with
    | error failure => exact absurd hcommitted (hf.failed hjob hresult)
    | ok answer =>
      obtain ⟨job', hjob', hserves, ho⟩ := hf.returned hresult
      obtain rfl := Option.some.inj (hjob.symm.trans hjob')
      exact ⟨answer, hjob, hserves, ho, .inl hresult⟩

/-- The place of an operation that commits is the moment of its commit. -/
theorem Succeeds.point_eq_closing (hs : t.Succeeds h id job answer)
    (hcommitted : job.course.IsCommitted) : job.point = job.closing := by
  unfold Job.point
  rw [if_neg fun hread => hs.outcome.not_isCommitted_of_isRead hread hcommitted]

/-- The place of an operation is at a moment of its own. -/
theorem Succeeds.point_within (hs : t.Succeeds h id job answer) :
    job.started ≤ job.point ∧ job.point ≤ job.last ∧ job.point < h.now ∧
      h.who job.point = some id := by
  obtain ⟨hstart, hle⟩ := hs.serves.opening
  obtain ⟨hclose, hnow⟩ := hs.serves.closing
  obtain ⟨hwho, hwho'⟩ := hs.serves.who
  unfold Job.point
  split
  · exact ⟨hstart, by omega, by omega, hwho⟩
  · exact ⟨by omega, hclose, by omega, hwho'⟩

/-! ## One moment after another -/

/-- The operations whose place is before a moment, in order. -/
structure IsOrderTo (t : Table) (h : Run) (n : Nat) (calls : List Call) : Prop where
  /-- All of them have their place. -/
  complete : ∀ {id job answer}, t.Succeeds h id job answer → job.point < n → ∃ c ∈ calls, c.id = id
  /-- Each has its place at its own moment. -/
  sound : ∀ c ∈ calls, ∃ job, t.Succeeds h c.id job c.answer ∧ c.what = job.what ∧
    c.etags = job.course.etags ∧ c.moment = job.point
  /-- All places are before the moment. -/
  before : ∀ c ∈ calls, c.moment < n
  /-- Places are in the order of their moments. -/
  ascending : calls.Pairwise fun a b => a.moment < b.moment

/-- If no operation has its place at a moment, then the order stays as it is. -/
theorem IsOrderTo.skip {calls : List Call} (ho : t.IsOrderTo h n calls)
    (hnone : ∀ id job answer, t.Succeeds h id job answer → job.point ≠ n) :
    t.IsOrderTo h (n + 1) calls where
  complete hs hlt := by
    refine ho.complete hs (Nat.lt_of_le_of_ne (Nat.le_of_lt_succ hlt) ?_)
    exact hnone _ _ _ hs
  sound := ho.sound
  before c hc := Nat.lt_succ_of_lt (ho.before c hc)
  ascending := ho.ascending

/-- An operation that has its place at a moment comes last in the order. -/
theorem IsOrderTo.append {calls : List Call} (ho : t.IsOrderTo h n calls)
    (hs : t.Succeeds h id job answer) (hpoint : job.point = n) :
    t.IsOrderTo h (n + 1) (calls ++ [⟨id, job.what, job.course.etags, answer, n⟩]) where
  complete {id' job' answer'} hs' hlt := by
    rcases Nat.lt_succ_iff_lt_or_eq.1 hlt with hlt | heq
    · obtain ⟨c, hc, hid⟩ := ho.complete hs' hlt
      exact ⟨c, List.mem_append_left _ hc, hid⟩
    · refine ⟨_, List.mem_append_right _ List.mem_cons_self, ?_⟩
      -- Both operations have moved at this moment, so they are the same.
      have hwho := hs.point_within.2.2.2
      rw [hpoint, ← heq, hs'.point_within.2.2.2] at hwho
      exact (Option.some.inj hwho).symm
  sound c hc := by
    rcases List.mem_append.1 hc with hc | hc
    · exact ho.sound c hc
    · obtain rfl := List.mem_singleton.1 hc
      exact ⟨job, hs, rfl, rfl, hpoint.symm⟩
  before c hc := by
    rcases List.mem_append.1 hc with hc | hc
    · exact Nat.lt_succ_of_lt (ho.before c hc)
    · obtain rfl := List.mem_singleton.1 hc
      exact Nat.lt_succ_self n
  ascending := by
    refine List.pairwise_append.2 ⟨ho.ascending, List.pairwise_singleton _ _, ?_⟩
    intro c hc c' hc'
    obtain rfl := List.mem_singleton.1 hc'
    exact ho.before c hc

/-- The contents stay as they are at a moment at which an operation has its place that does not
commit. -/
theorem Succeeds.past_succ (hs : t.Succeeds h id job answer) (hf : t.Faithful h)
    (hnot : ¬ job.course.IsCommitted) : h.past (job.point + 1) = h.past job.point := by
  by_contra hpast
  obtain ⟨id', job', hjob', hcommitted, hclosing⟩ := hf.still hs.point_within.2.2.1 hpast
  -- The operation that changes the contents at this moment would be this one.
  obtain ⟨answer', hserves', -⟩ := hf.committed hjob' hcommitted
  have hwho := hserves'.who.2
  rw [hclosing, hs.point_within.2.2.2] at hwho
  obtain rfl := Option.some.inj hwho
  obtain rfl := Option.some.inj (hs.known.symm.trans hjob')
  exact hnot hcommitted

/-- At its place an operation gets the answer of the sheet for which the contents stand, and the
contents after it stand for the sheet after it. -/
theorem Succeeds.plays (hs : t.Succeeds h id job answer) (hf : t.Faithful h)
    (hshows : t.Shows (h.past job.point) s) (hlawful : t.IsLawfulAction job.what)
    (hund : ∀ id job, t.IsDeletion h id job → IsUndisturbed h job) :
    s.Answers t.codec job.what answer ∧ t.Shows (h.past (job.point + 1))
      (s.after t.clusterId (rowEtag job.course.etags) (versionEtag job.course.etags) job.what) := by
  cases hread : job.what.isRead with
  | true =>
    -- A reading sees its snapshot and leaves the contents as they are.
    have hpoint : job.point = job.opening := if_pos hread
    rw [Sheet.after_of_isRead hread,
      hs.past_succ hf (hs.outcome.not_isCommitted_of_isRead hread)]
    refine ⟨?_, hshows⟩
    rw [hpoint] at hshows
    exact hs.serves.effect.answers_read hshows hlawful hread
  | false =>
    -- Any other action works on the contents of the moment at which it ends.
    have hpoint : job.point = job.closing := if_neg (by rw [hread]; exact Bool.false_ne_true)
    rw [hpoint] at hshows ⊢
    refine hs.serves.effect.shows_after hshows hlawful hread fun hwhat cell hcell hsome => ?_
    -- A deletion has committed, and nothing was inserted since its snapshot.
    have hcommitted : job.course.IsCommitted := by
      have ho := hs.outcome
      rw [hwhat] at ho
      generalize job.course = k at ho
      cases ho with
      | ignoredDelete clusterId hne => exact absurd rfl hne
      | deleted tx => exact ⟨tx, rfl⟩
    exact hf.isSome_of_isUndisturbed hs.known hs.serves (hund id job ⟨hs.known, hwhat, hcommitted⟩)
      hcell hsome

/-- The contents of every moment stand for the sheet after the operations whose place is before
it. -/
theorem Faithful.exists_order (hf : t.Faithful h) (hempty : h.past 0 = .empty)
    (hlawful : ∀ job ∈ h.jobs, t.IsLawfulAction job.what)
    (hund : ∀ id job, t.IsDeletion h id job → IsUndisturbed h job) (n : Nat) (hn : n ≤ h.now) :
    ∃ calls s, t.IsOrderTo h n calls ∧ Sheet.empty.Plays t.codec t.clusterId calls s ∧
      t.Shows (h.past n) s := by
  induction n with
  | zero =>
    refine ⟨[], .empty, ⟨fun _ hlt => absurd hlt (Nat.not_lt_zero _), ?_, ?_, .nil⟩, rfl, ?_⟩
    · exact fun c hc => absurd hc (by simp)
    · exact fun c hc => absurd hc (by simp)
    · rw [hempty]
      exact t.shows_empty
  | succ n ih =>
    obtain ⟨calls, s, horder, hplays, hshows⟩ := ih (Nat.le_of_succ_le hn)
    -- Either one operation has its place at moment `n`, or the contents stay as they are.
    by_cases hplace : ∃ id job answer, t.Succeeds h id job answer ∧ job.point = n
    · obtain ⟨id, job, answer, hs, hpoint⟩ := hplace
      have hl := hlawful job (List.mem_of_getElem? hs.known)
      rw [← hpoint] at hshows
      obtain ⟨hanswer, hafter⟩ := hs.plays hf hshows hl hund
      rw [hpoint] at hafter
      exact ⟨_, _, horder.append hs hpoint, hplays.concat hanswer, hafter⟩
    · have hnone : ∀ id job answer, t.Succeeds h id job answer → job.point ≠ n :=
        fun id job answer hs hpoint => hplace ⟨id, job, answer, hs, hpoint⟩
      refine ⟨calls, s, horder.skip hnone, hplays, ?_⟩
      have hstill : h.past (n + 1) = h.past n := by
        by_contra hpast
        obtain ⟨id, job, hjob, hcommitted, hclosing⟩ := hf.still hn hpast
        obtain ⟨answer, hs⟩ := hf.succeeds_of_committed hjob hcommitted
        exact hnone id job answer hs ((hs.point_eq_closing hcommitted).trans hclosing)
      rw [hstill]
      exact hshows

/-- An order up to the last moment is an order of the whole history. -/
theorem IsOrderTo.isOrder {calls : List Call} (ho : t.IsOrderTo h h.now calls)
    (hf : t.Faithful h) : IsOrder h calls where
  returned {id answer} hresult := by
    obtain ⟨job, hs⟩ := hf.succeeds_of_result hresult
    obtain ⟨c, hc, rfl⟩ := ho.complete hs hs.point_within.2.2.1
    obtain ⟨job', hs', -⟩ := ho.sound c hc
    refine ⟨c, hc, rfl, ?_⟩
    -- The call has the answer of the result, since there is a result.
    rcases hs'.result with hsame | ⟨hnone, -⟩
    · exact Except.ok.inj (Option.some.inj (hsame.symm.trans hresult))
    · exact absurd (hnone.symm.trans hresult) (by simp)
  committed {id job} hjob hcommitted := by
    obtain ⟨answer, hs⟩ := hf.succeeds_of_committed hjob hcommitted
    exact ho.complete hs hs.point_within.2.2.1
  succeeded c hc := by
    obtain ⟨job, hs, hwhat, hetags, -⟩ := ho.sound c hc
    exact ⟨job, hs.known, hwhat, hetags, hs.result⟩
  within c hc job hjob := by
    obtain ⟨job', hs, -, -, hmoment⟩ := ho.sound c hc
    obtain rfl := Option.some.inj (hs.known.symm.trans hjob)
    obtain ⟨hstart, hend, -, hwho⟩ := hs.point_within
    rw [hmoment]
    exact ⟨hstart, hend, hwho⟩
  ascending := ho.ascending
  once := by
    rw [List.Nodup, List.pairwise_map]
    refine ho.ascending.imp_of_mem fun {a b} ha hb hlt hid => ?_
    obtain ⟨job, hs, -, -, hmoment⟩ := ho.sound a ha
    obtain ⟨job', hs', -, -, hmoment'⟩ := ho.sound b hb
    have hknown := hs.known
    rw [hid, hs'.known] at hknown
    obtain rfl := Option.some.inj hknown
    exact Nat.ne_of_lt hlt (hmoment.trans hmoment'.symm)

/-- **Tables are linearizable.** In every run that starts with an empty store and in which nothing
is inserted between the snapshot and the commit of a deletion, the operations that did not fail can
be put in an order, each between its start and its end, in which a sheet gives each of them its
answer and ends as the sheet for which the contents stand. The codec has to give back every address
that the operations name: silos whose addresses are stored as one text share a row, which a sheet
does not know of (`not_exists_order_labelledRun`). -/
theorem linearizable (t : Table) {world : World} {store : Store}
    (hstore : world.store? t.store = some store) (hempty : store.committed = .empty)
    (moves : List (Move Action))
    (hlawful : ∀ job ∈ (t.setting.run world moves).jobs, t.IsLawfulAction job.what)
    (hund : ∀ id job, t.IsDeletion (t.setting.run world moves) id job →
      IsUndisturbed (t.setting.run world moves) job) :
    ∃ calls s, IsOrder (t.setting.run world moves) calls ∧
      Sheet.empty.Plays t.codec t.clusterId calls s ∧
      t.Shows (t.setting.committed (t.setting.run world moves).system) s := by
  have hf : t.Faithful (t.setting.run world moves) := t.faithful_run hstore moves
  have hzero := (t.past_zero_run hstore moves).trans hempty
  -- The calls are ordered by the moments at which they commit, or open if they are readings.
  obtain ⟨calls, s, horder, hplays, hshows⟩ :=
    hf.exists_order hzero hlawful hund _ (Nat.le_refl _)
  obtain ⟨store', hfit⟩ := Setting.fits_run t.isDisciplined hstore moves
  have hcommitted : t.setting.committed (t.setting.run world moves).system =
      (t.setting.run world moves).past (t.setting.run world moves).now := by
    rw [hfit.committed, Setting.committed, hfit.store]
  refine ⟨calls, s, horder.isOrder hf, hplays, ?_⟩
  rw [hcommitted]
  exact hshows

/-! ## A reading beside a deletion -/

namespace Sample

/-- A row is inserted; a reading takes its snapshot; the rows are deleted; the reading ends. -/
def lateReadingMoves : List (Move Action) :=
  alone 0 (.insertRow entry .initial) 23 ++ alone 1 .readAll 6 ++
    alone 2 (.deleteEntries "cluster") 30 ++ List.replicate 14 (.call 1)

/-- The history of a reading that ends after a deletion that it does not see. -/
def lateReading : Run :=
  table.setting.run world lateReadingMoves

end Sample

/-- The reading, the insertion and the deletion have an order. -/
theorem exists_order_lateReading :
    (∀ job ∈ Sample.lateReading.jobs, Sample.table.IsLawfulAction job.what) ∧
    (∀ id job, Sample.table.IsDeletion Sample.lateReading id job →
      IsUndisturbed Sample.lateReading job) ∧
    ∃ calls s, IsOrder Sample.lateReading calls ∧
      Sheet.empty.Plays Sample.table.codec Sample.table.clusterId calls s ∧
      Sample.table.Shows (Sample.table.setting.committed Sample.lateReading.system) s := by
  have hwhats : ∀ job ∈ Sample.lateReading.jobs,
      job.what ∈ [.insertRow Sample.entry .initial, .readAll,
        .deleteEntries Sample.table.clusterId] := by decide +kernel
  have hapart : ∀ job ∈ Sample.lateReading.jobs, ∀ job' ∈ Sample.lateReading.jobs,
      job.what = .deleteEntries Sample.table.clusterId →
      job'.what = .insertRow Sample.entry .initial → job'.closing < job.opening := by
    decide +kernel
  -- The one address in use is read back from its text.
  have haddress : Sample.table.IsLawful Sample.address := by
    unfold IsLawful
    decide +kernel
  have hlawful : ∀ job ∈ Sample.lateReading.jobs, Sample.table.IsLawfulAction job.what := by
    intro job hjob
    rcases List.mem_cons.1 (hwhats job hjob) with hwhat | hwhat
    · rw [hwhat]
      exact ⟨haddress, fun s hs => absurd hs (by simp [Sample.entry])⟩
    · rcases List.mem_cons.1 hwhat with hwhat | hwhat
      · rw [hwhat]
        trivial
      · rw [List.mem_singleton.1 hwhat]
        trivial
  have hund : ∀ id job, Sample.table.IsDeletion Sample.lateReading id job →
      IsUndisturbed Sample.lateReading job := by
    -- An insertion within the span of the deletion would have closed before it opened.
    rintro id job hdel id' job' hjob' hcommitted ⟨entry, expected, hwhat'⟩ ⟨hopening, -⟩
    have hmem := List.mem_of_getElem? hdel.known
    have hmem' := List.mem_of_getElem? hjob'
    have hinsert : job'.what = .insertRow Sample.entry .initial := by
      have hwhats' := hwhats job' hmem'
      rw [hwhat'] at hwhats' ⊢
      simpa using hwhats'
    have hlt := hapart job hmem job' hmem' hdel.what hinsert
    exact Nat.lt_asymm hopening hlt
  have hstore : Sample.world.store? Sample.table.store = some .empty := rfl
  refine ⟨hlawful, hund, ?_⟩
  unfold Sample.lateReading at hlawful hund ⊢
  exact linearizable Sample.table hstore rfl Sample.lateReadingMoves hlawful hund

/-! ## Addresses that the codec does not give back

Canonical texts leave out the flow label of an IPv6 address, so two silos that differ in nothing
else share a row. A sheet keeps them apart: there the second is inserted as well. -/

/-- A silo gets its first row only by an insertion of its own. -/
theorem Sheet.rows_after_eq_none {a : Address} {action : Action} (hnone : s.rows a = none)
    (hothers : ∀ entry expected, action = .insertRow entry expected → entry.address ≠ a)
    (clusterId rowEtag versionEtag : String) :
    (s.after clusterId rowEtag versionEtag action).rows a = none := by
  -- A row that is put down is one for another silo, either by name or since that silo had one.
  have hput : ∀ (b : Address) (row : Entry × String), b ≠ a → (s.put b row).rows a = none := by
    intro b row hne
    exact (if_neg fun heq => hne heq.symm).trans hnone
  have hold : ∀ (b : Address) (row : Entry × String), s.rows b = some row → b ≠ a := by
    rintro b row hrow rfl
    exact absurd (hnone.symm.trans hrow) (by simp)
  cases action with
  | insertRow entry expected =>
    have hne := hothers entry expected rfl
    simp only [Sheet.after]
    split
    · exact hput _ _ hne
    · exact hnone
  | updateRow entry etag expected =>
    simp only [Sheet.after]
    split
    · exact hnone
    · next row hrow =>
      split
      · exact hput _ _ (hold _ _ hrow)
      · exact hnone
  | heartbeat entry =>
    simp only [Sheet.after]
    split
    · exact hnone
    · next row hrow => exact hput _ _ (hold _ _ hrow)
  | deleteEntries id =>
    simp only [Sheet.after]
    split
    · rfl
    · exact hnone
  | prepare isNew => exact hnone
  | readRow address => exact hnone
  | readAll => exact hnone

/-- A silo that is not inserted before a call has no row when the call gets its answer. -/
theorem Sheet.Plays.exists_answers {codec : Codec} {clusterId : String} {a : Address}
    {front back : List Call} {c : Call} (hplays : s.Plays codec clusterId (front ++ c :: back) s')
    (hnone : s.rows a = none)
    (hothers : ∀ b ∈ front, ∀ entry expected,
      b.what = .insertRow entry expected → entry.address ≠ a) :
    ∃ mid : Sheet, mid.rows a = none ∧ mid.Answers codec c.what c.answer := by
  induction front generalizing s with
  | nil => exact ⟨s, hnone, hplays.1⟩
  | cons first front ih =>
    have hfirst := hothers first List.mem_cons_self
    refine ih hplays.2 (Sheet.rows_after_eq_none hnone hfirst _ _ _) fun b hb => ?_
    exact hothers b (List.mem_cons_of_mem _ hb)

namespace Sample

/-- The entry of a silo that listens on an IPv6 address with a flow label. -/
def labelled (flow : UInt32) : Entry :=
  { entry with address := ⟨.v6 ⟨[0xfd00, 0, 0, 0, 0, 0, 0, 1], rfl⟩ 11111 flow 0, 1⟩ }

/-- A row is inserted, and then that of a silo with another flow label. -/
def labelledMoves : List (Move Action) :=
  alone 0 (.insertRow (labelled 1) .initial) 23 ++ alone 1 (.insertRow (labelled 0) .initial) 23

/-- The history of two insertions, one after the other, of silos that share a canonical text. -/
def labelledRun : Run :=
  table.setting.run world labelledMoves

/-- The flag that an operation has answered. -/
def flag? : Except Failure Answer → Option Bool
  | .ok (.flag isWritten) => some isWritten
  | _ => none

/-- The flag is the whole answer. -/
theorem eq_of_flag? {result : Except Failure Answer} {isWritten : Bool}
    (hflag : flag? result = some isWritten) : result = .ok (.flag isWritten) := by
  unfold flag? at hflag
  split at hflag
  · rw [Option.some.inj hflag]
  · exact absurd hflag (by simp)

end Sample

/-- Silos that differ in their flow labels are inserted one after the other into a table that stores
canonical addresses. Nothing fails and nothing is deleted, but the second insertion finds a row, so
no order gives both insertions the answers of a sheet. -/
theorem not_exists_order_labelledRun :
    Sample.world.store? Sample.table.store = some .empty ∧ Store.empty.committed = .empty ∧
    (∀ id job, ¬ Sample.table.IsDeletion Sample.labelledRun id job) ∧
    Sample.labelledRun.result? 0 = some (.ok (.flag true)) ∧
    Sample.labelledRun.result? 1 = some (.ok (.flag false)) ∧
    (Sample.labelled 1).address ≠ (Sample.labelled 0).address ∧
    ¬ ∃ calls s, IsOrder Sample.labelledRun calls ∧
      Sheet.empty.Plays Sample.table.codec Sample.table.clusterId calls s := by
  have hwhats : Sample.labelledRun.jobs.map Job.what =
      [.insertRow (Sample.labelled 1) .initial, .insertRow (Sample.labelled 0) .initial] := by
    decide +kernel
  have hflags : (Sample.labelledRun.result? 0).bind Sample.flag? = some true ∧
      (Sample.labelledRun.result? 1).bind Sample.flag? = some false := by decide +kernel
  obtain ⟨result, hfirst, hflag⟩ := Option.bind_eq_some_iff.1 hflags.1
  obtain rfl := Sample.eq_of_flag? hflag
  obtain ⟨result, hsecond, hflag⟩ := Option.bind_eq_some_iff.1 hflags.2
  obtain rfl := Sample.eq_of_flag? hflag
  have hne : (Sample.labelled 1).address ≠ (Sample.labelled 0).address := by decide
  have hwhat : ∀ {id : TaskId} {job : Job Action}, Sample.labelledRun.jobs[id]? = some job →
      [Action.insertRow (Sample.labelled 1) .initial,
        .insertRow (Sample.labelled 0) .initial][id]? = some job.what := by
    intro id job hjob
    rw [← hwhats, List.getElem?_map, hjob]
    rfl
  refine ⟨rfl, rfl, fun id job hdel => ?_, hfirst, hsecond, hne, ?_⟩
  · have hmem := List.mem_of_getElem? (hwhat hdel.known)
    rw [hdel.what] at hmem
    simp at hmem
  · rintro ⟨calls, s, horder, hplays⟩
    obtain ⟨c, hc, hid, hanswer⟩ := horder.returned hsecond
    obtain ⟨front, back, rfl⟩ := List.append_of_mem hc
    -- No call before the second insertion inserts its silo, as each operation has one place.
    have hothers : ∀ b ∈ front, ∀ entry expected, b.what = .insertRow entry expected →
        entry.address ≠ (Sample.labelled 0).address := by
      intro b hb entry expected hinsert
      obtain ⟨job, hjob, hsame, -⟩ := horder.succeeded b (List.mem_append_left _ hb)
      have hknown := hwhat hjob
      have honce := horder.once
      rw [List.map_append, List.nodup_append] at honce
      have hapart : b.id ≠ 1 := fun h1 =>
        honce.2.2 b.id (List.mem_map_of_mem hb) c.id (List.mem_map_of_mem List.mem_cons_self)
          (h1.trans hid.symm)
      cases hnumber : b.id with
      | zero =>
        rw [hnumber, ← hsame, hinsert] at hknown
        obtain ⟨rfl, -⟩ := Action.insertRow.inj (Option.some.inj hknown)
        exact hne
      | succ n =>
        cases n with
        | zero => exact absurd hnumber hapart
        | succ n =>
          rw [hnumber] at hknown
          exact absurd hknown (by simp)
    obtain ⟨mid, hnone, hanswers⟩ := hplays.exists_answers rfl hothers
    obtain ⟨job, hjob, hsame, -⟩ := horder.succeeded c hc
    have hknown := hwhat hjob
    rw [hid, ← hsame] at hknown
    rw [← Option.some.inj hknown, hanswer] at hanswers
    have hflag : false = (mid.rows (Sample.labelled 0).address).isNone := hanswers
    rw [hnone] at hflag
    exact absurd hflag (by simp)

end Table

end Muster
