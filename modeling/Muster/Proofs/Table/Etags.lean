import Muster.Proofs.Stored.RoundTrip
import Muster.Proofs.System.Minted
import Muster.Proofs.Table.History

/-!
# Updates lose nothing

An update replaces a row only if the row carries the etag that its caller has read. This works
because an etag stands for one write: every write of a row and every move of the version carries an
etag that no other write carries (`Wrote.ext_of_etagAt?`). What a cell holds is what the last
operation that touched it has written (`Faithful.exists_wrote`), so between the write of an etag and
the update that finds it nothing has touched the row (`IsUpdate.exists_wrote`).
-/

namespace Muster

/-- What the transaction of a course has written, and in which cells. -/
def Course.writes (k : Course) : List (Cell × Bytes) :=
  k.requests.filterMap Answered.written?

/-- The cells that the transaction of a course has written or cleared. -/
def Course.touches (k : Course) : List Cell :=
  k.requests.filterMap Answered.touched?

namespace Table

open Muster.Silo (Address Entry)
open Stored (Record)
open Setting (AllMinted)

variable {t : Table} {h : Run} {id id' : TaskId} {job job' : Job Action} {answer : Answer}
  {action : Action} {k : Course} {cell cell' : Cell} {bytes bytes' : Bytes} {etag : String}
  {source : Etag.Source}

/-- The etag that bytes carry which are stored in a cell. -/
def etagAt? (t : Table) (cell : Cell) (bytes : Bytes) : Option String :=
  if cell = t.versionCell then (Stored.versionOfBytes? bytes).toOption.map Version.etag
  else (Record.ofBytes? bytes).toOption.map Record.etag

/-- The etag at the cell of the version is that of the version. -/
theorem etagAt?_version (t : Table) (version : Version) :
    t.etagAt? t.versionCell (Stored.versionToBytes version) = some version.etag := by
  rw [etagAt?, if_pos rfl, Stored.versionOfBytes?_versionToBytes]
  rfl

/-- The etag at the cell of a row is that of its record. -/
theorem etagAt?_row (t : Table) (address : Address) (record : Record) :
    t.etagAt? (t.rowCell address) record.toBytes = some record.etag := by
  rw [etagAt?, if_neg (ne_versionCell rfl), Stored.ofBytes?_toBytes]
  rfl

/-- An operation that has committed has written bytes in a cell. -/
structure Wrote (h : Run) (id : TaskId) (job : Job Action) (cell : Cell) (bytes : Bytes) :
    Prop where
  /-- It is one of the history. -/
  known : h.jobs[id]? = some job
  /-- It has committed. -/
  committed : job.course.IsCommitted
  /-- It has written them. -/
  writes : (cell, bytes) ∈ job.course.writes

/-- An update that expected an etag has replaced a row. -/
structure IsUpdate (t : Table) (h : Run) (id : TaskId) (job : Job Action) (cell : Cell)
    (etag : String) : Prop where
  /-- It is one of the history. -/
  known : h.jobs[id]? = some job
  /-- It is for the row and expects the etag. -/
  what : ∃ entry expected, job.what = .updateRow entry etag expected ∧
    t.rowCell entry.address = cell
  /-- It has said that it has replaced the row, or it has committed at least. -/
  wins : h.result? id = some (.ok (.flag true)) ∨ job.course.IsCommitted

/-! ## What operations write -/

/-- The silo whose row an action may write. -/
def Action.address? : Action → Option Address
  | .insertRow entry _ => some entry.address
  | .updateRow entry _ _ => some entry.address
  | .heartbeat entry => some entry.address
  | _ => none

/-- Clearing rows writes nothing. -/
theorem Clears.writes_eq_nil {rows : List Row} {removals : List Answered}
    (hclears : t.Clears rows removals) : removals.filterMap Answered.written? = [] := by
  rw [List.filterMap_eq_nil_iff]
  rintro ⟨r, reply⟩ hmem
  have hr : r ∈ removals.reverse.map Sigma.fst :=
    List.mem_map.2 ⟨⟨r, reply⟩, List.mem_reverse.2 hmem, rfl⟩
  rw [hclears] at hr
  obtain ⟨row, -, rfl⟩ := List.mem_map.1 hr
  rfl

/-- An operation writes the initial version, or a version with the first of its etags and a row with
the last. -/
theorem Outcome.writes_cases (ho : t.Outcome action k answer) (hmem : (cell, bytes) ∈ k.writes) :
    (action = .prepare true ∧ cell = t.versionCell ∧ bytes = Stored.versionToBytes .initial) ∨
    (∃ (version : Version) (rowEtag : String), cell = t.versionCell ∧
      bytes = Stored.versionToBytes version ∧ k.etags = [version.etag, rowEtag]) ∨
    (∃ (address : Address) (record : Record), action.address? = some address ∧
      cell = t.rowCell address ∧ bytes = record.toBytes ∧
      k.etags.getLast? = some record.etag) := by
  -- What is written is the initial version record, a later one, or a row.
  cases ho with
  | createdVersion tx =>
    obtain ⟨rfl, rfl⟩ := Prod.mk.inj (List.mem_singleton.1 hmem)
    exact .inl ⟨rfl, rfl, rfl⟩
  | inserted tx entry expected rowEtag versionEtag stored version hversion =>
    rcases List.mem_cons.1 hmem with heq | hmem
    · obtain ⟨rfl, rfl⟩ := Prod.mk.inj heq
      exact .inr (.inl ⟨_, rowEtag, rfl, rfl, rfl⟩)
    · obtain ⟨rfl, rfl⟩ := Prod.mk.inj (List.mem_singleton.1 hmem)
      exact .inr (.inr ⟨_, _, rfl, rfl, rfl, rfl⟩)
  | updated tx entry expected rowEtag versionEtag bytes' record stored version hrecord hversion =>
    rcases List.mem_cons.1 hmem with heq | hmem
    · obtain ⟨rfl, rfl⟩ := Prod.mk.inj heq
      exact .inr (.inl ⟨_, rowEtag, rfl, rfl, rfl⟩)
    · obtain ⟨rfl, rfl⟩ := Prod.mk.inj (List.mem_singleton.1 hmem)
      exact .inr (.inr ⟨_, _, rfl, rfl, rfl, rfl⟩)
  | beaten tx entry rowEtag bytes' record hrecord =>
    obtain ⟨rfl, rfl⟩ := Prod.mk.inj (List.mem_singleton.1 hmem)
    exact .inr (.inr ⟨_, _, rfl, rfl, rfl, rfl⟩)
  | deleted tx rows removals stored hremovals =>
    -- A deletion only removes.
    unfold Course.writes at hmem
    rw [List.cons_append, List.filterMap_cons_none rfl, List.filterMap_append,
      hremovals.writes_eq_nil] at hmem
    exact absurd hmem (by simp [Answered.written?])
  | _ => exact absurd hmem (by simp [Course.writes, Course.start, Answered.written?])

/-- Every write carries an etag: one that the operation was given, or that of the initial
version. -/
theorem Outcome.etagAt?_of_writes (ho : t.Outcome action k answer)
    (hmem : (cell, bytes) ∈ k.writes) :
    ∃ etag, t.etagAt? cell bytes = some etag ∧
      (action = .prepare true ∧ etag = "0" ∨ etag ∈ k.etags) := by
  rcases ho.writes_cases hmem with ⟨hprepare, rfl, rfl⟩ | ⟨version, rowEtag, rfl, rfl, hetags⟩ |
    ⟨address, record, haddress, rfl, rfl, hetags⟩
  · exact ⟨"0", t.etagAt?_version .initial, .inl ⟨hprepare, rfl⟩⟩
  · refine ⟨version.etag, t.etagAt?_version version, .inr ?_⟩
    rw [hetags]
    exact List.mem_cons_self
  · exact ⟨record.etag, t.etagAt?_row address record, .inr (List.mem_of_getLast? hetags)⟩

/-- No operation writes the same etag in two cells. -/
theorem Outcome.cell_eq_of_etagAt? (ho : t.Outcome action k answer) (hnodup : k.etags.Nodup)
    (hmem : (cell, bytes) ∈ k.writes) (hmem' : (cell', bytes') ∈ k.writes)
    (hetag : t.etagAt? cell bytes = t.etagAt? cell' bytes') : cell = cell' := by
  -- A version and a row of one operation carry different etags.
  have hne : ∀ {version : Version} {rowEtag : String} {address : Address} {record : Record},
      k.etags = [version.etag, rowEtag] → k.etags.getLast? = some record.etag →
      t.etagAt? t.versionCell (Stored.versionToBytes version) ≠
        t.etagAt? (t.rowCell address) record.toBytes := by
    intro version rowEtag address record hpair hlast heq
    rw [etagAt?_version, etagAt?_row] at heq
    rw [hpair] at hlast hnodup
    obtain rfl : rowEtag = record.etag := Option.some.inj hlast
    exact absurd (Option.some.inj heq) (List.nodup_cons.1 hnodup |>.1 <| List.mem_singleton.2 ·)
  rcases ho.writes_cases hmem with ⟨hprepare, rfl, rfl⟩ | ⟨version, rowEtag, rfl, rfl, hpair⟩ |
    ⟨address, record, haddress, rfl, rfl, hlast⟩
  · rcases ho.writes_cases hmem' with ⟨-, rfl, -⟩ | ⟨-, -, rfl, -⟩ | ⟨address', -, haddress', -⟩
    · rfl
    · rfl
    · rw [hprepare] at haddress'
      exact absurd haddress' (by simp [Action.address?])
  · rcases ho.writes_cases hmem' with ⟨-, rfl, -⟩ | ⟨-, -, rfl, -⟩ |
      ⟨address', record', -, rfl, rfl, hlast'⟩
    · rfl
    · rfl
    · exact absurd hetag (hne hpair hlast')
  · rcases ho.writes_cases hmem' with ⟨hprepare, -⟩ | ⟨version', rowEtag', rfl, rfl, hpair'⟩ |
      ⟨address', record', haddress', rfl, -⟩
    · rw [hprepare] at haddress
      exact absurd haddress (by simp [Action.address?])
    · exact absurd hetag.symm (hne hpair' hlast)
    · rw [Option.some.inj (haddress.symm.trans haddress')]

/-! ## Etags stand for writes -/

/-- A write other than that of the initial version carries an etag that no other write carries. -/
theorem Wrote.ext_of_etagAt? (hf : t.Faithful h) (hm : AllMinted source h)
    (hfew : h.system.world.etags.count ≤ Etag.limit)
    (hw : Wrote h id job cell bytes) (hwhat : job.what ≠ .prepare true)
    (hw' : Wrote h id' job' cell' bytes')
    (hetag : t.etagAt? cell' bytes' = t.etagAt? cell bytes) : id' = id ∧ cell' = cell := by
  obtain ⟨answer, -, ho⟩ := hf.committed hw.known hw.committed
  obtain ⟨answer', -, ho'⟩ := hf.committed hw'.known hw'.committed
  obtain ⟨etag, hat, hgiven⟩ := ho.etagAt?_of_writes hw.writes
  obtain ⟨etag', hat', hgiven'⟩ := ho'.etagAt?_of_writes hw'.writes
  obtain rfl : etag' = etag := Option.some.inj (hat'.symm.trans (hetag.trans hat))
  -- Both operations were given the etag, so they are one.
  have hmem := hgiven.resolve_left fun hprepare => hwhat hprepare.1
  have hmem' : etag' ∈ job'.course.etags := by
    refine hgiven'.resolve_left fun hzero => ?_
    exact hm.zero_notMem hw.known (hzero.2 ▸ hmem)
  have hsince : h.system.world.etags.count ≤ source.count + Etag.limit :=
    Nat.le_add_left_of_le hfew
  obtain rfl := hm.apart hsince hw'.known hw.known hmem' hmem
  obtain rfl := Option.some.inj (hw.known.symm.trans hw'.known)
  exact ⟨rfl, ho.cell_eq_of_etagAt? (hm.once hsince hw.known) hw'.writes hw.writes hetag⟩

/-- A row is not written by getting the table ready. -/
theorem Wrote.what_ne (hw : Wrote h id job cell bytes) (hf : t.Faithful h)
    (hcell : cell.dictionary = t.stateName) : job.what ≠ .prepare true := by
  intro hprepare
  obtain ⟨answer, -, ho⟩ := hf.committed hw.known hw.committed
  rcases ho.writes_cases hw.writes with ⟨-, rfl, -⟩ | ⟨-, -, rfl, -⟩ | ⟨address, -, haddress, -⟩
  · exact t.dictionary_versionCell_ne hcell
  · exact t.dictionary_versionCell_ne hcell
  · rw [hprepare] at haddress
    exact absurd haddress (by simp [Action.address?])

/-! ## Where the contents of a cell come from -/

/-- An operation that touches a cell clears it, or leaves there what it has written. -/
theorem Faithful.find?_of_touches (hf : t.Faithful h) (hjob : h.jobs[id]? = some job)
    (hcommitted : job.course.IsCommitted) (htouches : cell ∈ job.course.touches) :
    (h.past (job.closing + 1)).find? cell = none ∨
      ∃ bytes, Wrote h id job cell bytes ∧
        (h.past (job.closing + 1)).find? cell = some bytes := by
  obtain ⟨tx, hreplays, happlied⟩ := hf.applied hjob hcommitted
  rw [happlied, Transaction.find?_apply_changes]
  rcases hreplays.view_of_touched htouches with hnone | ⟨bytes, hmem, hview⟩
  · exact .inl hnone
  · exact .inr ⟨bytes, ⟨hjob, hcommitted, hmem⟩, hview⟩

/-- An operation that does not touch a cell leaves it as it is. -/
theorem Faithful.find?_of_not_touches (hf : t.Faithful h) (hjob : h.jobs[id]? = some job)
    (hcommitted : job.course.IsCommitted) (htouches : cell ∉ job.course.touches) :
    (h.past (job.closing + 1)).find? cell = (h.past job.closing).find? cell := by
  obtain ⟨tx, hreplays, happlied⟩ := hf.applied hjob hcommitted
  rw [happlied, Transaction.find?_apply_changes]
  exact hreplays.view_of_not_touched htouches

/-- What a cell holds was written by an operation that has committed, and has been there ever
since. -/
theorem Faithful.exists_wrote (hf : t.Faithful h) (hempty : h.past 0 = .empty) (n : Nat)
    (hn : n ≤ h.now) (hcell : (h.past n).find? cell = some bytes) :
    ∃ id job, Wrote h id job cell bytes ∧ job.closing < n ∧
      ∀ m, job.closing < m → m ≤ n → (h.past m).find? cell = some bytes := by
  induction n with
  | zero =>
    rw [hempty] at hcell
    exact absurd hcell (by simp)
  | succ n ih =>
    -- If the cell is left alone at this moment, then its writer is that of the moment before.
    have hkeep : (h.past n).find? cell = some bytes →
        ∃ id job, Wrote h id job cell bytes ∧ job.closing < n + 1 ∧
          ∀ m, job.closing < m → m ≤ n + 1 → (h.past m).find? cell = some bytes := by
      intro hbefore
      -- This is the writer that the induction gives.
      obtain ⟨id, job, hw, hlt, hsince⟩ := ih (Nat.le_of_succ_le hn) hbefore
      refine ⟨id, job, hw, Nat.lt_succ_of_lt hlt, fun m hm hle => ?_⟩
      rcases Nat.le_succ_iff.1 hle with hle | rfl
      · exact hsince m hm hle
      · exact hcell
    by_cases hpast : h.past (n + 1) = h.past n
    · exact hkeep (hpast ▸ hcell)
    · obtain ⟨id, job, hjob, hcommitted, rfl⟩ := hf.still hn hpast
      by_cases htouches : cell ∈ job.course.touches
      · -- Whoever touches the cell at this moment has written what it holds now.
        rcases hf.find?_of_touches hjob hcommitted htouches with hnone | ⟨bytes', hw, hwritten⟩
        · exact absurd (hnone.symm.trans hcell) (by simp)
        · obtain rfl := Option.some.inj (hwritten.symm.trans hcell)
          refine ⟨id, job, hw, Nat.lt_succ_self _, fun m hm hle => ?_⟩
          rw [Nat.le_antisymm hle hm]
          exact hcell
      · rw [hf.find?_of_not_touches hjob hcommitted htouches] at hcell
        exact hkeep hcell

/-! ## Updates -/

/-- An update that has replaced a row has committed, and it had found the etag there. -/
theorem IsUpdate.found (hu : t.IsUpdate h id job cell etag) (hf : t.Faithful h) :
    job.course.IsCommitted ∧ (∃ answer, t.Serves h id job answer) ∧ cell ∈ job.course.touches ∧
      cell.dictionary = t.stateName ∧
      ∃ bytes, (h.past job.closing).find? cell = some bytes ∧ t.etagAt? cell bytes = some etag := by
  obtain ⟨entry, expected, hwhat, rfl⟩ := hu.what
  -- Both an answer and a commit come with the outcome of an update that was made.
  obtain ⟨hcommitted, answer, hserves, ho⟩ : job.course.IsCommitted ∧
      ∃ answer, t.Serves h id job answer ∧ t.Outcome job.what job.course answer := by
    rcases hu.wins with hresult | hcommitted
    · obtain ⟨job', hjob', hserves, ho⟩ := hf.returned hresult
      obtain rfl := Option.some.inj (hu.known.symm.trans hjob')
      refine ⟨?_, _, hserves, ho⟩
      rw [hwhat] at ho
      generalize hk : job.course = k at ho
      cases ho with
      | updated tx => exact ⟨tx, rfl⟩
    · exact ⟨hcommitted, hf.committed hu.known hcommitted⟩
  -- Of the outcomes of an update only this one commits.
  have hmade : t.rowCell entry.address ∈ job.course.touches ∧ answer = .flag true := by
    rw [hwhat] at ho
    generalize job.course = k at ho hcommitted
    cases ho with
    | updated tx => exact ⟨List.mem_cons_of_mem _ List.mem_cons_self, rfl⟩
    | noRowToUpdate tx =>
      obtain ⟨tx', hstage⟩ := hcommitted
      exact absurd hstage (by simp)
    | etagMismatch tx =>
      obtain ⟨tx', hstage⟩ := hcommitted
      exact absurd hstage (by simp)
  obtain ⟨htouches, rfl⟩ := hmade
  -- What it found at its end is the row with the etag.
  refine ⟨hcommitted, ⟨_, hserves⟩, htouches, rfl, ?_⟩
  have heffect := hserves.effect
  rw [hwhat] at heffect
  generalize job.course.etags = etags at heffect
  cases heffect with
  | updated entry expected rowEtag versionEtag bytes record version hrecord hrow =>
    refine ⟨bytes, hrow, ?_⟩
    rw [etagAt?, if_neg (ne_versionCell rfl), hrecord]
    rfl

/-- The etag of a row stands for one write, which was made before the update that found it. -/
theorem IsUpdate.exists_wrote (hu : t.IsUpdate h id job cell etag) (hf : t.Faithful h)
    (hm : AllMinted source h) (hfew : h.system.world.etags.count ≤ Etag.limit)
    (hempty : h.past 0 = .empty) :
    ∃ id₀ job₀ bytes, Wrote h id₀ job₀ cell bytes ∧ t.etagAt? cell bytes = some etag ∧
      job₀.closing < job.closing ∧
      ∀ (id₁ : TaskId) (job₁ : Job Action), h.jobs[id₁]? = some job₁ →
        job₁.course.IsCommitted → cell ∈ job₁.course.touches →
        ¬ (job₀.closing < job₁.closing ∧ job₁.closing < job.closing) := by
  obtain ⟨-, ⟨answer, hserves⟩, -, hrow, bytes, hcell, hetag⟩ := hu.found hf
  obtain ⟨hlast, hlt'⟩ := hserves.closing
  have hnow : job.closing ≤ h.now := by omega
  obtain ⟨id₀, job₀, hw, hlt, hsince⟩ := hf.exists_wrote hempty job.closing hnow hcell
  refine ⟨id₀, job₀, bytes, hw, hetag, hlt, fun id₁ job₁ hjob₁ hcommitted₁ htouches₁ hbetween => ?_⟩
  obtain ⟨hafter, hbefore⟩ := hbetween
  have hstill := hsince _ (Nat.lt_succ_of_lt hafter) hbefore
  rcases hf.find?_of_touches hjob₁ hcommitted₁ htouches₁ with hnone | ⟨bytes₁, hw₁, hwritten⟩
  · exact absurd (hnone.symm.trans hstill) (by simp)
  · -- What was written in between is still there, so it is the write of the etag itself.
    obtain rfl := Option.some.inj (hwritten.symm.trans hstill)
    obtain ⟨rfl, -⟩ := hw.ext_of_etagAt? hf hm hfew (hw.what_ne hf hrow) hw₁ rfl
    obtain rfl := Option.some.inj (hw.known.symm.trans hjob₁)
    exact Nat.lt_irrefl _ hafter

/-- Of two updates that expect the same etag of a row only one replaces it. -/
theorem IsUpdate.unique (hu : t.IsUpdate h id job cell etag) (hu' : t.IsUpdate h id' job' cell etag)
    (hf : t.Faithful h) (hm : AllMinted source h)
    (hfew : h.system.world.etags.count ≤ Etag.limit) (hempty : h.past 0 = .empty) : id = id' := by
  -- The update that comes second would find that the first one has touched the row.
  have hnot : ∀ {id id' : TaskId} {job job' : Job Action}, t.IsUpdate h id job cell etag →
      t.IsUpdate h id' job' cell etag → ¬ job.closing < job'.closing := by
    intro id id' job job' hu hu' hlt
    obtain ⟨hcommitted, -, htouches, hrow, -⟩ := hu.found hf
    -- One write carries the etag, and it stands before both updates.
    obtain ⟨id₀, job₀, bytes₀, hw₀, hetag₀, hlt₀, -⟩ := hu.exists_wrote hf hm hfew hempty
    obtain ⟨id₁, job₁, bytes₁, hw₁, hetag₁, -, hbetween⟩ := hu'.exists_wrote hf hm hfew hempty
    obtain ⟨rfl, -⟩ := hw₁.ext_of_etagAt? hf hm hfew (hw₁.what_ne hf hrow) hw₀
      (hetag₀.trans hetag₁.symm)
    obtain rfl := Option.some.inj (hw₀.known.symm.trans hw₁.known)
    exact hbetween id job hu.known hcommitted htouches ⟨hlt₀, hlt⟩
  obtain ⟨-, ⟨answer, hserves⟩, -⟩ := hu.found hf
  obtain ⟨-, ⟨answer', hserves'⟩, -⟩ := hu'.found hf
  have hle := hnot hu hu'
  have hge := hnot hu' hu
  have heq : job.closing = job'.closing := by omega
  exact Faithful.eq_of_closing hserves hserves' heq

/-- **Etags tell writes apart, and so an update replaces exactly the write that its caller has
read.** As long as the count of etags has not wrapped around, every write of a row and every move of
the version carries an etag that no other write carries; of all updates of a row that expect one
etag at most one replaces the row; and nothing has touched the row between the write of the etag and
that update. -/
theorem update_replaces_what_was_read (t : Table) {world : World} {s : Store}
    (hstore : world.store? t.store = some s) (hempty : s.committed = .empty)
    (moves : List (Move Action))
    (hfew : (t.setting.run world moves).system.world.etags.count ≤ Etag.limit) :
    let h := t.setting.run world moves
    (∀ id job cell bytes, Wrote h id job cell bytes → job.what ≠ .prepare true →
      ∃ etag, t.etagAt? cell bytes = some etag ∧
        ∀ id' job' cell' bytes', Wrote h id' job' cell' bytes' →
          t.etagAt? cell' bytes' = some etag → id' = id ∧ cell' = cell) ∧
    (∀ id id' job job' cell etag, t.IsUpdate h id job cell etag →
      t.IsUpdate h id' job' cell etag → id = id') ∧
    ∀ id job cell etag, t.IsUpdate h id job cell etag →
      ∃ id₀ job₀ bytes, Wrote h id₀ job₀ cell bytes ∧ t.etagAt? cell bytes = some etag ∧
        job₀.closing < job.closing ∧
        ∀ (id₁ : TaskId) (job₁ : Job Action), h.jobs[id₁]? = some job₁ →
          job₁.course.IsCommitted → cell ∈ job₁.course.touches →
          ¬ (job₀.closing < job₁.closing ∧ job₁.closing < job.closing) := by
  intro h
  have hf : t.Faithful h := t.faithful_run hstore moves
  have hm : AllMinted world.etags h := Setting.minted_run t.setting world moves
  have hzero : h.past 0 = .empty := (t.past_zero_run hstore moves).trans hempty
  -- Who wrote an etag; who replaced the row that carries it; and who wrote what was replaced.
  refine ⟨fun id job cell bytes hw hwhat => ?_, fun id id' job job' cell etag hu hu' =>
    hu.unique hu' hf hm hfew hzero, fun id job cell etag hu => hu.exists_wrote hf hm hfew hzero⟩
  obtain ⟨answer, -, ho⟩ := hf.committed hw.known hw.committed
  obtain ⟨etag, hetag, -⟩ := ho.etagAt?_of_writes hw.writes
  refine ⟨etag, hetag, fun id' job' cell' bytes' hw' hetag' => ?_⟩
  exact hw.ext_of_etagAt? hf hm hfew hwhat hw' (hetag'.trans hetag.symm)

/-! ## Two updates -/

namespace Sample

/-- A row is inserted, and two callers that have read it update it. -/
def raceMoves : List (Move Action) :=
  alone 0 (.insertRow entry .initial) 24 ++ alone 1 (.updateRow entry "0-00000000" .initial) 7 ++
    alone 2 (.updateRow entry "0-00000000" .initial) 30 ++ List.replicate 30 (.call 1) ++
    List.replicate 30 (.call 2)

/-- The history of two updates of one row. -/
def race : Run :=
  table.setting.run world raceMoves

end Sample

/-- The update that wins replaces a row whose etag one write carries. -/
theorem exists_wrote_race :
    Sample.world.store? Sample.table.store = some .empty ∧ Store.empty.committed = .empty ∧
    Sample.race.system.world.etags.count ≤ Etag.limit ∧
    ∃ id₀ job₀ bytes, Wrote Sample.race id₀ job₀ (Sample.table.rowCell Sample.address) bytes ∧
      Sample.table.etagAt? (Sample.table.rowCell Sample.address) bytes = some "0-00000000" := by
  -- The second job updates what the first one wrote.
  have hjobs : (Sample.race.jobs[1]?.any fun job =>
      job.what = .updateRow Sample.entry "0-00000000" .initial ∧
        job.course.IsCommitted) = true := by decide +kernel
  obtain ⟨hsome, hjob⟩ := (Option.any_eq_true_iff_get _ _).1 hjobs
  obtain ⟨hwhat, hcommitted⟩ := of_decide_eq_true hjob
  have hu : Sample.table.IsUpdate Sample.race 1 _ (Sample.table.rowCell Sample.address)
      "0-00000000" :=
    ⟨(Option.some_get hsome).symm, ⟨_, _, hwhat, rfl⟩, .inr hcommitted⟩
  have hfew : Sample.race.system.world.etags.count ≤ Etag.limit := by decide +kernel
  refine ⟨rfl, rfl, hfew, ?_⟩
  unfold Sample.race at hu hfew ⊢
  obtain ⟨id₀, job₀, bytes, hw, hetag, -⟩ :=
    (update_replaces_what_was_read Sample.table (s := .empty) rfl rfl Sample.raceMoves hfew).2.2
      _ _ _ _ hu
  exact ⟨id₀, job₀, bytes, hw, hetag⟩

end Table

end Muster
