import Muster.Proofs.Stored.RoundTrip
import Muster.Proofs.Table.History

/-!
# What deletions leave

A deletion clears the rows that it has seen in its snapshot and the version. A row that was inserted
after the snapshot is not among them, so it is left, and no version goes with it any more
(`deletion_leaves_unseen`). This is all that can go wrong: a deletion beside which nothing is
inserted leaves no row, and as long as no deletion leaves one, the number of the version is at least
the number of rows (`IsKept`).
-/

namespace Muster.Table

variable {t : Table} {h : Run} {s : Store} {c c' : Contents} {id : TaskId} {job : Job Action}
  {answer : Answer}

/-- If there are rows, then there is a version record, whose number is at least the number of rows
unless it is the largest one. -/
def IsCounted (t : Table) (c : Contents) : Prop :=
  c.rows t.stateName ≠ [] → ∃ bytes version, c.find? t.versionCell = some bytes ∧
    Stored.versionOfBytes? bytes = .ok version ∧
    (version.number = Int32.maxValue ∨
      ((c.rows t.stateName).length : Int) ≤ version.number.toInt)

/-- A deletion that has committed. -/
structure IsDeletion (t : Table) (h : Run) (id : TaskId) (job : Job Action) : Prop where
  /-- It is one of the history. -/
  known : h.jobs[id]? = some job
  /-- It is for the cluster of the table. -/
  what : job.what = .deleteEntries t.clusterId
  /-- It has committed. -/
  committed : job.course.IsCommitted

/-- The rows that there are after an operation has ended. -/
def leftBy (t : Table) (h : Run) (job : Job Action) : List Row :=
  (h.past (job.closing + 1)).rows t.stateName

/-! ## Deletions -/

/-- What a deletion leaves in each cell. -/
theorem IsDeletion.find?_after (hdel : t.IsDeletion h id job) (hf : t.Faithful h) (cell : Cell) :
    (h.past (job.closing + 1)).find? cell =
      if cell = t.versionCell ∨
        cell.dictionary = t.stateName ∧ ((h.past job.opening).find? cell).isSome = true then none
      else (h.past job.closing).find? cell := by
  obtain ⟨answer, hserves, -⟩ := hf.committed hdel.known hdel.committed
  have heffect := hserves.effect
  rw [hdel.what] at heffect
  generalize job.course.etags = etags at heffect
  cases heffect with
  | ignoredDelete clusterId hne hafter => exact absurd rfl hne
  | deleted hafter => exact hafter cell

/-- A deletion leaves the rows that are not in its snapshot. -/
theorem IsDeletion.mem_leftBy (hdel : t.IsDeletion h id job) (hf : t.Faithful h) (row : Row) :
    row ∈ t.leftBy h job ↔ row ∈ (h.past job.closing).rows t.stateName ∧
      (h.past job.opening).find? ⟨t.stateName, row.1⟩ = none := by
  rw [leftBy, Contents.mem_rows, Contents.mem_rows, ← SortedMap.find?_eq_some_iff,
    ← SortedMap.find?_eq_some_iff, hdel.find?_after hf, ← Option.not_isSome_iff_eq_none]
  have hcell : Cell.mk t.stateName row.1 ≠ t.versionCell := ne_versionCell rfl
  split
  · rename_i hcleared
    have hsome := (hcleared.resolve_left hcell).2
    simp [hsome]
  · rename_i hkept
    have hnone := fun hsome => hkept (.inr ⟨rfl, hsome⟩)
    exact ⟨fun hrow => ⟨hrow, hnone⟩, fun hrow => hrow.1⟩

/-- A deletion beside which nothing is inserted leaves no row. -/
theorem IsDeletion.leftBy_eq_nil (hdel : t.IsDeletion h id job) (hf : t.Faithful h)
    (hund : IsUndisturbed h job) : t.leftBy h job = [] := by
  obtain ⟨answer, hserves, -⟩ := hf.committed hdel.known hdel.committed
  rw [List.eq_nil_iff_forall_not_mem]
  intro row hrow
  obtain ⟨hbefore, hnone⟩ := (hdel.mem_leftBy hf row).1 hrow
  have hsome : ((h.past job.closing).find? ⟨t.stateName, row.1⟩).isSome = true :=
    Option.isSome_iff_exists.2 ⟨row.2, SortedMap.find?_eq_some_iff.2 (Contents.mem_rows.1 hbefore)⟩
  have hseen := hf.isSome_of_isUndisturbed hdel.known hserves hund rfl hsome
  rw [hnone] at hseen
  exact absurd hseen (by simp)

/-- A deletion leaves no version. -/
theorem IsDeletion.version_after (hdel : t.IsDeletion h id job) (hf : t.Faithful h) :
    (h.past (job.closing + 1)).find? t.versionCell = none := by
  rw [hdel.find?_after hf, if_pos (.inl rfl)]

/-! ## The number of the version -/

/-- The invariant behind `IsCounted`: it also says that the number of a version is not negative,
even without rows. -/
structure IsKept (t : Table) (c : Contents) : Prop where
  /-- A version counts the rows. -/
  counts : ∀ bytes, c.find? t.versionCell = some bytes → ∃ version,
    Stored.versionOfBytes? bytes = .ok version ∧ 0 ≤ version.number.toInt ∧
    (version.number = Int32.maxValue ∨
      ((c.rows t.stateName).length : Int) ≤ version.number.toInt)
  /-- Without a version there are no rows. -/
  missing : c.find? t.versionCell = none → c.rows t.stateName = []

/-- Contents that are kept are counted. -/
theorem IsKept.isCounted (hk : t.IsKept c) : t.IsCounted c := by
  intro hrows
  cases hversion : c.find? t.versionCell with
  | none => exact absurd (hk.missing hversion) hrows
  | some bytes =>
    obtain ⟨version, hread, -, hcount⟩ := hk.counts bytes hversion
    exact ⟨bytes, version, rfl, hread, hcount⟩

/-- Below the largest number a version moves on by one. -/
theorem Version.toInt_number_next (v : Version) (etag : String)
    (hne : v.number ≠ Int32.maxValue) : (v.next etag).number.toInt = v.number.toInt + 1 := by
  have hmax : v.number.toInt ≠ Int32.maxValue.toInt := fun heq => hne (Int32.toInt_inj.1 heq)
  have hle := v.number.toInt_le
  have hge := v.number.le_toInt
  rw [next, if_neg hne, Int32.toInt_add]
  have hone : (1 : Int32).toInt = 1 := rfl
  have hvalue : Int32.maxValue.toInt = 2147483647 := rfl
  rw [hone]
  rw [hvalue] at hmax
  rw [Int.bmod_eq_of_le (by omega) (by omega)]

/-- The number of the version that an operation reads counts the rows. -/
theorem IsKept.counts_versionOf (hk : t.IsKept c) {version : Version}
    (hversion : versionOf? (c.find? t.versionCell) = .ok version) :
    0 ≤ version.number.toInt ∧ (version.number = Int32.maxValue ∨
      ((c.rows t.stateName).length : Int) ≤ version.number.toInt) := by
  -- Without a record the version is the initial one, and then there are no rows to count.
  cases hstored : c.find? t.versionCell with
  | none =>
    rw [hstored] at hversion
    obtain rfl : Version.initial = version := Except.ok.inj hversion
    rw [hk.missing hstored]
    exact ⟨by decide, .inr (by decide)⟩
  | some bytes =>
    rw [hstored] at hversion
    obtain ⟨version', hread, hcount⟩ := hk.counts bytes hstored
    obtain rfl := Except.ok.inj (hread.symm.trans hversion)
    exact hcount

/-- When the version moves on, there may be one more row. -/
theorem IsKept.advance (hk : t.IsKept c) {version : Version} {etag : String}
    (hversion : versionOf? (c.find? t.versionCell) = .ok version)
    (hafter : c'.find? t.versionCell = some (Stored.versionToBytes (version.next etag)))
    (hrows : (c'.rows t.stateName).length ≤ (c.rows t.stateName).length + 1) : t.IsKept c' where
  counts bytes hbytes := by
    obtain rfl := Option.some.inj (hafter.symm.trans hbytes)
    refine ⟨version.next etag, Stored.versionOfBytes?_versionToBytes _, ?_⟩
    obtain ⟨hnonneg, hcount⟩ := hk.counts_versionOf hversion
    -- At the largest number the version stays where it is.
    by_cases hmax : version.number = Int32.maxValue
    · have hsame : (version.next etag).number = version.number := if_pos hmax
      rw [hsame]
      exact ⟨hnonneg, .inl hmax⟩
    · have hnext := version.toInt_number_next etag hmax
      have hle := hcount.resolve_left hmax
      rw [hnext]
      omega
  missing hnone := absurd (hafter.symm.trans hnone) (by simp)

/-- Whatever keeps the version and the number of rows keeps the invariant. -/
theorem IsKept.frame (hk : t.IsKept c) (hversion : c'.find? t.versionCell = c.find? t.versionCell)
    (hrows : (c'.rows t.stateName).length = (c.rows t.stateName).length) : t.IsKept c' where
  counts bytes hbytes := by
    rw [hversion] at hbytes
    rw [hrows]
    exact hk.counts bytes hbytes
  missing hnone := by
    rw [hversion] at hnone
    rw [← List.length_eq_zero_iff, hrows, hk.missing hnone]
    rfl

/-- Every change keeps the invariant, unless it is that of a deletion that leaves a row. -/
theorem IsKept.after {snapshot : Contents} {action : Action} (hk : t.IsKept c)
    (hc : t.Change snapshot c c' action)
    (hleft : action = .deleteEntries t.clusterId → c'.rows t.stateName = []) : t.IsKept c' := by
  -- Only a row more or less changes the count, and these are the changes that advance the version.
  cases hc with
  | still action hafter => rwa [hafter]
  | created hversion hafter =>
    have hrows : c'.rows t.stateName = [] := by
      rw [← hk.missing hversion]
      refine Contents.rows_congr fun key => ?_
      rw [hafter, if_neg (ne_versionCell rfl)]
    refine ⟨fun bytes hbytes => ?_, fun _ => hrows⟩
    rw [hafter, if_pos rfl] at hbytes
    obtain rfl := Option.some.inj hbytes
    refine ⟨.initial, Stored.versionOfBytes?_versionToBytes _, by decide, .inr ?_⟩
    rw [hrows]
    exact by decide
  | inserted entry expected rowEtag versionEtag version hrow hversion hafter =>
    have hnext : c'.find? t.versionCell =
        some (Stored.versionToBytes (version.next versionEtag)) := by
      rw [hafter, if_pos rfl]
    exact hk.advance hversion hnext (Nat.le_of_eq (length_rows_added hrow hafter))
  | updated entry etag expected rowEtag versionEtag version hrow hversion hafter =>
    have hnext : c'.find? t.versionCell =
        some (Stored.versionToBytes (version.next versionEtag)) := by
      rw [hafter, if_pos rfl]
    exact hk.advance hversion hnext
      (Nat.le_succ_of_le (Nat.le_of_eq (length_rows_replaced hrow hafter)))
  | beaten entry bytes hrow hafter =>
    refine hk.frame ?_ (Contents.length_rows_congr fun key => ?_)
    · rw [hafter, if_neg (ne_versionCell rfl).symm]
    · rw [hafter, isSome_replaced hrow]
  -- Without a record there must be no row left, which is what `hleft` is about.
  | cleared hafter =>
    have hnone : c'.find? t.versionCell = none := by rw [hafter, if_pos (.inl rfl)]
    exact ⟨fun bytes hbytes => absurd (hnone.symm.trans hbytes) (by simp), fun _ => hleft rfl⟩

/-- As long as no deletion leaves a row, the number of the version counts the rows. -/
theorem Faithful.isKept (hf : t.Faithful h) (hempty : h.past 0 = .empty)
    (hleft : ∀ id job, t.IsDeletion h id job → t.leftBy h job = []) (n : Nat) (hn : n ≤ h.now) :
    t.IsKept (h.past n) := by
  induction n with
  | zero =>
    rw [hempty]
    exact ⟨fun bytes hbytes => absurd hbytes (by simp), fun _ => rfl⟩
  | succ n ih =>
    have hk := ih (Nat.le_of_succ_le hn)
    by_cases hpast : h.past (n + 1) = h.past n
    · rwa [hpast]
    · obtain ⟨id, job, answer, hjob, hcommitted, rfl, hserves⟩ := hf.effect_of_ne hn hpast
      exact hk.after hserves.effect.change fun hwhat => hleft id job ⟨hjob, hwhat, hcommitted⟩

/-- **A deletion leaves the rows that were inserted after its snapshot, and no others; the number of
the version counts the rows exactly as long as no deletion leaves a row.** -/
theorem deletion_leaves_unseen (t : Table) {world : World} {s : Store}
    (hstore : world.store? t.store = some s) (hempty : s.committed = .empty)
    (moves : List (Move Action)) :
    let h := t.setting.run world moves
    (∀ id job, t.IsDeletion h id job → ∀ row, row ∈ t.leftBy h job ↔
      row ∈ (h.past job.closing).rows t.stateName ∧
        (h.past job.opening).find? ⟨t.stateName, row.1⟩ = none) ∧
    (∀ id job, t.IsDeletion h id job → IsUndisturbed h job → t.leftBy h job = []) ∧
    ((∀ n ≤ h.now, t.IsCounted (h.past n)) ↔
      ∀ id job, t.IsDeletion h id job → t.leftBy h job = []) := by
  intro h
  have hf : t.Faithful h := t.faithful_run hstore moves
  refine ⟨fun id job hdel => hdel.mem_leftBy hf, fun id job hdel => hdel.leftBy_eq_nil hf, ?_, ?_⟩
  · -- If a deletion leaves rows, then they are without a version right after it.
    intro hcounted id job hdel
    by_contra hrows
    obtain ⟨answer, hserves, -⟩ := hf.committed hdel.known hdel.committed
    have hnow : job.closing + 1 ≤ h.now := Nat.lt_of_le_of_lt hserves.closing.1 hserves.closing.2
    obtain ⟨bytes, version, hversion, -⟩ := hcounted _ hnow hrows
    exact absurd ((hdel.version_after hf).symm.trans hversion) (by simp)
  · intro hleft n hn
    have hzero : h.past 0 = .empty := (t.past_zero_run hstore moves).trans hempty
    exact (hf.isKept hzero hleft n hn).isCounted

/-! ## A deletion beside an insertion -/

namespace Sample

/-- A deletion takes its snapshot, a row is inserted, and then the deletion commits. -/
def lateInsertionMoves : List (Move Action) :=
  alone 0 (.deleteEntries "cluster") 13 ++ alone 1 (.insertRow entry .initial) 17 ++
    List.replicate 9 (.call 0)

/-- The history of a deletion that does not see an insertion. -/
def lateInsertion : Run :=
  table.setting.run world lateInsertionMoves

end Sample

/-- The number of the version counts the rows of this history exactly if its deletion leaves
none. -/
theorem isCounted_lateInsertion_iff :
    Sample.world.store? Sample.table.store = some .empty ∧ Store.empty.committed = .empty ∧
    ((∀ n ≤ Sample.lateInsertion.now, Sample.table.IsCounted (Sample.lateInsertion.past n)) ↔
      ∀ id job, Sample.table.IsDeletion Sample.lateInsertion id job →
        Sample.table.leftBy Sample.lateInsertion job = []) := by
  unfold Sample.lateInsertion
  exact ⟨rfl, rfl, (deletion_leaves_unseen Sample.table (s := .empty) rfl rfl
    Sample.lateInsertionMoves).2.2⟩

/-- The deletion leaves the row that was inserted before it committed, and a row goes without a
version. -/
theorem lateInsertion_is_left :
    (∃ id job, Sample.table.IsDeletion Sample.lateInsertion id job ∧
      ∃ row ∈ (Sample.lateInsertion.past job.closing).rows Sample.table.stateName,
        row ∈ Sample.table.leftBy Sample.lateInsertion job) ∧
    ∃ n ≤ Sample.lateInsertion.now, ¬ Sample.table.IsCounted (Sample.lateInsertion.past n) := by
  -- The deletion commits at move 38 and leaves a row, without a version record.
  have hjobs : (Sample.lateInsertion.jobs[0]?.any fun job =>
      job.what = .deleteEntries Sample.table.clusterId ∧ job.course.IsCommitted ∧
        job.closing = 38) = true := by decide +kernel
  have hsame : (Sample.lateInsertion.past (38 + 1)).rows Sample.table.stateName =
      (Sample.lateInsertion.past 38).rows Sample.table.stateName := by decide +kernel
  have hrows : (Sample.lateInsertion.past (38 + 1)).rows Sample.table.stateName ≠ [] := by
    decide +kernel
  have hversion : (Sample.lateInsertion.past (38 + 1)).find? Sample.table.versionCell = none := by
    decide +kernel
  have hnow : 38 + 1 ≤ Sample.lateInsertion.now := by decide +kernel
  obtain ⟨hsome, hjob⟩ := (Option.any_eq_true_iff_get _ _).1 hjobs
  obtain ⟨hwhat, hcommitted, hclosing⟩ := of_decide_eq_true hjob
  -- The row is one that was left; and with it the contents after the deletion are not counted.
  refine ⟨⟨0, _, ⟨(Option.some_get hsome).symm, hwhat, hcommitted⟩, ?_⟩, 38 + 1, hnow, fun hk => ?_⟩
  · obtain ⟨row, hrow⟩ := List.exists_mem_of_ne_nil _ hrows
    refine ⟨row, ?_, ?_⟩
    · rw [hclosing, ← hsame]
      exact hrow
    · rw [leftBy, hclosing]
      exact hrow
  · obtain ⟨bytes, version, hfound, -⟩ := hk hrows
    rw [hversion] at hfound
    exact absurd hfound (by simp)

end Muster.Table
