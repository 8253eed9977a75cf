import Muster.Proofs.System.Minted
import Muster.Proofs.Table.Deletion

/-!
# The version counts changes and detects them

Insertions and updates move the version on in the same commit as the row, and nothing else touches
it as long as nothing is deleted. So the number of the version says how many of them there were
(`Tallies.number`), and two readings of one version have seen the same rows, up to the time and the
etag that heartbeats replace (`version_counts_changes`). At the largest number only the etag moves;
there the readings are told apart by the job that was given the etag (`Tallies.stamp`).
-/

namespace Muster.Table

open Setting (AllMinted)
open Stored (Record)

variable {t : Table} {h : Run} {s : Store} {id id' : TaskId} {job job' : Job Action}
  {answer : Answer} {action : Action} {snapshot before after c c' c'' : Contents}
  {etags : List String} {kind : Action → Bool} {v v₀ : Version} {source : Etag.Source} {n m : Nat}

namespace Action

/-- Insertions and updates, which move the version on when they commit. -/
def isStructural : Action → Bool
  | .insertRow _ _ => true
  | .updateRow _ _ _ => true
  | _ => false

/-- Insertions, which add a row when they commit. -/
def isInsertion : Action → Bool
  | .insertRow _ _ => true
  | _ => false

/-- Deletions of the rows of a cluster. -/
def isDeletion : Action → Bool
  | .deleteEntries _ => true
  | _ => false

/-- An insertion is structural. -/
theorem isStructural_of_isInsertion (h : action.isInsertion = true) :
    action.isStructural = true := by
  cases action with
  | insertRow entry expected => rfl
  | _ => exact absurd h (by simp [isInsertion])

end Action

/-- How many operations of a kind have committed before a moment. -/
def commitsBefore (h : Run) (kind : Action → Bool) (n : Nat) : Nat :=
  h.jobs.countP fun job => kind job.what ∧ job.course.IsCommitted ∧ job.closing < n

/-- Rows that agree up to what a heartbeat replaces. -/
def SameButBeats (bytes bytes' : Bytes) : Prop :=
  ∃ record record', Record.ofBytes? bytes = .ok record ∧ Record.ofBytes? bytes' = .ok record' ∧
    record.beat record'.aliveTime record'.etag = record'

/-- Contents with the same rows up to what heartbeats replace. -/
def AgreesButBeats (t : Table) (c c' : Contents) : Prop :=
  ∀ cell, cell.dictionary = t.stateName →
    Option.Rel SameButBeats (c.find? cell) (c'.find? cell)

/-- A reading has returned a roster. -/
structure IsReading (h : Run) (id : TaskId) (job : Job Action) (roster : Roster) : Prop where
  /-- It is one of the history. -/
  known : h.jobs[id]? = some job
  /-- It has returned the roster. -/
  returned : h.result? id = some (.ok (.roster roster))

/-- Nothing is deleted in a history. -/
def DeletesNothing (h : Run) : Prop :=
  ∀ job ∈ h.jobs, job.what.isDeletion = false

/-- A moment at which an insertion or an update commits. -/
def IsMoved (h : Run) (n : Nat) : Prop :=
  ∃ (id : TaskId) (job : Job Action), h.jobs[id]? = some job ∧ job.course.IsCommitted ∧
    job.what.isStructural = true ∧ job.closing = n

/-! ## Counting commits -/

/-- One more item is counted if one that was not counted is counted now. -/
theorem countP_add_one {α : Type} {p q : α → Bool} {l : List α} {i : Nat} {a : α}
    (hi : l[i]? = some a) (hp : p a = false) (hq : q a = true)
    (hsame : ∀ j b, l[j]? = some b → j ≠ i → q b = p b) : l.countP q = l.countP p + 1 := by
  -- Along the list; at the place `i` the one that was not counted is, elsewhere nothing changes.
  induction l generalizing i with
  | nil => exact absurd hi (by simp)
  | cons b l ih =>
    rw [List.countP_cons, List.countP_cons]
    cases i with
    | zero =>
      obtain rfl : b = a := Option.some.inj hi
      have hrest : l.countP q = l.countP p := List.countP_congr fun x hx => by
        obtain ⟨j, hj⟩ := List.mem_iff_getElem?.1 hx
        rw [hsame (j + 1) x hj (Nat.succ_ne_zero j)]
      rw [hrest, hp, hq]
      rfl
    | succ i =>
      rw [ih hi fun j x hj hne => hsame (j + 1) x hj fun heq => hne (Nat.succ.inj heq),
        hsame 0 b rfl (Nat.succ_ne_zero i).symm]
      omega

/-- No commit is counted before the first moment. -/
theorem commitsBefore_zero (h : Run) (kind : Action → Bool) : commitsBefore h kind 0 = 0 := by
  rw [commitsBefore, List.countP_eq_zero]
  simp

/-- The count grows with the moments. -/
theorem commitsBefore_mono (h : Run) (kind : Action → Bool) (hle : m ≤ n) :
    commitsBefore h kind m ≤ commitsBefore h kind n := by
  refine List.countP_mono_left fun job _ hjob => ?_
  obtain ⟨hkind, hcommitted, hlt⟩ := of_decide_eq_true hjob
  exact decide_eq_true ⟨hkind, hcommitted, Nat.lt_of_lt_of_le hlt hle⟩

/-- At the commit of an operation of the kind the count moves on by one. -/
theorem Faithful.commitsBefore_succ (hf : t.Faithful h) (kind : Action → Bool)
    (hjob : h.jobs[id]? = some job) (hcommitted : job.course.IsCommitted)
    (hkind : kind job.what = true) :
    commitsBefore h kind (job.closing + 1) = commitsBefore h kind job.closing + 1 := by
  obtain ⟨answer, hserves, -⟩ := hf.committed hjob hcommitted
  refine countP_add_one hjob (by simp) (decide_eq_true ⟨hkind, hcommitted, Nat.lt_succ_self _⟩)
    fun id' job' hjob' hne => decide_eq_decide.2 ?_
  -- Any other job of the kind commits at another moment.
  refine and_congr_right fun _ => and_congr_right fun hcommitted' => ?_
  obtain ⟨answer', hserves', -⟩ := hf.committed hjob' hcommitted'
  have hclosing : job'.closing ≠ job.closing := fun hsame =>
    hne (Faithful.eq_of_closing hserves' hserves hsame)
  omega

/-- Without a commit of the kind the count stays. -/
theorem commitsBefore_succ_of_not (hnot : ∀ (id : TaskId) (job : Job Action),
    h.jobs[id]? = some job → job.course.IsCommitted → kind job.what = true → job.closing ≠ n) :
    commitsBefore h kind (n + 1) = commitsBefore h kind n := by
  refine List.countP_congr fun job hjob => ?_
  obtain ⟨id, hid⟩ := List.mem_iff_getElem?.1 hjob
  rw [decide_eq_true_iff, decide_eq_true_iff]
  refine and_congr_right fun hkind => and_congr_right fun hcommitted => ?_
  have hclosing := hnot id job hid hcommitted hkind
  omega

/-! ## Rows up to heartbeats -/

/-- All rows can be read. -/
def HasRecords (t : Table) (c : Contents) : Prop :=
  ∀ cell bytes, cell.dictionary = t.stateName → c.find? cell = some bytes →
    ∃ record, Record.ofBytes? bytes = .ok record

/-- What differs by heartbeats twice differs by heartbeats. -/
theorem SameButBeats.trans {bytes bytes' bytes'' : Bytes} (h : SameButBeats bytes bytes')
    (h' : SameButBeats bytes' bytes'') : SameButBeats bytes bytes'' := by
  obtain ⟨record, middle, hrecord, hmiddle, hbeat⟩ := h
  obtain ⟨middle', record', hmiddle', hrecord', hbeat'⟩ := h'
  obtain rfl := Except.ok.inj (hmiddle.symm.trans hmiddle')
  refine ⟨record, record', hrecord, hrecord', ?_⟩
  calc record.beat record'.aliveTime record'.etag
      = (record.beat middle.aliveTime middle.etag).beat record'.aliveTime record'.etag := rfl
    _ = middle.beat record'.aliveTime record'.etag := by rw [hbeat]
    _ = record' := hbeat'

/-- What differs by heartbeats one way differs by heartbeats the other way. -/
theorem SameButBeats.symm {bytes bytes' : Bytes} (h : SameButBeats bytes bytes') :
    SameButBeats bytes' bytes := by
  obtain ⟨record, record', hrecord, hrecord', hbeat⟩ := h
  refine ⟨record', record, hrecord', hrecord, ?_⟩
  rw [← hbeat]
  rfl

/-- Cells that agree but for heartbeats hold a row alike. -/
theorem SameButBeats.isSome_eq {x y : Option Bytes} (h : Option.Rel SameButBeats x y) :
    y.isSome = x.isSome := by
  cases h with
  | some hsame => rfl
  | none => rfl

/-- So do cells. -/
theorem SameButBeats.rel_symm {x y : Option Bytes} (h : Option.Rel SameButBeats x y) :
    Option.Rel SameButBeats y x := by
  cases h with
  | some hsame => exact .some hsame.symm
  | none => exact .none

/-- So do cells that differ by heartbeats twice. -/
theorem SameButBeats.rel_trans {x y z : Option Bytes} (h : Option.Rel SameButBeats x y)
    (h' : Option.Rel SameButBeats y z) : Option.Rel SameButBeats x z := by
  cases h with
  | some hsame =>
    cases h' with
    | some hsame' => exact .some (hsame.trans hsame')
  | none =>
    cases h' with
    | none => exact .none

namespace AgreesButBeats

/-- Contents agree with themselves, if their rows are records. -/
theorem refl (hr : t.HasRecords c) : t.AgreesButBeats c c := by
  intro cell hcell
  cases hfound : c.find? cell with
  | none => exact .none
  | some bytes =>
    obtain ⟨record, hrecord⟩ := hr cell bytes hcell hfound
    exact .some ⟨record, record, hrecord, hrecord, rfl⟩

/-- Contents agree either way round. -/
theorem symm (ha : t.AgreesButBeats c c') : t.AgreesButBeats c' c :=
  fun cell hcell => SameButBeats.rel_symm (ha cell hcell)

/-- What agrees with contents agrees with all that they agree with. -/
theorem trans (ha : t.AgreesButBeats c c') (ha' : t.AgreesButBeats c' c'') :
    t.AgreesButBeats c c'' :=
  fun cell hcell => SameButBeats.rel_trans (ha cell hcell) (ha' cell hcell)

/-- What agrees with records consists of records. -/
theorem hasRecords (ha : t.AgreesButBeats c c') : t.HasRecords c' := by
  intro cell bytes hcell hfound
  have hrel := SameButBeats.rel_symm (ha cell hcell)
  rw [hfound] at hrel
  generalize c.find? cell = x at hrel
  cases hrel with
  | some hsame =>
    obtain ⟨record, -, hrecord, -, -⟩ := hsame
    exact ⟨record, hrecord⟩

/-- Contents that agree have equally many rows. -/
theorem length_rows (ha : t.AgreesButBeats c c') :
    (c'.rows t.stateName).length = (c.rows t.stateName).length :=
  Contents.length_rows_congr fun key => SameButBeats.isSome_eq (ha ⟨t.stateName, key⟩ rfl)

end AgreesButBeats

/-! ## What moves the version -/

/-- The version moves on to one with a new etag, and at most one row is added or replaced. -/
structure Advances (t : Table) (before after : Contents) (action : Action) (etags : List String) :
    Prop where
  /-- The version moves on. -/
  version : ∃ v etag, etag ∈ etags ∧ versionOf? (before.find? t.versionCell) = .ok v ∧
    versionOf? (after.find? t.versionCell) = .ok (v.next etag)
  /-- An insertion adds a row. -/
  rows : (after.rows t.stateName).length =
    (before.rows t.stateName).length + if action.isInsertion then 1 else 0
  /-- The rows can still be read. -/
  records : t.HasRecords before → t.HasRecords after

/-- The version stays, and so do the rows up to heartbeats. -/
structure Keeps (t : Table) (before after : Contents) : Prop where
  /-- The version stays. -/
  version : versionOf? (after.find? t.versionCell) = versionOf? (before.find? t.versionCell)
  /-- The rows stay. -/
  rows : t.HasRecords before → t.AgreesButBeats before after

/-- Contents that stay as they are keep the version and the rows. -/
theorem Keeps.refl (t : Table) (c : Contents) : t.Keeps c c :=
  ⟨rfl, .refl⟩

/-- An insertion or an update that has committed has done what it was to do. -/
theorem Outcome.answer_of_isStructural {k : Course} (ho : t.Outcome action k answer)
    (hcommitted : k.IsCommitted) (hstructural : action.isStructural = true) :
    answer = .flag true := by
  obtain ⟨ticket, hstage⟩ := hcommitted
  cases ho with
  | inserted => rfl
  | updated => rfl
  | rowExists => exact absurd hstage (by simp)
  | noRowToUpdate => exact absurd hstage (by simp)
  | etagMismatch => exact absurd hstage (by simp)
  | _ => exact absurd hstructural (by simp [Action.isStructural])

/-- A row that is written together with the version can be read, and so can all others. -/
theorem HasRecords.advance (hr : t.HasRecords before) {version : Bytes} {entry : Silo.Entry}
    {etag : String} (hafter : ∀ cell, after.find? cell =
      if cell = t.versionCell then some version
      else if cell = t.rowCell entry.address then some (t.rowBytes entry etag)
      else before.find? cell) : t.HasRecords after := by
  intro cell bytes hcell hfound
  rw [hafter, if_neg (ne_versionCell hcell)] at hfound
  split at hfound
  · obtain rfl := Option.some.inj hfound
    exact ⟨_, Stored.ofBytes?_toBytes _⟩
  · exact hr cell bytes hcell hfound

/-- An insertion or an update that was made moves the version on. -/
theorem Effect.advances (he : t.Effect snapshot before after action etags answer)
    (hanswer : answer = .flag true) : t.Advances before after action etags := by
  -- The version record is written by the two changes that advance, in one way.
  have hnext : ∀ {v : Version} {rest : Cell → Option Bytes}, (∀ cell, after.find? cell =
      if cell = t.versionCell then some (Stored.versionToBytes v) else rest cell) →
      versionOf? (after.find? t.versionCell) = .ok v := by
    intro v rest hafter
    rw [hafter, if_pos rfl]
    exact Stored.versionOfBytes?_versionToBytes v
  -- A flag `true` is answered by an insertion and by an update alone.
  cases he with
  | inserted entry expected rowEtag versionEtag version hrow hversion hafter =>
    exact ⟨⟨version, versionEtag, List.mem_cons_self, hversion, hnext hafter⟩,
      length_rows_added hrow hafter, (·.advance hafter)⟩
  | updated entry expected rowEtag versionEtag bytes record version hrecord hrow hversion hafter =>
    have hsome : (before.find? (t.rowCell entry.address)).isSome = true := by
      rw [hrow]
      rfl
    exact ⟨⟨version, versionEtag, List.mem_cons_self, hversion, hnext hafter⟩,
      length_rows_replaced hsome hafter, (·.advance hafter)⟩
  | _ => exact absurd hanswer (by simp)

/-- Whatever else an operation does, except deleting, keeps the version and the rows up to
heartbeats. -/
theorem Effect.keeps (he : t.Effect snapshot before after action etags answer)
    (hstructural : action.isStructural = false)
    (hkept : action.isDeletion = false) : t.Keeps before after := by
  -- Most effects change nothing at all.
  have hstill : after = before → t.Keeps before after := fun hafter => hafter ▸ .refl t before
  cases he with
  | createdVersion hversion hafter =>
    refine ⟨?_, fun hr cell hcell => ?_⟩
    · rw [hafter, if_pos rfl, hversion]
      exact Stored.versionOfBytes?_versionToBytes _
    · rw [hafter, if_neg (ne_versionCell hcell)]
      exact AgreesButBeats.refl hr cell hcell
  -- A heartbeat replaces a row by one that differs in its time only.
  | beaten entry rowEtag bytes record hrecord hrow hafter =>
    refine ⟨?_, fun hr cell hcell => ?_⟩
    · rw [hafter, if_neg (ne_versionCell rfl).symm]
    · rw [hafter]
      split
      · rename_i hcell'
        rw [hcell', hrow]
        exact .some ⟨record, _, hrecord, Stored.ofBytes?_toBytes _, rfl⟩
      · exact AgreesButBeats.refl hr cell hcell
  | prepared hafter => exact hstill hafter
  | versionExists hversion hafter => exact hstill hafter
  | noRowForHeartbeat entry hrow hafter => exact hstill hafter
  | rowRead address members version hversion hmembers hafter => exact hstill hafter
  | allRead members version hversion hmembers hafter => exact hstill hafter
  | ignoredDelete => exact absurd hkept (by simp [Action.isDeletion])
  | deleted => exact absurd hkept (by simp [Action.isDeletion])
  | _ => exact absurd hstructural (by simp [Action.isStructural])

/-- The commit of an insertion or an update moves the version on. -/
theorem Faithful.advances (hf : t.Faithful h) (hjob : h.jobs[id]? = some job)
    (hcommitted : job.course.IsCommitted) (hstructural : job.what.isStructural = true) :
    t.Advances (h.past job.closing) (h.past (job.closing + 1)) job.what job.course.etags := by
  obtain ⟨answer, hserves, ho⟩ := hf.committed hjob hcommitted
  exact hserves.effect.advances (ho.answer_of_isStructural hcommitted hstructural)

/-- At any other moment version and rows stay. -/
theorem Faithful.keeps (hf : t.Faithful h) (hkept : DeletesNothing h) (hn : n < h.now)
    (hnot : ¬ IsMoved h n) : t.Keeps (h.past n) (h.past (n + 1)) := by
  by_cases hpast : h.past (n + 1) = h.past n
  · rw [hpast]
    exact .refl t _
  · obtain ⟨id, job, answer, hjob, hcommitted, rfl, hserves⟩ := hf.effect_of_ne hn hpast
    refine hserves.effect.keeps ?_ (hkept job (List.mem_of_getElem? hjob))
    rw [← Bool.not_eq_true]
    exact fun hstructural => hnot ⟨id, job, hjob, hcommitted, hstructural, rfl⟩

/-! ## The number of the version -/

/-- The number of the next version, which stays at the largest one. -/
theorem Version.toInt_next (v : Version) (etag : String) :
    (v.next etag).number.toInt = min Int32.maxValue.toInt (v.number.toInt + 1) := by
  have hle := v.number.toInt_le
  have hvalue : Int32.maxValue.toInt = 2147483647 := rfl
  by_cases hmax : v.number = Int32.maxValue
  · have hsame : (v.next etag).number = v.number := if_pos hmax
    rw [hsame, hmax]
    omega
  · have hne : v.number.toInt ≠ Int32.maxValue.toInt := fun heq => hmax (Int32.toInt_inj.1 heq)
    rw [v.toInt_number_next etag hmax]
    omega

/-- What a version that is stored at a moment says about the commits before it. -/
structure Tallies (t : Table) (h : Run) (v₀ : Version) (n : Nat) (v : Version) : Prop where
  /-- It is the version at the moment. -/
  stored : versionOf? ((h.past n).find? t.versionCell) = .ok v
  /-- Its number counts the insertions and updates. -/
  number : v.number.toInt =
    min Int32.maxValue.toInt (v₀.number.toInt + commitsBefore h Action.isStructural n)
  /-- Its etag is that of the first version, or it was given to the last of them. -/
  stamp : (v.etag = v₀.etag ∧ ∀ m < n, ¬ IsMoved h m) ∨
    ∃ (id : TaskId) (job : Job Action), h.jobs[id]? = some job ∧ v.etag ∈ job.course.etags ∧
      job.closing < n ∧ ∀ m, job.closing < m → m < n → ¬ IsMoved h m
  /-- There are as many rows as insertions. -/
  rows : ((h.past n).rows t.stateName).length = commitsBefore h Action.isInsertion n
  /-- The rows can be read. -/
  records : t.HasRecords (h.past n)

/-- The first version counts nothing yet. -/
theorem Tallies.zero (hversion : versionOf? ((h.past 0).find? t.versionCell) = .ok v₀)
    (hrows : (h.past 0).rows t.stateName = []) : t.Tallies h v₀ 0 v₀ := by
  refine ⟨hversion, ?_, .inl ⟨rfl, fun m hm => absurd hm (Nat.not_lt_zero m)⟩, ?_, ?_⟩
  · rw [commitsBefore_zero]
    have hle := v₀.number.toInt_le
    have hvalue : Int32.maxValue.toInt = 2147483647 := rfl
    omega
  · rw [hrows, commitsBefore_zero]
    rfl
  · intro cell bytes hcell hfound
    have hmem : (cell.key, bytes) ∈ (h.past 0).rows t.stateName :=
      Contents.mem_rows.2 (SortedMap.find?_eq_some_iff.1 (hcell ▸ hfound))
    rw [hrows] at hmem
    exact absurd hmem (by simp)

/-- The commit of an insertion or an update counts one more. -/
theorem Tallies.moved (ht : t.Tallies h v₀ job.closing v) (hf : t.Faithful h)
    (hjob : h.jobs[id]? = some job) (hcommitted : job.course.IsCommitted)
    (hstructural : job.what.isStructural = true) :
    ∃ v', t.Tallies h v₀ (job.closing + 1) v' := by
  have hadvances := hf.advances hjob hcommitted hstructural
  obtain ⟨version, etag, hetag, hbefore, hafter⟩ := hadvances.version
  obtain rfl := Except.ok.inj (ht.stored.symm.trans hbefore)
  refine ⟨v.next etag, hafter, ?_, .inr ⟨id, job, hjob, hetag, Nat.lt_succ_self _, ?_⟩, ?_,
    hadvances.records ht.records⟩
  · rw [Version.toInt_next, ht.number,
      hf.commitsBefore_succ Action.isStructural hjob hcommitted hstructural]
    omega
  · intro m hm hm'
    exact absurd (Nat.lt_of_lt_of_le hm' hm) (Nat.lt_irrefl _)
  · rw [hadvances.rows, ht.rows]
    by_cases hinsertion : job.what.isInsertion = true
    · rw [if_pos hinsertion, hf.commitsBefore_succ Action.isInsertion hjob hcommitted hinsertion]
    · rw [if_neg hinsertion, commitsBefore_succ_of_not]
      · rfl
      · -- The only commit at this moment is that of the update.
        intro id' job' hjob' hcommitted' hinsertion' hsame
        obtain ⟨answer, hserves, -⟩ := hf.committed hjob hcommitted
        obtain ⟨answer', hserves', -⟩ := hf.committed hjob' hcommitted'
        obtain rfl := Faithful.eq_of_closing hserves' hserves hsame
        obtain rfl := Option.some.inj (hjob.symm.trans hjob')
        exact hinsertion hinsertion'

/-- At any other moment nothing is counted. -/
theorem Tallies.kept (ht : t.Tallies h v₀ n v) (hkeeps : t.Keeps (h.past n) (h.past (n + 1)))
    (hnot : ¬ IsMoved h n) : t.Tallies h v₀ (n + 1) v := by
  have hagrees := hkeeps.rows ht.records
  have hstructural : commitsBefore h Action.isStructural (n + 1) =
      commitsBefore h Action.isStructural n :=
    commitsBefore_succ_of_not fun id job hjob hcommitted hkind hclosing =>
      hnot ⟨id, job, hjob, hcommitted, hkind, hclosing⟩
  have hinsertion : commitsBefore h Action.isInsertion (n + 1) =
      commitsBefore h Action.isInsertion n :=
    commitsBefore_succ_of_not fun id job hjob hcommitted hkind hclosing =>
      hnot ⟨id, job, hjob, hcommitted, Action.isStructural_of_isInsertion hkind, hclosing⟩
  refine ⟨hkeeps.version.trans ht.stored, ?_, ?_, ?_, hagrees.hasRecords⟩
  · rw [hstructural]
    exact ht.number
  · -- Nothing has moved the version at this moment either.
    have hlast : ∀ {m}, m < n + 1 → (m < n → ¬ IsMoved h m) → ¬ IsMoved h m := by
      intro m hm hearlier
      rcases Nat.lt_succ_iff_lt_or_eq.1 hm with hlt | rfl
      · exact hearlier hlt
      · exact hnot
    rcases ht.stamp with ⟨hetag, hnone⟩ | ⟨id, job, hjob, hetag, hlt, hnone⟩
    · exact .inl ⟨hetag, fun m hm => hlast hm (hnone m)⟩
    · exact .inr ⟨id, job, hjob, hetag, Nat.lt_succ_of_lt hlt,
        fun m hm hm' => hlast hm' (hnone m hm)⟩
  · rw [hagrees.length_rows, hinsertion]
    exact ht.rows

/-- At every moment there is a version that counts the commits before it. -/
theorem Faithful.tallies (hf : t.Faithful h) (hkept : DeletesNothing h)
    (hversion : versionOf? ((h.past 0).find? t.versionCell) = .ok v₀)
    (hrows : (h.past 0).rows t.stateName = []) (hn : n ≤ h.now) : ∃ v, t.Tallies h v₀ n v := by
  induction n with
  | zero => exact ⟨v₀, .zero hversion hrows⟩
  | succ n ih =>
    obtain ⟨v, ht⟩ := ih (Nat.le_of_succ_le hn)
    by_cases hmoved : IsMoved h n
    · obtain ⟨id, job, hjob, hcommitted, hstructural, rfl⟩ := hmoved
      exact ht.moved hf hjob hcommitted hstructural
    · exact ⟨v, ht.kept (hf.keeps hkept hn hmoved) hmoved⟩

/-! ## The version as a detector of changes -/

/-- Between two moments with one version no insertion and no update commits. -/
theorem Tallies.not_isMoved (ht : t.Tallies h v₀ n v) (ht' : t.Tallies h v₀ m v)
    (hf : t.Faithful h) (hm : AllMinted source h)
    (hfew : v.number = Int32.maxValue → h.system.world.etags.count ≤ source.count + Etag.limit)
    (hfresh : ∀ job ∈ h.jobs, v₀.etag ∉ job.course.etags) {k : Nat} (hnk : n ≤ k) (hkm : k < m) :
    ¬ IsMoved h k := by
  intro hmoved
  by_cases hmax : v.number = Int32.maxValue
  · -- At the largest number the etag is that of the last job before each of the moments.
    rcases ht'.stamp with ⟨-, hnone⟩ | ⟨id', job', hjob', hetag', -, hnone'⟩
    · exact hnone k hkm hmoved
    · have hle : k ≤ job'.closing := Nat.not_lt.1 fun hlt => hnone' k hlt hkm hmoved
      rcases ht.stamp with ⟨hetag, -⟩ | ⟨id, job, hjob, hetag, hlt, -⟩
      · exact hfresh job' (List.mem_of_getElem? hjob') (hetag ▸ hetag')
      · obtain rfl := hm.apart (hfew hmax) hjob hjob' hetag hetag'
        obtain rfl := Option.some.inj (hjob.symm.trans hjob')
        omega
  · -- Below it the number counts the commit in between.
    have hne : v.number.toInt ≠ Int32.maxValue.toInt := fun heq => hmax (Int32.toInt_inj.1 heq)
    obtain ⟨id, job, hjob, hcommitted, hstructural, rfl⟩ := hmoved
    have hcount := hf.commitsBefore_succ Action.isStructural hjob hcommitted hstructural
    have hearlier := commitsBefore_mono h Action.isStructural hnk
    have hlater : commitsBefore h Action.isStructural (job.closing + 1) ≤ _ :=
      commitsBefore_mono h Action.isStructural hkm
    have hnumber := ht.number
    have hnumber' := ht'.number
    omega

/-- As long as no insertion and no update commits, rows stay up to heartbeats. -/
theorem Faithful.agreesButBeats (hf : t.Faithful h) (hkept : DeletesNothing h)
    (hr : t.HasRecords (h.past n)) (hnm : n ≤ m) (hnow : m ≤ h.now)
    (hnot : ∀ k, n ≤ k → k < m → ¬ IsMoved h k) : t.AgreesButBeats (h.past n) (h.past m) := by
  induction hnm with
  | refl => exact .refl hr
  | @step m hnm ih =>
    have hagrees := ih (Nat.le_of_succ_le hnow) fun k hnk hkm => hnot k hnk (Nat.lt_succ_of_lt hkm)
    have hkeeps := hf.keeps hkept hnow (hnot m hnm (Nat.lt_succ_self m))
    exact hagrees.trans (hkeeps.rows hagrees.hasRecords)

/-- A reading shows its version and, if it reads all rows, as many members as there were rows, at
the moment at which its transaction began. -/
theorem IsReading.shows {roster : Roster} (hread : IsReading h id job roster)
    (hf : t.Faithful h) : job.opening ≤ h.now ∧
    versionOf? ((h.past job.opening).find? t.versionCell) = .ok roster.version ∧
    (job.what = .readAll →
      roster.members.length = ((h.past job.opening).rows t.stateName).length) := by
  obtain ⟨job', hjob', hserves, -⟩ := hf.returned hread.returned
  obtain rfl := Option.some.inj (hread.known.symm.trans hjob')
  have hnow : job.opening ≤ h.now := by
    have hopening := hserves.opening
    have hclosing := hserves.closing
    omega
  refine ⟨hnow, ?_⟩
  have heffect := hserves.effect
  -- Only the two readings have this effect, and both read at the opening.
  generalize job.what = action at heffect ⊢
  generalize job.course.etags = etags at heffect
  cases heffect with
  | rowRead address members version hversion hmembers hafter =>
    exact ⟨hversion, fun hwhat => absurd hwhat (by simp)⟩
  | allRead members version hversion hmembers hafter =>
    exact ⟨hversion, fun _ => (entriesOf?_iff.1 hmembers).length_eq.symm⟩

/-- Two moments with one version agree but for heartbeats. -/
theorem Tallies.agreesButBeats (ht : t.Tallies h v₀ n v) (ht' : t.Tallies h v₀ m v)
    (hf : t.Faithful h) (hm : AllMinted source h) (hkept : DeletesNothing h)
    (hfew : v.number = Int32.maxValue → h.system.world.etags.count ≤ source.count + Etag.limit)
    (hfresh : ∀ job ∈ h.jobs, v₀.etag ∉ job.course.etags) (hnow : n ≤ h.now) (hnow' : m ≤ h.now) :
    t.AgreesButBeats (h.past n) (h.past m) := by
  rcases Nat.le_total n m with hle | hle
  · exact hf.agreesButBeats hkept ht.records hle hnow' fun k hnk hkm =>
      ht.not_isMoved ht' hf hm hfew hfresh hnk hkm
  · exact (hf.agreesButBeats hkept ht'.records hle hnow fun k hmk hkn =>
      ht'.not_isMoved ht hf hm hfew hfresh hmk hkn).symm

/-- **The version counts the insertions and updates and detects them.** Take any run in which
nothing is deleted, from contents without rows and with a readable version; if it is stored, its
etag is not minted in the run. At every moment there is a readable version, whose number has moved
on by one for each insertion or update that has committed, up to the largest number, and there are
as many rows as insertions have committed. Every reading returns the number that its snapshot
counts, and a reading of all rows as many members as there were insertions. Two readings of one
version have seen the same rows, up to the time and the etag that heartbeats replace; at the largest
number this takes that the run has not minted so many etags that their count has come around. The
version changes only when an insertion or an update commits, and that one returns nothing but that
it was made. -/
theorem version_counts_changes (t : Table) {world : World}
    (hstore : world.store? t.store = some s) (hrows : s.committed.rows t.stateName = [])
    (hversion : versionOf? (s.committed.find? t.versionCell) = .ok v₀) (moves : List (Move Action))
    (hkept : DeletesNothing (t.setting.run world moves))
    (hfresh : (s.committed.find? t.versionCell).isSome = true →
      ∀ job ∈ (t.setting.run world moves).jobs, v₀.etag ∉ job.course.etags) :
    let h := t.setting.run world moves
    (∀ n ≤ h.now, ∃ v, versionOf? ((h.past n).find? t.versionCell) = .ok v ∧
      v.number.toInt =
        min Int32.maxValue.toInt (v₀.number.toInt + commitsBefore h Action.isStructural n) ∧
      ((h.past n).rows t.stateName).length = commitsBefore h Action.isInsertion n) ∧
    (∀ id job roster, IsReading h id job roster →
      roster.version.number.toInt = min Int32.maxValue.toInt
        (v₀.number.toInt + commitsBefore h Action.isStructural job.opening) ∧
      (job.what = .readAll →
        roster.members.length = commitsBefore h Action.isInsertion job.opening)) ∧
    (∀ id id' job job' roster roster', IsReading h id job roster →
      IsReading h id' job' roster' → roster.version = roster'.version →
      (roster.version.number = Int32.maxValue →
        h.system.world.etags.count ≤ world.etags.count + Etag.limit) →
      t.AgreesButBeats (h.past job.opening) (h.past job'.opening)) ∧
    ∀ n < h.now, versionOf? ((h.past (n + 1)).find? t.versionCell) ≠
        versionOf? ((h.past n).find? t.versionCell) →
      ∃ (id : TaskId) (job : Job Action), h.jobs[id]? = some job ∧ job.course.IsCommitted ∧
        job.what.isStructural = true ∧ job.closing = n ∧
        ∀ result, h.result? id = some result → result = .ok (.flag true) := by
  intro h
  have hf : t.Faithful h := t.faithful_run hstore moves
  have hm : AllMinted world.etags h := Setting.minted_run t.setting world moves
  have hzero : h.past 0 = s.committed := t.past_zero_run hstore moves
  -- Without a record the version is the initial one, whose etag is never minted.
  have hunminted : ∀ job ∈ h.jobs, v₀.etag ∉ job.course.etags := by
    intro job hjob
    cases hstored : s.committed.find? t.versionCell with
    | some bytes => exact hfresh (by rw [hstored]; rfl) job hjob
    | none =>
      rw [hstored] at hversion
      obtain rfl : Version.initial = v₀ := Except.ok.inj hversion
      obtain ⟨id, hid⟩ := List.mem_iff_getElem?.1 hjob
      exact hm.zero_notMem hid
  rw [← hzero] at hrows hversion
  have htallies : ∀ {n}, n ≤ h.now → ∃ v, t.Tallies h v₀ n v := fun hn =>
    hf.tallies hkept hversion hrows hn
  -- The version that a reading shows is that of its snapshot.
  have hshows : ∀ {id job roster}, IsReading h id job roster → job.opening ≤ h.now ∧
      t.Tallies h v₀ job.opening roster.version ∧ (job.what = .readAll →
        roster.members.length = ((h.past job.opening).rows t.stateName).length) := by
    intro id job roster hread
    obtain ⟨hnow, hshown, hmembers⟩ := hread.shows hf
    obtain ⟨v, ht⟩ := htallies hnow
    obtain rfl := Except.ok.inj (ht.stored.symm.trans hshown)
    exact ⟨hnow, ht, hmembers⟩
  refine ⟨fun n hn => ?_, fun id job roster hread => ?_,
    fun id id' job job' roster roster' hread hread' hsame hfew => ?_, fun n hn hmoves => ?_⟩
  · obtain ⟨v, ht⟩ := htallies hn
    exact ⟨v, ht.stored, ht.number, ht.rows⟩
  · obtain ⟨-, ht, hmembers⟩ := hshows hread
    exact ⟨ht.number, fun hwhat => (hmembers hwhat).trans ht.rows⟩
  · obtain ⟨hnow, ht, -⟩ := hshows hread
    obtain ⟨hnow', ht', -⟩ := hshows hread'
    rw [← hsame] at ht'
    exact ht.agreesButBeats ht' hf hm hkept hfew hunminted hnow hnow'
  · by_contra hnone
    refine hmoves (hf.keeps hkept hn ?_).version
    rintro ⟨id, job, hjob, hcommitted, hstructural, hclosing⟩
    refine hnone ⟨id, job, hjob, hcommitted, hstructural, hclosing, fun result hresult => ?_⟩
    cases result with
    | error failure => exact absurd hcommitted (hf.failed hjob hresult)
    | ok answer =>
      obtain ⟨job', hjob', -, ho⟩ := hf.returned hresult
      obtain rfl := Option.some.inj (hjob.symm.trans hjob')
      rw [ho.answer_of_isStructural hcommitted hstructural]

/-! ## Readings at the largest number -/

namespace Sample

/-- A store with a version that is one short of the largest. -/
def almostFull : Store :=
  { Store.empty with
    committed := SortedMap.empty.insert table.versionCell
      (Stored.versionToBytes ⟨Int32.maxValue - 1, "seed"⟩) }

/-- A world with this store. -/
def almostFullWorld : World :=
  { world with
    sites := SortedMap.empty.insert "main"
      { Site.empty Site.defaultLockTimeout with store := almostFull } }

/-- A row is inserted, and between two readings there are a heartbeat, a creation of the table and
an update that comes too late. -/
def fullMoves : List (Move Action) :=
  alone 0 (.insertRow entry .initial) 23 ++ alone 1 .readAll 15 ++ alone 2 (.heartbeat entry) 12 ++
    alone 3 (.prepare true) 9 ++ alone 4 (.updateRow entry "0-00000000" .initial) 8 ++
    alone 5 .readAll 15

/-- The history of two readings at the largest number. -/
def full : Run :=
  table.setting.run almostFullWorld fullMoves

/-- The roster that was returned. -/
def roster? : Except Failure Answer → Option Roster
  | .ok (.roster roster) => some roster
  | _ => none

/-- The roster is the whole answer of a reading. -/
theorem eq_of_roster? {result : Except Failure Answer} {roster : Roster}
    (h : roster? result = some roster) : result = .ok (.roster roster) := by
  unfold roster? at h
  split at h
  · rw [Option.some.inj h]
  · exact absurd h (by simp)

end Sample

/-- The readings return the same version, although a heartbeat has replaced the row between them. -/
theorem agreesButBeats_full :
    Sample.almostFullWorld.store? Sample.table.store = some Sample.almostFull ∧
    Sample.almostFull.committed.rows Sample.table.stateName = [] ∧
    versionOf? (Sample.almostFull.committed.find? Sample.table.versionCell) =
      .ok ⟨Int32.maxValue - 1, "seed"⟩ ∧
    DeletesNothing Sample.full ∧ (∀ job ∈ Sample.full.jobs, "seed" ∉ job.course.etags) ∧
    ∃ job job' roster roster', IsReading Sample.full 1 job roster ∧
      IsReading Sample.full 5 job' roster' ∧ roster.version = roster'.version ∧
      roster.version.number = Int32.maxValue ∧
      (Sample.full.past job.opening).rows Sample.table.stateName ≠
        (Sample.full.past job'.opening).rows Sample.table.stateName ∧
      Sample.table.AgreesButBeats (Sample.full.past job.opening)
        (Sample.full.past job'.opening) := by
  have hrun : (∀ job ∈ Sample.full.jobs, job.what.isDeletion = false ∧
        "seed" ∉ job.course.etags) ∧
      Sample.full.jobs.map Job.opening = [7, 28, 43, 57, 66, 76] ∧
      (Sample.full.past 28).rows Sample.table.stateName ≠
        (Sample.full.past 76).rows Sample.table.stateName ∧
      (∀ id ∈ [1, 5], ((Sample.full.result? id).bind Sample.roster?).map Roster.version =
        some ⟨Int32.maxValue, "1-00000000"⟩) ∧
      Sample.full.system.world.etags.count ≤ Sample.almostFullWorld.etags.count + Etag.limit := by
    decide +kernel
  obtain ⟨hjobs, hopenings, hrows, hversions, hfew⟩ := hrun
  have hversion : versionOf? (Sample.almostFull.committed.find? Sample.table.versionCell) =
      .ok ⟨Int32.maxValue - 1, "seed"⟩ :=
    Stored.versionOfBytes?_versionToBytes _
  have hopening : ∀ (id : TaskId) (n : Nat), [7, 28, 43, 57, 66, 76][id]? = some n →
      ∃ job : Job Action, Sample.full.jobs[id]? = some job ∧ job.opening = n := by
    intro id n hn
    rwa [← hopenings, List.getElem?_map, Option.map_eq_some_iff] at hn
  -- Both readings have returned the version that the insertion has left.
  have hreading : ∀ {id : TaskId} {job : Job Action}, id ∈ [1, 5] →
      Sample.full.jobs[id]? = some job → ∃ roster, IsReading Sample.full id job roster ∧
        roster.version = ⟨Int32.maxValue, "1-00000000"⟩ := by
    intro id job hid hjob
    obtain ⟨roster, hroster, hshown⟩ := Option.map_eq_some_iff.1 (hversions id hid)
    obtain ⟨result, hresult, hroster⟩ := Option.bind_eq_some_iff.1 hroster
    rw [Sample.eq_of_roster? hroster] at hresult
    exact ⟨roster, ⟨hjob, hresult⟩, hshown⟩
  obtain ⟨job, hjob, hat⟩ := hopening 1 28 rfl
  obtain ⟨job', hjob', hat'⟩ := hopening 5 76 rfl
  obtain ⟨roster, hread, hshown⟩ := hreading List.mem_cons_self hjob
  obtain ⟨roster', hread', hshown'⟩ := hreading (List.mem_cons_of_mem _ List.mem_cons_self) hjob'
  have hsame := hshown.trans hshown'.symm
  refine ⟨rfl, rfl, hversion, fun job hjob => (hjobs job hjob).1,
    fun job hjob => (hjobs job hjob).2, job, job', roster, roster', hread, hread', hsame,
    congrArg Version.number hshown, ?_, ?_⟩
  · rw [hat, hat']
    exact hrows
  · unfold Sample.full at hjobs hread hread' hfew ⊢
    exact (version_counts_changes Sample.table rfl rfl hversion Sample.fullMoves
      (fun job hjob => (hjobs job hjob).1) fun _ job hjob => (hjobs job hjob).2).2.2.1 1 5 job job'
        roster roster' hread hread' hsame fun _ => hfew

end Muster.Table
