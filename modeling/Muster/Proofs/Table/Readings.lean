import Mathlib.Data.List.Nodup
import Muster.Proofs.Table.Alone
import Muster.Proofs.Table.Deletion
import Muster.Proofs.Table.Sequential

/-!
# Readings of one row and of all rows

The two ways of reading reach a row by different paths: one looks its key up, the other goes through
all rows and searches for an address. They agree because keys and addresses never drift apart
(`IsSound`): a row is the record of its own key, and the record can be decoded. Insertions and
updates write such rows if the codec gives back what it stores; a heartbeat keeps the address of
the record that it finds, whatever it is; and deletions only take rows away (`Effect.isSound`). So
all contents of a history are sound (`Faithful.isSound`), whatever rows a deletion may leave behind.
-/

namespace Muster.Table

open Muster.Silo (Address Codec Entry)
open Stored (Record)

variable {t : Table} {h : Run} {s : Store} {c snapshot before after : Contents} {action : Action}
  {answer : Answer} {etags : List String} {key : String} {bytes : Bytes}

/-- The bytes are a row under its own key: they hold a record of that key, and the record can be
decoded. -/
def IsRowOf (t : Table) (key : String) (bytes : Bytes) : Prop :=
  ∃ record entry, Record.ofBytes? bytes = .ok record ∧ record.address = key ∧
    Record.entry? t.codec record = .ok entry ∧ t.codec.encode entry.address = key

/-- The rows are all under their own keys, and the version can be read. -/
structure IsSound (t : Table) (c : Contents) : Prop where
  /-- Every row is under its own key. -/
  rows : ∀ {key bytes}, c.find? ⟨t.stateName, key⟩ = some bytes → t.IsRowOf key bytes
  /-- The version can be read. -/
  version : ∃ v, versionOf? (c.find? t.versionCell) = .ok v

/-- The codec gives back all addresses that an action stores. -/
def StoresLawfully (t : Table) : Action → Prop
  | .insertRow entry _ => t.IsLawfulEntry entry
  | .updateRow entry _ _ => t.IsLawfulEntry entry
  | _ => True

/-! ## Contents stay sound -/

/-- What is written for an entry is a row of its address. -/
theorem isRowOf_rowBytes {entry : Entry} (hl : t.IsLawfulEntry entry) (etag : String) :
    t.IsRowOf (t.codec.encode entry.address) (t.rowBytes entry etag) :=
  ⟨_, entry, Stored.ofBytes?_toBytes _, rfl, Stored.entry?_ofEntry hl.1 hl.2 etag, rfl⟩

/-- A heartbeat leaves a row under its own key. -/
theorem IsRowOf.beat (hr : t.IsRowOf key bytes) {record : Record}
    (hrecord : Record.ofBytes? bytes = .ok record) (time : Time.Timestamp) (etag : String) :
    t.IsRowOf key (record.beat time etag).toBytes := by
  obtain ⟨record', entry, hrecord', haddress, hentry, hkey⟩ := hr
  obtain rfl := Except.ok.inj (hrecord.symm.trans hrecord')
  exact ⟨_, _, Stored.ofBytes?_toBytes _, haddress, Stored.entry?_beat hentry time etag, hkey⟩

/-- Contents with the version moved on and one row written are sound. -/
theorem IsSound.write (hs : t.IsSound before) {entry : Entry} (hl : t.IsLawfulEntry entry)
    {version : Version} {etag : String} (hafter : ∀ cell, after.find? cell =
      if cell = t.versionCell then some (Stored.versionToBytes version)
      else if cell = t.rowCell entry.address then some (t.rowBytes entry etag)
      else before.find? cell) : t.IsSound after where
  rows {key bytes} hfound := by
    rw [hafter, if_neg (ne_versionCell rfl)] at hfound
    -- The row that was written is one of its address; the others were before.
    split at hfound
    · rename_i hcell
      obtain rfl := Option.some.inj hfound
      rw [show key = t.codec.encode entry.address from congrArg Cell.key hcell]
      exact isRowOf_rowBytes hl etag
    · exact hs.rows hfound
  version := by
    refine ⟨version, ?_⟩
    rw [hafter, if_pos rfl]
    exact Stored.versionOfBytes?_versionToBytes version

/-- **Every operation of the table keeps contents sound.** -/
theorem Effect.isSound (he : t.Effect snapshot before after action etags answer)
    (hs : t.IsSound before) (hl : t.StoresLawfully action) : t.IsSound after := by
  -- Rows are written in three ways, and the version in one.
  cases he with
  | createdVersion hversion hafter =>
    refine ⟨fun hfound => hs.rows ?_, .initial, ?_⟩
    · rwa [hafter, if_neg (ne_versionCell rfl)] at hfound
    · rw [hafter, if_pos rfl]
      exact Stored.versionOfBytes?_versionToBytes _
  | inserted entry expected rowEtag versionEtag version hrow hversion hafter =>
    exact hs.write hl hafter
  | updated entry expected rowEtag versionEtag bytes record version hrecord hrow hversion hafter =>
    exact hs.write hl hafter
  | beaten entry rowEtag bytes record hrecord hrow hafter =>
    refine ⟨fun {key bytes'} hfound => ?_, ?_⟩
    · rw [hafter] at hfound
      split at hfound
      · rename_i hcell
        obtain rfl := Option.some.inj hfound
        rw [show key = t.codec.encode entry.address from congrArg Cell.key hcell]
        -- A heartbeat keeps the address that the record is of.
        exact (hs.rows hrow).beat hrecord _ _
      · exact hs.rows hfound
    · rw [hafter, if_neg (ne_versionCell rfl).symm]
      exact hs.version
  | deleted hafter =>
    refine ⟨fun hfound => hs.rows ?_, .initial, ?_⟩
    · rw [hafter] at hfound
      split at hfound
      · exact absurd hfound (by simp)
      · exact hfound
    · rw [hafter, if_pos (.inl rfl)]
      rfl
  | prepared hafter => exact hafter ▸ hs
  | versionExists hversion hafter => exact hafter ▸ hs
  | rowExists entry expected rowEtag hrow hafter => exact hafter ▸ hs
  | noRowToUpdate entry etag expected hrow hafter => exact hafter ▸ hs
  | etagMismatch entry etag expected bytes record hrecord hne hrow hafter => exact hafter ▸ hs
  | noRowForHeartbeat entry hrow hafter => exact hafter ▸ hs
  | rowRead address members version hversion hmembers hafter => exact hafter ▸ hs
  | allRead members version hversion hmembers hafter => exact hafter ▸ hs
  | ignoredDelete clusterId hne hafter => exact hafter ▸ hs

/-- **All contents of a history that begins sound are sound.** -/
theorem Faithful.isSound (hf : t.Faithful h) (hzero : t.IsSound (h.past 0))
    (hl : ∀ job ∈ h.jobs, t.StoresLawfully job.what) {n : Nat} (hn : n ≤ h.now) :
    t.IsSound (h.past n) := by
  induction n with
  | zero => exact hzero
  | succ n ih =>
    have hs := ih (Nat.le_of_succ_le hn)
    by_cases hpast : h.past (n + 1) = h.past n
    · rwa [hpast]
    · obtain ⟨id, job, answer, hjob, -, rfl, hserves⟩ := hf.effect_of_ne hn hpast
      exact hserves.effect.isSound hs (hl job (List.mem_of_getElem? hjob))

/-- A table without rows is sound if its version can be read. -/
theorem isSound_of_rows_eq_nil (hrows : c.rows t.stateName = [])
    (hversion : ∃ v, versionOf? (c.find? t.versionCell) = .ok v) : t.IsSound c where
  rows {key bytes} hfound := by
    have hmem : (key, bytes) ∈ c.rows t.stateName :=
      Contents.mem_rows.2 (SortedMap.find?_eq_some_iff.1 hfound)
    rw [hrows] at hmem
    exact absurd hmem (by simp)
  version := hversion

/-! ## What readings make of sound contents -/

/-- A row is read as an entry of its key. -/
theorem IsRowOf.exists_entry (hr : t.IsRowOf key bytes) : ∃ row,
    Stored.entryOfBytes? t.codec bytes = .ok row ∧ t.codec.encode row.1.address = key ∧
      t.codec.decode key = .ok row.1.address := by
  obtain ⟨record, entry, hrecord, rfl, hentry, hkey⟩ := hr
  exact ⟨(entry, record.etag), Stored.entryOfBytes?_of_record hrecord hentry, hkey,
    Stored.decode_of_entry? hentry⟩

/-- All rows are read, each as the entry of its key. -/
theorem exists_entriesOf? {rows : List Row} (h : ∀ row ∈ rows, t.IsRowOf row.1 row.2) :
    ∃ members, entriesOf? t.codec rows = .ok members ∧ List.Forall₂ (fun row member =>
      Stored.entryOfBytes? t.codec row.2 = .ok member ∧
        t.codec.encode member.1.address = row.1) rows members := by
  induction rows with
  | nil => exact ⟨[], rfl, .nil⟩
  | cons row rows ih =>
    obtain ⟨member, hmember, hkey, -⟩ := (h row List.mem_cons_self).exists_entry
    obtain ⟨members, -, hall⟩ := ih fun row hrow => h row (List.mem_cons_of_mem _ hrow)
    have hcons := List.Forall₂.cons ⟨hmember, hkey⟩ hall
    exact ⟨member :: members, entriesOf?_iff.2 (hcons.imp fun _ _ hrow => hrow.1), hcons⟩

section Forall₂

variable {codec : Codec} {rows : List Row} {members : List (Entry × String)}

/-- Entries that are read row by row are in the order of the rows. -/
theorem keys_of_forall₂ (h : List.Forall₂ (fun row member =>
    Stored.entryOfBytes? codec row.2 = .ok member ∧ codec.encode member.1.address = row.1) rows
      members) :
    members.map (fun member => codec.encode member.1.address) = rows.map Prod.fst := by
  induction h with
  | nil => rfl
  | cons hrow _ ih => rw [List.map_cons, List.map_cons, hrow.2, ih]

/-- They are the entries of the rows. -/
theorem mem_of_forall₂ (h : List.Forall₂ (fun row member =>
    Stored.entryOfBytes? codec row.2 = .ok member ∧ codec.encode member.1.address = row.1) rows
      members) (member : Entry × String) :
    member ∈ members ↔ ∃ row ∈ rows, Stored.entryOfBytes? codec row.2 = .ok member ∧
      codec.encode member.1.address = row.1 := by
  induction h with
  | nil => simp
  | @cons row first rows members hrow _ ih =>
    rw [List.mem_cons, List.exists_mem_cons_iff, ih]
    refine or_congr_left ⟨?_, fun hmember => ?_⟩
    · rintro rfl
      exact hrow
    · exact Except.ok.inj (hmember.1.symm.trans hrow.1)

end Forall₂

/-- The members of a reading of all rows: they ascend by their keys and are those that are
stored. -/
structure Lists (t : Table) (c : Contents) (members : List (Entry × String)) : Prop where
  /-- They ascend by the encoded addresses. -/
  ascending : members.Pairwise fun a b =>
    compare (t.codec.encode a.1.address) (t.codec.encode b.1.address) = .lt
  /-- They are what is stored under the encoded addresses. -/
  mem : ∀ member, member ∈ members ↔ ∃ bytes, c.find? (t.rowCell member.1.address) = some bytes ∧
    Stored.entryOfBytes? t.codec bytes = .ok member

/-- All rows of sound contents are read. -/
theorem IsSound.exists_fullReading? (hs : t.IsSound c) : ∃ roster,
    t.fullReading? c = .ok roster ∧ versionOf? (c.find? t.versionCell) = .ok roster.version ∧
      t.Lists c roster.members := by
  obtain ⟨version, hversion⟩ := hs.version
  have hrows : ∀ row ∈ c.rows t.stateName, t.IsRowOf row.1 row.2 := fun row hrow =>
    hs.rows (SortedMap.find?_eq_some_iff.2 (Contents.mem_rows.1 hrow))
  -- Every row can be read, so the reading of all rows does not fail.
  obtain ⟨members, hmembers, hall⟩ := exists_entriesOf? hrows
  refine ⟨⟨members, version⟩, reading?_ok hversion hmembers, hversion, ?_, fun member => ?_⟩
  -- The members come in the order of their keys.
  · have hascending : ((c.rows t.stateName).map Prod.fst).Pairwise fun a b => compare a b = .lt :=
      List.pairwise_map.2 (c.rows_ascending t.stateName)
    rw [← keys_of_forall₂ hall] at hascending
    exact List.pairwise_map.1 hascending
  · rw [mem_of_forall₂ hall]
    constructor
    · rintro ⟨row, hrow, hread, hkey⟩
      refine ⟨row.2, ?_, hread⟩
      rw [rowCell, hkey]
      exact SortedMap.find?_eq_some_iff.2 (Contents.mem_rows.1 hrow)
    · rintro ⟨bytes, hfound, hread⟩
      exact ⟨(t.codec.encode member.1.address, bytes),
        Contents.mem_rows.2 (SortedMap.find?_eq_some_iff.1 hfound), hread, rfl⟩

/-- The row of a lawful address is read, if there is one. -/
theorem IsSound.exists_rowReading? (hs : t.IsSound c) {a : Address} (ha : t.IsLawful a) :
    ∃ roster, t.rowReading? c a = .ok roster ∧
      versionOf? (c.find? t.versionCell) = .ok roster.version ∧ roster.members.length ≤ 1 ∧
      ∀ member, member ∈ roster.members ↔ member.1.address = a ∧
        ∃ bytes, c.find? (t.rowCell a) = some bytes ∧
          Stored.entryOfBytes? t.codec bytes = .ok member := by
  obtain ⟨version, hversion⟩ := hs.version
  cases hfound : c.find? (t.rowCell a) with
  | none =>
    have hread : t.rowReading? c a = .ok ⟨[], version⟩ := by
      rw [rowReading?, hfound]
      exact reading?_ok hversion rfl
    exact ⟨_, hread, hversion, Nat.zero_le _, by simp⟩
  | some bytes =>
    obtain ⟨row, hrow, -, hdecode⟩ := (hs.rows hfound).exists_entry
    -- The key is that of the address, so it is decoded to the address.
    have haddress : row.1.address = a := (Except.ok.inj (ha.symm.trans hdecode)).symm
    have hread : t.rowReading? c a = .ok ⟨[row], version⟩ := by
      rw [rowReading?, hfound]
      exact reading?_ok hversion (entriesOf?_iff.2 (.cons hrow .nil))
    refine ⟨_, hread, hversion, Nat.le_refl _, fun member => ?_⟩
    rw [List.mem_singleton]
    constructor
    · rintro rfl
      exact ⟨haddress, bytes, rfl, hrow⟩
    · rintro ⟨-, bytes', hbytes', hmember⟩
      obtain rfl := Option.some.inj hbytes'
      exact Except.ok.inj (hmember.symm.trans hrow)

/-- In a roster of different addresses, `get?` finds the member of an address. -/
theorem Roster.get?_eq_some_iff {roster : Roster} {a : Address} {member : Entry × String}
    (h : (roster.members.map (·.1.address)).Nodup) :
    roster.get? a = some member ↔ member ∈ roster.members ∧ member.1.address = a := by
  rw [get?]
  constructor
  · intro hfound
    exact ⟨List.mem_of_find?_eq_some hfound, by simpa using List.find?_some hfound⟩
  · rintro ⟨hmem, haddress⟩
    cases hfound : roster.members.find? (·.1.address = a) with
    | none => exact absurd (List.find?_eq_none.1 hfound member hmem) (by simp [haddress])
    | some found =>
      have haddress' : found.1.address = a := by simpa using List.find?_some hfound
      rw [List.inj_on_of_nodup_map h (List.mem_of_find?_eq_some hfound) hmem
        (haddress'.trans haddress.symm)]

/-- Members that ascend by their encoded addresses have different addresses. -/
theorem Lists.nodup {members : List (Entry × String)} (hl : t.Lists c members) :
    (members.map (·.1.address)).Nodup := by
  refine List.pairwise_map.2 (hl.ascending.imp fun hlt hsame => ?_)
  exact SortedMap.ne_of_compare_lt hlt (congrArg t.codec.encode hsame)

/-- **A point reading agrees with a full reading** of the same sound contents. -/
theorem IsSound.readings_agree (hs : t.IsSound c) : ∃ all, t.fullReading? c = .ok all ∧
    (all.members.Pairwise fun a b =>
      compare (t.codec.encode a.1.address) (t.codec.encode b.1.address) = .lt) ∧
    (all.members.map (·.1.address)).Nodup ∧
    ∀ a, t.IsLawful a → ∃ point, t.rowReading? c a = .ok point ∧ point.version = all.version ∧
      point.members.length ≤ 1 ∧ point.get? a = all.get? a := by
  obtain ⟨all, hall, hversion, hlists⟩ := hs.exists_fullReading?
  refine ⟨all, hall, hlists.ascending, hlists.nodup, fun a ha => ?_⟩
  obtain ⟨point, hpoint, hversion', hlength, hmem⟩ := hs.exists_rowReading? ha
  -- A reading of one row has at most one member, so it lists no address twice.
  have hnodup : (point.members.map (·.1.address)).Nodup := by
    refine List.nodup_iff_count_le_one.2 fun a => Nat.le_trans List.count_le_length ?_
    rwa [List.length_map]
  refine ⟨point, hpoint, Except.ok.inj (hversion'.symm.trans hversion), hlength, ?_⟩
  refine Option.ext fun member => ?_
  -- With no address listed twice, to be found is to be a member, and members are what is stored.
  rw [Roster.get?_eq_some_iff hnodup, Roster.get?_eq_some_iff hlists.nodup, hmem, hlists.mem]
  constructor
  · rintro ⟨⟨rfl, hstored⟩, -⟩
    exact ⟨hstored, rfl⟩
  · rintro ⟨hstored, rfl⟩
    exact ⟨⟨rfl, hstored⟩, rfl⟩

/-! ## The readings of a history -/

/-- A reading of all rows that was made is that of its snapshot. -/
theorem Effect.fullReading? (he : t.Effect snapshot before after .readAll etags answer) :
    ∃ roster, t.fullReading? snapshot = .ok roster ∧ answer = .roster roster := by
  cases he with
  | allRead members version hversion hmembers hafter =>
    exact ⟨⟨members, version⟩, reading?_ok hversion hmembers, rfl⟩

/-- So is a reading of one row. -/
theorem Effect.rowReading? {a : Address}
    (he : t.Effect snapshot before after (.readRow a) etags answer) :
    ∃ roster, t.rowReading? snapshot a = .ok roster ∧ answer = .roster roster := by
  cases he with
  | rowRead address members version hversion hmembers hafter =>
    exact ⟨⟨members, version⟩, reading?_ok hversion hmembers, rfl⟩

/-- Whoever takes the contents as its snapshot is told the roster: an operation that runs alone
where they are committed comes to its end with it, and an operation of the history that has
succeeded has it as its answer, whatever else went on meanwhile. -/
structure Tells (t : Table) (h : Run) (c : Contents) (action : Action) (roster : Roster) :
    Prop where
  /-- What an operation that runs alone is told. -/
  alone : ∀ {w : World} {site : Site} {me : Context},
    w.IsQuiet t.store site (fun _ => False) → site.store.committed = c →
    me.isCancelled = false → me.trigger = .never →
    ∃ w' me', w.run me (t.program action) = (w', me', .done (.ok (.roster roster)))
  /-- What an operation of the history is told. -/
  among : ∀ {id : TaskId} {job : Job Action} {answer : Answer}, h.jobs[id]? = some job →
    h.result? id = some (.ok answer) → job.what = action → h.past job.opening = c →
    answer = .roster roster

/-- A reading of all rows is told what the contents say, alone and among others. -/
theorem Faithful.tells_readAll (hf : t.Faithful h) {all : Roster}
    (hall : t.fullReading? c = .ok all) : t.Tells h c .readAll all where
  alone hquiet hcommitted hcancelled htrigger := by
    obtain ⟨w', me', hrun⟩ := run_readAll hquiet hcancelled htrigger
    rw [hcommitted, hall] at hrun
    exact ⟨w', me', hrun⟩
  among hjob hresult hwhat hopening := by
    obtain ⟨job, hjob', hserves, -⟩ := hf.returned hresult
    obtain rfl := Option.some.inj (hjob.symm.trans hjob')
    have heffect := hserves.effect
    rw [hwhat, hopening] at heffect
    obtain ⟨roster, hread, rfl⟩ := heffect.fullReading?
    rw [Except.ok.inj (hread.symm.trans hall)]

/-- So is a reading of one row. -/
theorem Faithful.tells_readRow (hf : t.Faithful h) {a : Address} {point : Roster}
    (hpoint : t.rowReading? c a = .ok point) : t.Tells h c (.readRow a) point where
  alone {w site me} hquiet hcommitted _ _ := by
    obtain ⟨w', me', hrun⟩ := run_readRow hquiet me a
    rw [hcommitted, hpoint] at hrun
    exact ⟨w', me', hrun⟩
  among hjob hresult hwhat hopening := by
    obtain ⟨job, hjob', hserves, -⟩ := hf.returned hresult
    obtain rfl := Option.some.inj (hjob.symm.trans hjob')
    have heffect := hserves.effect
    rw [hwhat, hopening] at heffect
    obtain ⟨roster, hread, rfl⟩ := heffect.rowReading?
    rw [Except.ok.inj (hread.symm.trans hpoint)]

/-- **Point readings agree with full readings.** Whatever operations of a table that begins without
rows have been run, in whatever order, and whatever contents the store had at some moment: every row
can be decoded and is stored under the address that it holds. A reading of all rows of these
contents gives them in the order of their encoded addresses, which are all different. A reading of
one row, for an address that the codec gives back, has the same version and at most one member, and
the entry of the address is the same in both, or there is none in either. -/
theorem point_readings_agree (t : Table) {world : World} (hstore : world.store? t.store = some s)
    (hrows : s.committed.rows t.stateName = [])
    (hversion : ∃ v, versionOf? (s.committed.find? t.versionCell) = .ok v)
    (moves : List (Move Action))
    (hlawful : ∀ job ∈ (t.setting.run world moves).jobs, t.StoresLawfully job.what)
    {n : Nat} (hn : n ≤ (t.setting.run world moves).now) :
    (∀ key bytes, ((t.setting.run world moves).past n).find? ⟨t.stateName, key⟩ = some bytes →
      ∃ record entry, Record.ofBytes? bytes = .ok record ∧ record.address = key ∧
        Record.entry? t.codec record = .ok entry) ∧
    ∃ all, t.Tells (t.setting.run world moves) ((t.setting.run world moves).past n) .readAll all ∧
      (all.members.Pairwise fun a b =>
        compare (t.codec.encode a.1.address) (t.codec.encode b.1.address) = .lt) ∧
      (all.members.map (·.1.address)).Nodup ∧
      ∀ a, t.IsLawful a → ∃ point,
        t.Tells (t.setting.run world moves) ((t.setting.run world moves).past n) (.readRow a)
          point ∧
        point.version = all.version ∧ point.members.length ≤ 1 ∧ point.get? a = all.get? a := by
  have hf := t.faithful_run hstore moves
  have hzero : t.IsSound ((t.setting.run world moves).past 0) := by
    rw [t.past_zero_run hstore moves]
    exact isSound_of_rows_eq_nil hrows hversion
  have hs := hf.isSound hzero hlawful hn
  -- The rows are read one by one; the readings agree since all of them are sound.
  refine ⟨fun key bytes hfound => ?_, ?_⟩
  · obtain ⟨record, entry, hrecord, haddress, hentry, -⟩ := hs.rows hfound
    exact ⟨record, entry, hrecord, haddress, hentry⟩
  · obtain ⟨all, hall, hascending, hnodup, hpoints⟩ := hs.readings_agree
    refine ⟨all, hf.tells_readAll hall, hascending, hnodup, fun a ha => ?_⟩
    obtain ⟨point, hpoint, hagree⟩ := hpoints a ha
    exact ⟨point, hf.tells_readRow hpoint, hagree⟩

/-- A row that was inserted behind the snapshot of a deletion and is left by it, without a
version. -/
theorem exists_readings_lateInsertion : ∃ all point,
    Tells Sample.table Sample.lateInsertion (Sample.lateInsertion.past Sample.lateInsertion.now)
      .readAll all ∧
    Tells Sample.table Sample.lateInsertion (Sample.lateInsertion.past Sample.lateInsertion.now)
      (.readRow Sample.address) point ∧
    point.version = all.version ∧ point.members.length ≤ 1 ∧
      point.get? Sample.address = all.get? Sample.address := by
  have haddress : Sample.table.IsLawful Sample.address :=
    Silo.Codec.canonical_decode_encode Sample.address
  have hwhats : ∀ job ∈ Sample.lateInsertion.jobs,
      job.what ∈ [.deleteEntries "cluster", .insertRow Sample.entry .initial] := by decide +kernel
  -- Both operations store what their codec reads back.
  have hlawful : ∀ job ∈ Sample.lateInsertion.jobs, Sample.table.StoresLawfully job.what := by
    intro job hjob
    rcases List.mem_cons.1 (hwhats job hjob) with hwhat | hwhat
    · rw [hwhat]
      trivial
    · rw [List.mem_singleton.1 hwhat]
      exact ⟨haddress, fun s hs => absurd hs (by simp [Sample.entry])⟩
  have hstore : Sample.world.store? Sample.table.store = some .empty := rfl
  unfold Sample.lateInsertion at hlawful ⊢
  obtain ⟨-, all, hall, -, -, hpoints⟩ := point_readings_agree Sample.table hstore rfl ⟨_, rfl⟩
    Sample.lateInsertionMoves hlawful (Nat.le_refl _)
  obtain ⟨point, hpoint, hagree⟩ := hpoints Sample.address haddress
  exact ⟨all, point, hall, hpoint, hagree⟩

end Muster.Table
