import Muster.Proofs.Stored.Entry
import Muster.Proofs.Table.Effect

/-!
# The table for one caller at a time

A `Sheet` is what a membership table is meant to be: a map from silos to their entries with etags,
and a version. `Sheet.after` says what each action does to it and `Sheet.Answers` what its answer
is. Stores, transactions, stored texts and snapshots have no part in this.

`Shows` says that contents of a store stand for a sheet. An action with an effect on contents gives
the answer that the sheet gives, and leaves contents that stand for the sheet after the action
(`Effect.shows_after`); an action that reads gives the answer of the sheet for which its snapshot
stands (`Effect.answers_read`).
-/

namespace Muster.Table

open Muster.Silo (Address Codec Entry)
open Stored (Record)

/-- The membership table as one caller at a time sees it. -/
structure Sheet where
  /-- The entries of the silos with their etags. -/
  rows : Address → Option (Entry × String)
  /-- The version. -/
  version : Version

namespace Sheet

/-- The sheet of an empty table. -/
def empty : Sheet :=
  ⟨fun _ => none, .initial⟩

/-- The sheet with another row for a silo. -/
def put (s : Sheet) (address : Address) (row : Entry × String) : Sheet :=
  { s with rows := fun a => if a = address then some row else s.rows a }

/-- The sheet after an action of a table for a cluster. A row that is written gets the etag
`rowEtag`, a version that moves on gets the etag `versionEtag`. -/
def after (s : Sheet) (clusterId rowEtag versionEtag : String) : Action → Sheet
  | .insertRow entry _ =>
    match s.rows entry.address with
    | none => { s.put entry.address (entry, rowEtag) with version := s.version.next versionEtag }
    | some _ => s
  | .updateRow entry etag _ =>
    match s.rows entry.address with
    | none => s
    | some row =>
      if row.2 = etag then
        { s.put entry.address (entry, rowEtag) with version := s.version.next versionEtag }
      else s
  | .heartbeat entry =>
    match s.rows entry.address with
    | none => s
    | some row => s.put entry.address ({ row.1 with aliveTime := entry.aliveTime }, rowEtag)
  | .deleteEntries id => if id = clusterId then .empty else s
  | .prepare _ => s
  | .readRow _ => s
  | .readAll => s

/-- The rows of the sheet in the order of their stored addresses. -/
def Lists (s : Sheet) (codec : Codec) (members : List (Entry × String)) : Prop :=
  (members.Pairwise fun a b =>
    compare (codec.encode a.1.address) (codec.encode b.1.address) = .lt) ∧
  ∀ row, row ∈ members ↔ s.rows row.1.address = some row

/-- The answer that the sheet gives to an action. -/
def Answers (s : Sheet) (codec : Codec) : Action → Answer → Prop
  | .insertRow entry _, .flag isWritten => isWritten = (s.rows entry.address).isNone
  | .updateRow entry etag _, .flag isWritten =>
    isWritten = true ↔ ∃ old, s.rows entry.address = some (old, etag)
  | .readRow address, .roster roster => roster = ⟨(s.rows address).toList, s.version⟩
  | .readAll, .roster roster => s.Lists codec roster.members ∧ roster.version = s.version
  | .heartbeat _, answer => answer = .done
  | .deleteEntries _, answer => answer = .done
  | .prepare _, answer => answer = .done
  | _, _ => False

end Sheet

/-! ## Lawful addresses -/

variable {t : Table} {s : Sheet} {c c' snapshot : Contents} {action : Action} {answer : Answer}
  {entry : Entry} {etag : String} {etags : List String}

/-- The codec gives back the address that it has stored. -/
def IsLawful (t : Table) (address : Address) : Prop :=
  t.codec.decode (t.codec.encode address) = .ok address

/-- The codec gives back all addresses of an entry. -/
def IsLawfulEntry (t : Table) (entry : Entry) : Prop :=
  t.IsLawful entry.address ∧ ∀ s ∈ entry.suspicions, t.IsLawful s.1

/-- The codec gives back all addresses of an action. -/
def IsLawfulAction (t : Table) : Action → Prop
  | .insertRow entry _ => t.IsLawfulEntry entry
  | .updateRow entry _ _ => t.IsLawfulEntry entry
  | .heartbeat entry => t.IsLawful entry.address
  | .readRow address => t.IsLawful address
  | _ => True

/-- Lawful addresses are stored under different texts. -/
theorem IsLawful.eq_of_encode {a b : Address} (ha : t.IsLawful a) (hb : t.IsLawful b)
    (h : t.codec.encode a = t.codec.encode b) : a = b := by
  unfold IsLawful at ha hb
  rw [h, hb] at ha
  exact (Except.ok.inj ha).symm

/-- The rows of lawful addresses are in different cells. -/
theorem IsLawful.rowCell_eq_iff {a b : Address} (ha : t.IsLawful a) (hb : t.IsLawful b) :
    t.rowCell a = t.rowCell b ↔ a = b :=
  ⟨fun h => ha.eq_of_encode hb (congrArg Cell.key h), fun h => by rw [h]⟩

/-- An entry is read back from the row that holds it. -/
theorem entryOfBytes?_rowBytes (h : t.IsLawfulEntry entry) (etag : String) :
    Stored.entryOfBytes? t.codec (t.rowBytes entry etag) = .ok (entry, etag) :=
  Stored.entryOfBytes?_toBytes (Stored.entry?_ofEntry h.1 h.2 etag)

/-! ## Contents that stand for a sheet -/

/-- The contents of a store stand for a sheet. -/
structure Shows (t : Table) (c : Contents) (s : Sheet) : Prop where
  /-- The version is stored, or it is the initial one. -/
  version : versionOf? (c.find? t.versionCell) = .ok s.version
  /-- The rows are stored under the addresses of their silos. -/
  rows : ∀ a, t.IsLawful a →
    c.find? (t.rowCell a) = (s.rows a).map fun row => t.rowBytes row.1 row.2
  /-- Nothing else is stored among the rows. -/
  keys : ∀ key, (c.find? ⟨t.stateName, key⟩).isSome = true →
    ∃ a, t.IsLawful a ∧ key = t.codec.encode a
  /-- The rows are those of their silos. -/
  lawful : ∀ {a row}, s.rows a = some row → row.1.address = a ∧ t.IsLawfulEntry row.1

/-- A store that keeps nothing stands for an empty sheet. -/
theorem shows_empty (t : Table) : t.Shows .empty .empty where
  version := rfl
  rows _ _ := rfl
  keys _ hsome := absurd hsome (by simp)
  lawful hrow := absurd hrow (by simp [Sheet.empty])

/-- A row that is stored is one of the sheet. -/
theorem Shows.row_of_bytes (hs : t.Shows c s) {a : Address} (ha : t.IsLawful a) {bytes : Bytes}
    (h : c.find? (t.rowCell a) = some bytes) :
    ∃ row, s.rows a = some row ∧ t.IsLawfulEntry row.1 ∧ bytes = t.rowBytes row.1 row.2 := by
  rw [hs.rows a ha] at h
  obtain ⟨row, hrow, rfl⟩ := Option.map_eq_some_iff.1 h
  exact ⟨row, hrow, (hs.lawful hrow).2, rfl⟩

/-- The record of a stored row is that of the entry of the sheet. -/
theorem Shows.record_of_bytes (hs : t.Shows c s) {a : Address} (ha : t.IsLawful a) {bytes : Bytes}
    {record : Record} (h : c.find? (t.rowCell a) = some bytes)
    (hrecord : Record.ofBytes? bytes = .ok record) :
    ∃ row, s.rows a = some row ∧ t.IsLawfulEntry row.1 ∧
      record = Record.ofEntry t.codec row.1 row.2 := by
  obtain ⟨row, hrow, hlawful, rfl⟩ := hs.row_of_bytes ha h
  refine ⟨row, hrow, hlawful, ?_⟩
  rw [rowBytes, Stored.ofBytes?_toBytes] at hrecord
  exact (Except.ok.inj hrecord).symm

/-- A silo without a stored row has none in the sheet. -/
theorem Shows.rows_eq_none (hs : t.Shows c s) {a : Address} (ha : t.IsLawful a)
    (h : c.find? (t.rowCell a) = none) : s.rows a = none := by
  rw [hs.rows a ha] at h
  exact Option.map_eq_none_iff.1 h

/-- Contents that differ in one row stand for the sheet with that row. -/
theorem Shows.put (hs : t.Shows c s) (hl : t.IsLawfulEntry entry) {version : Version}
    (hversion : versionOf? (c'.find? t.versionCell) = .ok version)
    (hrow : c'.find? (t.rowCell entry.address) = some (t.rowBytes entry etag))
    (hothers : ∀ cell, cell.dictionary = t.stateName → cell ≠ t.rowCell entry.address →
      c'.find? cell = c.find? cell) :
    t.Shows c' { s.put entry.address (entry, etag) with version } where
  version := hversion
  rows a ha := by
    show c'.find? (t.rowCell a) = (if a = entry.address then some (entry, etag) else s.rows a).map _
    -- The row that is put, and the rows of other addresses, whose cells are others.
    by_cases h : a = entry.address
    · rw [if_pos h, h, hrow]
      rfl
    · rw [if_neg h, ← hs.rows a ha]
      exact hothers _ rfl fun hcell => h ((ha.rowCell_eq_iff hl.1).1 hcell)
  keys key hsome := by
    -- Every key in use is that of an address, the new one included.
    by_cases h : key = t.codec.encode entry.address
    · exact ⟨entry.address, hl.1, h⟩
    · rw [hothers ⟨t.stateName, key⟩ rfl fun hcell => h (congrArg Cell.key hcell)] at hsome
      exact hs.keys key hsome
  lawful {a row} hmem := by
    change (if a = entry.address then some (entry, etag) else s.rows a) = some row at hmem
    split at hmem
    · rename_i h
      obtain rfl := Option.some.inj hmem
      exact ⟨h.symm, hl⟩
    · exact hs.lawful hmem

/-- Contents with the same rows stand for the sheet with their version. -/
theorem Shows.withVersion (hs : t.Shows c s) {version : Version}
    (hversion : versionOf? (c'.find? t.versionCell) = .ok version)
    (hrows : ∀ cell, cell.dictionary = t.stateName → c'.find? cell = c.find? cell) :
    t.Shows c' { s with version } where
  version := hversion
  rows a ha := (hrows _ rfl).trans (hs.rows a ha)
  keys key hsome := hs.keys key (hrows ⟨t.stateName, key⟩ rfl ▸ hsome)
  lawful := hs.lawful

/-! ## Reading -/

/-- What is read of the stored rows of a sheet has the keys of the rows, and consists of rows of the
sheet. -/
theorem Shows.of_entriesOf? (hs : t.Shows c s) {rows : List Row} {members : List (Entry × String)}
    (hrows : ∀ row ∈ rows, c.find? ⟨t.stateName, row.1⟩ = some row.2)
    (h : entriesOf? t.codec rows = .ok members) :
    members.map (fun r => t.codec.encode r.1.address) = rows.map Prod.fst ∧
      ∀ r ∈ members, s.rows r.1.address = some r := by
  induction entriesOf?_iff.1 h with
  | nil => exact ⟨rfl, fun r hr => absurd hr (by simp)⟩
  | @cons row member rows members hrow hrest ih =>
    have hfound := hrows row List.mem_cons_self
    -- The row is that of a silo of the sheet, so it is read back as the sheet has it.
    obtain ⟨a, ha, hkey⟩ := hs.keys row.1 (by rw [hfound]; rfl)
    rw [hkey] at hfound
    obtain ⟨r, hr, hlawful, hbytes⟩ := hs.row_of_bytes ha hfound
    have hread : Stored.entryOfBytes? t.codec row.2 = .ok r := by
      rw [hbytes]
      exact entryOfBytes?_rowBytes hlawful r.2
    obtain rfl := Except.ok.inj (hread.symm.trans hrow)
    obtain ⟨hkeys, hmem⟩ := ih (fun row hrow => hrows row (List.mem_cons_of_mem _ hrow))
      (entriesOf?_iff.2 hrest)
    obtain rfl : r.1.address = a := (hs.lawful hr).1
    refine ⟨?_, fun r' hr' => ?_⟩
    · rw [List.map_cons, List.map_cons, hkeys, hkey]
    · rcases List.mem_cons.1 hr' with rfl | hr'
      · exact hr
      · exact hmem r' hr'

/-- What is read of all rows are the rows of the sheet in order. -/
theorem Shows.lists (hs : t.Shows c s) {members : List (Entry × String)}
    (h : entriesOf? t.codec (c.rows t.stateName) = .ok members) : s.Lists t.codec members := by
  have hrows : ∀ row ∈ c.rows t.stateName, c.find? ⟨t.stateName, row.1⟩ = some row.2 :=
    fun row hrow => SortedMap.find?_eq_some_iff.2 (Contents.mem_rows.1 hrow)
  obtain ⟨hkeys, hmem⟩ := hs.of_entriesOf? hrows h
  refine ⟨?_, fun r => ⟨hmem r, fun hr => ?_⟩⟩
  · have hascending : ((c.rows t.stateName).map Prod.fst).Pairwise fun a b => compare a b = .lt :=
      List.pairwise_map.2 (c.rows_ascending t.stateName)
    rw [← hkeys] at hascending
    exact List.pairwise_map.1 hascending
  · -- The key of the row is among the keys, and it belongs to no other silo.
    obtain ⟨haddress, hlawful⟩ := hs.lawful hr
    have hsome : (c.find? (t.rowCell r.1.address)).isSome = true := by
      rw [hs.rows _ hlawful.1, hr]
      rfl
    have hkey := Contents.mem_keys.2 hsome
    rw [← hkeys] at hkey
    obtain ⟨r', hr', hsame⟩ := List.mem_map.1 hkey
    have hrow' := hmem r' hr'
    rw [(hs.lawful hrow').2.1.eq_of_encode hlawful.1 hsame, hr] at hrow'
    rw [Option.some.inj hrow']
    exact hr'

/-- An action that only reads. -/
def Action.isRead : Action → Bool
  | .readRow _ => true
  | .readAll => true
  | _ => false

/-- An action that reads gives the answer of the sheet for which its snapshot stands. -/
theorem Effect.answers_read (he : t.Effect snapshot c c' action etags answer)
    (hs : t.Shows snapshot s) (hl : t.IsLawfulAction action) (hread : action.isRead = true) :
    s.Answers t.codec action answer := by
  cases he with
  -- A row that is stored is what was put there, and it is read back.
  | rowRead address members version hversion hmembers hafter =>
    obtain rfl := Except.ok.inj (hs.version.symm.trans hversion)
    show Roster.mk members s.version = ⟨(s.rows address).toList, s.version⟩
    rw [hs.rows address hl] at hmembers
    cases hrow : s.rows address with
    | none =>
      rw [hrow] at hmembers
      obtain rfl : [] = members := Except.ok.inj hmembers
      rfl
    | some row =>
      rw [hrow] at hmembers
      change entriesOf? t.codec [((t.rowCell address).key, t.rowBytes row.1 row.2)] =
        .ok members at hmembers
      have hread : Stored.entryOfBytes? t.codec (t.rowBytes row.1 row.2) = .ok row :=
        entryOfBytes?_rowBytes (hs.lawful hrow).2 row.2
      obtain ⟨member, rest, hmember, hrest, rfl⟩ :=
        List.forall₂_cons_left_iff.1 (entriesOf?_iff.1 hmembers)
      obtain rfl := Except.ok.inj (hread.symm.trans hmember)
      obtain rfl := List.forall₂_nil_left_iff.1 hrest
      rfl
  | allRead members version hversion hmembers hafter =>
    obtain rfl := Except.ok.inj (hs.version.symm.trans hversion)
    exact ⟨hs.lists hmembers, rfl⟩
  | _ => exact absurd hread (by simp [Action.isRead])

/-! ## Writing -/

/-- The etag of the row that an action writes: the first that it was given. -/
def rowEtag (etags : List String) : String :=
  etags.getLastD ""

/-- The etag of the version that an action moves on: the last that it was given. -/
def versionEtag (etags : List String) : String :=
  etags.headD ""

/-- A row that is written together with the version. -/
theorem Shows.write (hs : t.Shows c s) (hl : t.IsLawfulEntry entry) {version : Version}
    {rowEtag versionEtag : String} (hversion : versionOf? (c.find? t.versionCell) = .ok version)
    (hafter : ∀ cell, c'.find? cell =
      if cell = t.versionCell then some (Stored.versionToBytes (version.next versionEtag))
      else if cell = t.rowCell entry.address then some (t.rowBytes entry rowEtag)
      else c.find? cell) :
    t.Shows c'
      { s.put entry.address (entry, rowEtag) with version := s.version.next versionEtag } := by
  obtain rfl := Except.ok.inj (hs.version.symm.trans hversion)
  have hnext : versionOf? (c'.find? t.versionCell) = .ok (s.version.next versionEtag) := by
    rw [hafter, if_pos rfl]
    exact Stored.versionOfBytes?_versionToBytes _
  -- The row is there as it was written, and nothing else of the table moved.
  refine hs.put hl hnext ?_ fun cell hcell hne => ?_
  · rw [hafter, if_neg (ne_versionCell rfl), if_pos rfl]
  · rw [hafter, if_neg (ne_versionCell hcell), if_neg hne]

/-- A row whose entry is alive at another time. -/
theorem Shows.beat (hs : t.Shows c s) {address : Address} {row : Entry × String}
    (hrow : s.rows address = some row) (aliveTime : Time.Timestamp) (rowEtag : String)
    (hafter : ∀ cell, c'.find? cell =
      if cell = t.rowCell address then some (t.rowBytes { row.1 with aliveTime } rowEtag)
      else c.find? cell) :
    t.Shows c' (s.put address ({ row.1 with aliveTime }, rowEtag)) := by
  obtain ⟨haddress, hlawful⟩ := hs.lawful hrow
  subst haddress
  -- The version record is in another dictionary.
  have hversion : versionOf? (c'.find? t.versionCell) = .ok s.version := by
    rw [hafter, if_neg (ne_versionCell rfl).symm]
    exact hs.version
  have hbeaten : t.IsLawfulEntry { row.1 with aliveTime } := hlawful
  refine hs.put hbeaten hversion ?_ fun cell _ hne => ?_
  · rw [hafter, if_pos rfl]
  · rw [hafter, if_neg hne]

/-- Clearing the rows of a snapshot and the version leaves an empty table if all rows that there are
were in the snapshot. -/
theorem shows_empty_of_cleared
    (hall : ∀ cell, cell.dictionary = t.stateName →
      (c.find? cell).isSome = true → (snapshot.find? cell).isSome = true)
    (hafter : ∀ cell, c'.find? cell =
      if cell = t.versionCell ∨
        cell.dictionary = t.stateName ∧ (snapshot.find? cell).isSome = true then none
      else c.find? cell) :
    t.Shows c' .empty := by
  -- Every key of the dictionary was one that is removed.
  have hnone : ∀ cell, cell.dictionary = t.stateName → c'.find? cell = none := by
    intro cell hcell
    rw [hafter]
    split
    · rfl
    · rename_i hkept
      rw [← Option.not_isSome_iff_eq_none]
      exact fun hsome => hkept (.inr ⟨hcell, hall cell hcell hsome⟩)
  refine ⟨?_, fun a ha => hnone _ rfl, fun key hsome => ?_, fun hrow => ?_⟩
  · rw [hafter, if_pos (.inl rfl)]
    rfl
  · rw [hnone ⟨t.stateName, key⟩ rfl] at hsome
    exact absurd hsome (by simp)
  · exact absurd hrow (by simp [Sheet.empty])

/-! ## One action -/

namespace Sheet

variable {clusterId rowEtag versionEtag : String} {expected : Version} {row : Entry × String}

/-- An insertion adds its row to a sheet without one and moves the version on. -/
theorem after_insertRow_of_none (h : s.rows entry.address = none) :
    s.after clusterId rowEtag versionEtag (.insertRow entry expected) =
      { s.put entry.address (entry, rowEtag) with version := s.version.next versionEtag } := by
  unfold after
  dsimp only
  rw [h]

/-- An insertion leaves a sheet with its row as it is. -/
theorem after_insertRow_of_some (h : s.rows entry.address = some row) :
    s.after clusterId rowEtag versionEtag (.insertRow entry expected) = s := by
  unfold after
  dsimp only
  rw [h]

/-- An update leaves a sheet without its row as it is. -/
theorem after_updateRow_of_none (h : s.rows entry.address = none) :
    s.after clusterId rowEtag versionEtag (.updateRow entry etag expected) = s := by
  unfold after
  dsimp only
  rw [h]

/-- An update replaces a row with the etag that it names and moves the version on. -/
theorem after_updateRow_of_some (h : s.rows entry.address = some row) :
    s.after clusterId rowEtag versionEtag (.updateRow entry etag expected) =
      if row.2 = etag then
        { s.put entry.address (entry, rowEtag) with version := s.version.next versionEtag }
      else s := by
  unfold after
  dsimp only
  rw [h]

/-- A heartbeat leaves a sheet without its row as it is. -/
theorem after_heartbeat_of_none (h : s.rows entry.address = none) :
    s.after clusterId rowEtag versionEtag (.heartbeat entry) = s := by
  unfold after
  dsimp only
  rw [h]

/-- A heartbeat replaces the time and the etag of its row. -/
theorem after_heartbeat_of_some (h : s.rows entry.address = some row) :
    s.after clusterId rowEtag versionEtag (.heartbeat entry) =
      s.put entry.address ({ row.1 with aliveTime := entry.aliveTime }, rowEtag) := by
  unfold after
  dsimp only
  rw [h]

end Sheet

/-- **An action gives the answer of the sheet for which the contents stand, and it leaves contents
that stand for the sheet after the action.** -/
theorem Effect.shows_after (he : t.Effect snapshot c c' action etags answer) (hs : t.Shows c s)
    (hl : t.IsLawfulAction action) (hread : action.isRead = false)
    (hdelete : action = .deleteEntries t.clusterId → ∀ cell, cell.dictionary = t.stateName →
      (c.find? cell).isSome = true → (snapshot.find? cell).isSome = true) :
    s.Answers t.codec action answer ∧
      t.Shows c' (s.after t.clusterId (rowEtag etags) (versionEtag etags) action) := by
  have hkept : c' = c → t.Shows c' s := fun h => h ▸ hs
  cases he with
  | prepared hafter => exact ⟨rfl, hkept hafter⟩
  | createdVersion hversion hafter =>
    refine ⟨rfl, ?_⟩
    -- The version of the sheet was the initial one, which is stored now.
    have hinitial := hs.version
    rw [hversion] at hinitial
    have hsame : versionOf? (c'.find? t.versionCell) = .ok s.version := by
      rw [hafter, if_pos rfl, ← hinitial]
      exact Stored.versionOfBytes?_versionToBytes _
    refine hs.withVersion hsame fun cell hcell => ?_
    rw [hafter, if_neg (ne_versionCell hcell)]
  | versionExists hversion hafter => exact ⟨rfl, hkept hafter⟩
  | inserted entry expected rowEtag versionEtag version hrow hversion hafter =>
    have hnone := hs.rows_eq_none hl.1 hrow
    rw [Sheet.after_insertRow_of_none hnone]
    refine ⟨?_, hs.write hl hversion hafter⟩
    show true = (s.rows entry.address).isNone
    rw [hnone]
    rfl
  | rowExists entry expected rowEtag hrow hafter =>
    obtain ⟨bytes, hbytes⟩ := Option.isSome_iff_exists.1 hrow
    obtain ⟨row, hfound, -⟩ := hs.row_of_bytes hl.1 hbytes
    rw [Sheet.after_insertRow_of_some hfound]
    refine ⟨?_, hkept hafter⟩
    show false = (s.rows entry.address).isNone
    rw [hfound]
    rfl
  | updated entry expected rowEtag versionEtag bytes record version hrecord hrow hversion hafter =>
    obtain ⟨row, hfound, -, rfl⟩ := hs.record_of_bytes hl.1 hrow hrecord
    have hsame : row.2 = (Record.ofEntry t.codec row.1 row.2).etag := rfl
    rw [Sheet.after_updateRow_of_some hfound, if_pos hsame]
    exact ⟨⟨fun _ => ⟨row.1, hfound⟩, fun _ => rfl⟩, hs.write hl hversion hafter⟩
  | noRowToUpdate entry etag expected hrow hafter =>
    have hnone := hs.rows_eq_none hl.1 hrow
    rw [Sheet.after_updateRow_of_none hnone]
    refine ⟨⟨fun h => absurd h (by decide), ?_⟩, hkept hafter⟩
    rintro ⟨old, hold⟩
    exact absurd (hnone.symm.trans hold) (by simp)
  | etagMismatch entry etag expected bytes record hrecord hne hrow hafter =>
    obtain ⟨row, hfound, -, rfl⟩ := hs.record_of_bytes hl.1 hrow hrecord
    have hother : row.2 ≠ etag := hne
    rw [Sheet.after_updateRow_of_some hfound, if_neg hother]
    refine ⟨⟨fun h => absurd h (by decide), ?_⟩, hkept hafter⟩
    rintro ⟨old, hold⟩
    obtain rfl := Option.some.inj (hfound.symm.trans hold)
    exact absurd rfl hother
  | beaten entry rowEtag bytes record hrecord hrow hafter =>
    obtain ⟨row, hfound, -, rfl⟩ := hs.record_of_bytes hl hrow hrecord
    rw [Sheet.after_heartbeat_of_some hfound]
    exact ⟨rfl, hs.beat hfound entry.aliveTime rowEtag hafter⟩
  | noRowForHeartbeat entry hrow hafter =>
    rw [Sheet.after_heartbeat_of_none (hs.rows_eq_none hl hrow)]
    exact ⟨rfl, hkept hafter⟩
  | rowRead address members version hversion hmembers hafter =>
    exact absurd hread (by simp [Action.isRead])
  | allRead members version hversion hmembers hafter =>
    exact absurd hread (by simp [Action.isRead])
  | ignoredDelete clusterId hne hafter =>
    have hignored : ∀ rowEtag versionEtag,
        s.after t.clusterId rowEtag versionEtag (.deleteEntries clusterId) = s :=
      fun _ _ => if_neg hne
    rw [hignored]
    exact ⟨rfl, hkept hafter⟩
  | deleted hafter =>
    have hcleared : ∀ rowEtag versionEtag,
        s.after t.clusterId rowEtag versionEtag (.deleteEntries t.clusterId) = .empty :=
      fun _ _ => if_pos rfl
    rw [hcleared]
    exact ⟨rfl, shows_empty_of_cleared (hdelete rfl) hafter⟩

end Muster.Table
