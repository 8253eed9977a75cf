import Muster.Proofs.Table.Renaming
import Muster.Proofs.Table.Writes

/-!
# Ledgers

What a table keeps, as records and not as bytes, and what each operation answers and makes of it
when it runs alone (`Ledger.act`). The contents of a store bear a ledger if they hold its records,
with etags renamed (`Bears`); nothing else in the store matters, and neither does it matter whether
addresses can be decoded.

An operation that runs alone on contents that bear a ledger comes to an end, with the answer of the
ledger and contents that bear the ledger afterwards, renamed as before (`does_act`). So two runs on
contents that bear the same ledger differ in the names of their etags only.
-/

namespace Muster.Table

open Muster.Silo (Address Codec Entry)
open Stored (Record)
open Operation

/-- The rows of a table by their keys, its version record, and where its etags come from. -/
structure Ledger where
  /-- The records of the rows. -/
  rows : SortedMap String Record
  /-- The version record, if there is one. -/
  version : Option Version
  /-- Where etags come from. -/
  etags : Etag.Source

namespace Ledger

/-- The ledger of a table that keeps nothing. -/
def fresh (etags : Etag.Source) : Ledger :=
  ⟨.empty, none, etags⟩

/-- The version that is read. -/
def current (l : Ledger) : Version :=
  l.version.getD .initial

/-- The entry of a record, and its etag. -/
def member? (codec : Codec) (record : Record) : Except Stored.Fault (Entry × String) := do
  let entry ← (record.entry? codec).mapError .address
  return (entry, record.etag)

/-- The answer of a reading of some records. -/
def reading (l : Ledger) (codec : Codec) (records : List Record) : Except Failure Answer :=
  readingAnswer ((records.mapM (member? codec)).map fun members => ⟨members, l.current⟩)

/-- The row of an entry is written, and the version moves on. -/
def write (l : Ledger) (codec : Codec) (entry : Entry) : Ledger where
  rows := l.rows.insert (codec.encode entry.address) (.ofEntry codec entry l.etags.mint.1)
  version := some (l.current.next l.etags.mint.2.mint.1)
  etags := l.etags.mint.2.mint.2

/-- The heartbeat of an entry is written into a record. -/
def beat (l : Ledger) (codec : Codec) (entry : Entry) (record : Record) : Ledger where
  rows := l.rows.insert (codec.encode entry.address) (record.beat entry.aliveTime l.etags.mint.1)
  version := l.version
  etags := l.etags.mint.2

/-- What a table answers to an action that runs alone, and the ledger afterwards. -/
def act (l : Ledger) (t : Table) : Action → Except Failure Answer × Ledger
  | .prepare createVersion =>
    (.ok .done, if createVersion then { l with version := some l.current } else l)
  | .insertRow entry _ =>
    match l.rows.find? (t.codec.encode entry.address) with
    | some _ => (.ok (.flag false), { l with etags := l.etags.mint.2 })
    | none => (.ok (.flag true), l.write t.codec entry)
  | .updateRow entry etag _ =>
    match l.rows.find? (t.codec.encode entry.address) with
    | some record =>
      if record.etag = etag then (.ok (.flag true), l.write t.codec entry)
      else (.ok (.flag false), l)
    | none => (.ok (.flag false), l)
  | .heartbeat entry =>
    match l.rows.find? (t.codec.encode entry.address) with
    | some record => (.ok .done, l.beat t.codec entry record)
    | none => (.ok .done, l)
  | .readRow address => (l.reading t.codec (l.rows.find? (t.codec.encode address)).toList, l)
  | .readAll => (l.reading t.codec (l.rows.entries.map Prod.snd), l)
  | .deleteEntries clusterId =>
    (.ok .done, if clusterId = t.clusterId then fresh l.etags else l)

end Ledger

/-- The bytes of a record whose etag is renamed. -/
def recordBytes (ρ : String → String) (record : Record) : Bytes :=
  (record.rename ρ).toBytes

/-- The bytes of a version whose etag is renamed. -/
def versionBytes (ρ : String → String) (version : Version) : Bytes :=
  Stored.versionToBytes (version.rename ρ)

/-- Contents hold the records of a ledger, with their etags renamed. -/
structure Bears (t : Table) (ρ : String → String) (l : Ledger) (c : Contents) : Prop where
  /-- The rows are those of the ledger. -/
  rows : ∀ key, c.find? ⟨t.stateName, key⟩ = (l.rows.find? key).map (recordBytes ρ)
  /-- So is the version record. -/
  version : c.find? t.versionCell = l.version.map (versionBytes ρ)

/-- A result, and the scene behind it, are what a ledger says, up to a renaming that goes on for `n`
etags. -/
structure Follows (t : Table) (ρ : String → String) (n : Nat)
    (said : Except Failure Answer × Ledger) (result : Except Failure Answer) (k : Scene) :
    Prop where
  /-- The answer is that of the ledger. -/
  result : result = said.1.map (Answer.rename ρ)
  /-- No transaction is open. -/
  current : k.current = none
  /-- The contents bear the ledger. -/
  bears : t.Bears ρ said.2 k.committed
  /-- The etags to come are renamed as before. -/
  etags : said.2.etags.Renames ρ n k.etags

variable {t : Table} {sites : SortedMap String Site} {IsFree : Cell → Prop} {IsUntold : Prop}
  {c c' : Contents} {source : Etag.Source} {ρ : String → String} {l : Ledger} {n : Nat}

/-! ## Contents that bear a ledger -/

/-- Contents without rows and version record bear a ledger that keeps nothing. -/
theorem bears_fresh (ρ : String → String) (etags : Etag.Source)
    (hrows : ∀ key, c.find? ⟨t.stateName, key⟩ = none) (hversion : c.find? t.versionCell = none) :
    t.Bears ρ (.fresh etags) c :=
  ⟨hrows, hversion⟩

/-- The version that is stored can be read. -/
theorem Bears.versionOf? (hb : t.Bears ρ l c) (hzero : ρ "0" = "0") :
    versionOf? (c.find? t.versionCell) = .ok (l.current.rename ρ) := by
  rw [hb.version, Ledger.current]
  cases l.version with
  | none => exact congrArg Except.ok (Version.rename_initial hzero).symm
  | some version => exact Stored.versionOfBytes?_versionToBytes _

/-- Where no row is stored, the ledger has none. -/
theorem Bears.find?_eq_none (hb : t.Bears ρ l c) {address : Address}
    (h : c.find? (t.rowCell address) = none) :
    l.rows.find? (t.codec.encode address) = none :=
  Option.map_eq_none_iff.1 ((hb.rows _).symm.trans h)

/-- A row that is stored holds a record of the ledger, so it can be read. -/
theorem Bears.exists_record (hb : t.Bears ρ l c) {address : Address} {bytes : Bytes}
    (h : c.find? (t.rowCell address) = some bytes) : ∃ record,
      l.rows.find? (t.codec.encode address) = some record ∧
        Record.ofBytes? bytes = .ok (record.rename ρ) := by
  obtain ⟨record, hrecord, hbytes⟩ := Option.map_eq_some_iff.1 ((hb.rows _).symm.trans h)
  have hread : Record.ofBytes? (recordBytes ρ record) = .ok (record.rename ρ) :=
    Stored.ofBytes?_toBytes _
  exact ⟨record, hrecord, hbytes ▸ hread⟩

/-- Contents that differ in one row, and perhaps in the version, bear the ledger with that row. -/
theorem Bears.put (hb : t.Bears ρ l c) {key : String} {record : Record} {version : Option Version}
    (etags : Etag.Source) (hversion : c'.find? t.versionCell = version.map (versionBytes ρ))
    (hrow : c'.find? ⟨t.stateName, key⟩ = some (recordBytes ρ record))
    (hothers : ∀ other, other ≠ key →
      c'.find? ⟨t.stateName, other⟩ = c.find? ⟨t.stateName, other⟩) :
    t.Bears ρ ⟨l.rows.insert key record, version, etags⟩ c' where
  rows other := by
    rw [SortedMap.find?_insert]
    by_cases hkey : other = key
    · rw [if_pos hkey, hkey, hrow]
      rfl
    · rw [if_neg hkey, hothers other hkey, hb.rows]
  version := hversion

/-- Contents with a row and a version that are written with renamed etags bear the ledger in which
the row is written. -/
theorem Bears.write (hb : t.Bears ρ l c) {entry : Entry}
    (hnames : l.etags.Renames ρ (n + 2) source)
    (hafter : ∀ cell, c'.find? cell = if cell = t.versionCell then
        some (Stored.versionToBytes ((l.current.rename ρ).next source.mint.2.mint.1))
      else if cell = t.rowCell entry.address then some (t.rowBytes entry source.mint.1)
      else c.find? cell) : t.Bears ρ (l.write t.codec entry) c' := by
  -- The etags of the row and of the version are the next two names.
  obtain ⟨hrowEtag, hrest⟩ := hnames.mint
  obtain ⟨hversionEtag, -⟩ := hrest.mint
  have hrowCell : ∀ key, c'.find? ⟨t.stateName, key⟩ =
      if (⟨t.stateName, key⟩ : Cell) = t.rowCell entry.address then
        some (t.rowBytes entry source.mint.1)
      else c.find? ⟨t.stateName, key⟩ := fun key => by
    rw [hafter, if_neg (ne_versionCell rfl)]
  refine hb.put _ ?_ ?_ fun other hother => ?_
  · rw [hafter, if_pos rfl, ← hversionEtag]
    rfl
  · rw [hrowCell, ← hrowEtag]
    exact if_pos rfl
  · rw [hrowCell]
    exact if_neg fun hcell => hother (congrArg Cell.key hcell)

/-! ## Reading -/

/-- The entry of a record is read back, with the renamed etag. -/
theorem entryOfBytes?_recordBytes (codec : Codec) (record : Record) :
    Stored.entryOfBytes? codec (recordBytes ρ record) =
      (Ledger.member? codec record).map fun member => (member.1, ρ member.2) := by
  unfold Stored.entryOfBytes? recordBytes Ledger.member?
  rw [Stored.ofBytes?_toBytes]
  have hentry : Record.entry? codec (record.rename ρ) = record.entry? codec := rfl
  simp only [bind, Except.bind, hentry]
  cases record.entry? codec <;> rfl

/-- The entries of rows are those of their records, with the renamed etags. -/
theorem entriesOf?_recordBytes (ρ : String → String) (codec : Codec)
    (rows : List (String × Record)) :
    entriesOf? codec (rows.map fun row => (row.1, recordBytes ρ row.2)) =
      ((rows.map Prod.snd).mapM (Ledger.member? codec)).map (renameMembers ρ) := by
  unfold entriesOf?
  induction rows with
  | nil => rfl
  | cons row rest ih =>
    rw [List.map_cons, List.map_cons, List.mapM_cons, List.mapM_cons, ih, entryOfBytes?_recordBytes]
    -- The first record that cannot be decoded decides, on both sides.
    cases Ledger.member? codec row.2 with
    | error fault => rfl
    | ok member =>
      cases (rest.map Prod.snd).mapM (Ledger.member? codec) <;> rfl

/-- A reading of rows that hold records of the ledger answers what the ledger says of them. -/
theorem Bears.readingAnswer (hb : t.Bears ρ l c) (hzero : ρ "0" = "0")
    (rows : List (String × Record)) :
    readingAnswer (t.reading? (rows.map fun row => (row.1, recordBytes ρ row.2))
      (c.find? t.versionCell)) = (l.reading t.codec (rows.map Prod.snd)).map (Answer.rename ρ) := by
  have hentries := entriesOf?_recordBytes ρ t.codec rows
  rw [Ledger.reading]
  -- The decoding fails on both sides or on none.
  cases hmembers : (rows.map Prod.snd).mapM (Ledger.member? t.codec) with
  | error fault =>
    rw [hmembers] at hentries
    rw [reading?_error_members (hb.versionOf? hzero) hentries]
    rfl
  | ok members =>
    rw [hmembers] at hentries
    rw [reading?_ok (hb.versionOf? hzero) hentries]
    rfl

/-- The rows of contents are the records of the ledger that they bear. -/
theorem Bears.rows_eq (hb : t.Bears ρ l c) :
    c.rows t.stateName = l.rows.entries.map fun row => (row.1, recordBytes ρ row.2) := by
  have hentries : (l.rows.filterMap fun _ record => some (recordBytes ρ record)).entries =
      l.rows.entries.map fun row => (row.1, recordBytes ρ row.2) := by
    rw [← List.filterMap_eq_map]
    rfl
  rw [← hentries]
  refine Contents.rows_eq_of_lookup (SortedMap.ascending _) fun key => ?_
  calc c.find? ⟨t.stateName, key⟩
      = (l.rows.find? key).map (recordBytes ρ) := hb.rows key
    _ = (l.rows.find? key).bind fun record => some (recordBytes ρ record) :=
        Option.map_eq_bind
    _ = (l.rows.filterMap fun _ record => some (recordBytes ρ record)).find? key :=
        (SortedMap.find?_filterMap (fun _ record => some (recordBytes ρ record)) l.rows key).symm

/-! ## Operations -/

section Operations

variable (hb : t.Bears ρ l c)
include hb

/-- Preparing a table follows the ledger. -/
theorem does_act_prepare (hfree : ∀ cell, IsFree cell) (hzero : ρ "0" = "0")
    (hnames : l.etags.Renames ρ n source) (createVersion : Bool) :
    Program.Does (t.solo sites IsFree IsUntold) ⟨c, none, source⟩
      (t.program (.prepare createVersion))
      (t.Follows ρ n (l.act t (.prepare createVersion))) := by
  cases createVersion with
  | false => exact does_bind (does_prepare_false (does_pure ⟨rfl, rfl, hb, hnames⟩))
  | true =>
    refine does_bind (does_prepare_true (hfree _) (fun hexists => does_pure ?_)
      fun hnone c' hafter => does_pure ?_)
    · -- The version record is there, and it is that of the ledger.
      rw [hb.version, Option.isSome_map] at hexists
      have hversion : l.version = some l.current := by
        obtain ⟨version, hversion⟩ := Option.isSome_iff_exists.1 hexists
        rw [Ledger.current, hversion]
        rfl
      exact ⟨rfl, rfl, ⟨hb.rows, hb.version.trans (congrArg _ hversion)⟩, hnames⟩
    · have hversion : l.version = none := Option.map_eq_none_iff.1 (hb.version.symm.trans hnone)
      have hinitial : versionBytes ρ l.current = Stored.versionToBytes .initial := by
        rw [Ledger.current, hversion]
        exact congrArg Stored.versionToBytes (Version.rename_initial hzero)
      have hrows : ∀ key, c'.find? ⟨t.stateName, key⟩ = c.find? ⟨t.stateName, key⟩ := fun key => by
        rw [hafter, if_neg (ne_versionCell rfl)]
      have hstored : c'.find? t.versionCell = some (versionBytes ρ l.current) := by
        rw [hafter, if_pos rfl, hinitial]
      exact ⟨rfl, rfl, ⟨fun key => (hrows key).trans (hb.rows key), hstored⟩, hnames⟩

/-- An insertion follows the ledger, whatever version it expects. -/
theorem does_act_insertRow (hfree : ∀ cell, IsFree cell) (hzero : ρ "0" = "0")
    (hnames : l.etags.Renames ρ (n + 2) source) (entry : Entry) (expected expected' : Version) :
    Program.Does (t.solo sites IsFree IsUntold) ⟨c, none, source⟩
      (t.program (.insertRow entry expected'))
      (t.Follows ρ n (l.act t (.insertRow entry expected))) := by
  refine does_bind (does_insertRow hfree (hb.versionOf? hzero)
    (fun hexists => does_pure ?_) fun hnone c' hafter => does_pure ?_)
  · -- The silo has a row, and the etag that was minted for the new one is lost.
    obtain ⟨bytes, hstored⟩ := Option.isSome_iff_exists.1 hexists
    obtain ⟨record, hrecord, -⟩ := hb.exists_record hstored
    have hsaid : l.act t (.insertRow entry expected) =
        (.ok (.flag false), { l with etags := l.etags.mint.2 }) := by
      rw [Ledger.act, hrecord]
    rw [hsaid]
    exact ⟨rfl, rfl, ⟨hb.rows, hb.version⟩, hnames.mint.2.mono (by omega)⟩
  · have hsaid : l.act t (.insertRow entry expected) =
        (.ok (.flag true), l.write t.codec entry) := by
      rw [Ledger.act, hb.find?_eq_none hnone]
    rw [hsaid]
    exact ⟨rfl, rfl, hb.write hnames hafter, hnames.mint.2.mint.2⟩

/-- An update follows the ledger, if it names the etag that the ledger has for it. -/
theorem does_act_updateRow (hfree : ∀ cell, IsFree cell) (hzero : ρ "0" = "0")
    (hinjective : Function.Injective ρ) (hnames : l.etags.Renames ρ (n + 2) source) (entry : Entry)
    (etag : String) (expected expected' : Version) :
    Program.Does (t.solo sites IsFree IsUntold) ⟨c, none, source⟩
      (t.program (.updateRow entry (ρ etag) expected'))
      (t.Follows ρ n (l.act t (.updateRow entry etag expected))) := by
  refine does_bind (does_updateRow hfree (hb.versionOf? hzero) (fun hnone => does_pure ?_)
    (fun bytes fault hstored hfault => ?_) (fun bytes found hstored hfound hne => does_pure ?_)
    fun bytes found hstored hfound heq c' hafter => does_pure ?_)
  · have hsaid : l.act t (.updateRow entry etag expected) = (.ok (.flag false), l) := by
      rw [Ledger.act, hb.find?_eq_none hnone]
    rw [hsaid]
    exact ⟨rfl, rfl, hb, hnames.mono (by omega)⟩
  · -- No row is unreadable that the table has written itself.
    obtain ⟨record, -, hread⟩ := hb.exists_record hstored
    exact absurd (hread.symm.trans hfault) (by simp)
  · obtain ⟨record, hrecord, hread⟩ := hb.exists_record hstored
    obtain rfl : record.rename ρ = found := Except.ok.inj (hread.symm.trans hfound)
    have hetag : record.etag ≠ etag := fun hetag => hne (congrArg ρ hetag)
    have hsaid : l.act t (.updateRow entry etag expected) = (.ok (.flag false), l) := by
      rw [Ledger.act, hrecord]
      exact if_neg hetag
    rw [hsaid]
    exact ⟨rfl, rfl, hb, hnames.mono (by omega)⟩
  · obtain ⟨record, hrecord, hread⟩ := hb.exists_record hstored
    obtain rfl : record.rename ρ = found := Except.ok.inj (hread.symm.trans hfound)
    -- Different etags are not renamed to the same one.
    have hetag : record.etag = etag := hinjective heq
    have hsaid : l.act t (.updateRow entry etag expected) =
        (.ok (.flag true), l.write t.codec entry) := by
      rw [Ledger.act, hrecord]
      exact if_pos hetag
    rw [hsaid]
    exact ⟨rfl, rfl, hb.write hnames hafter, hnames.mint.2.mint.2⟩

/-- A heartbeat follows the ledger. -/
theorem does_act_heartbeat (hfree : ∀ cell, IsFree cell)
    (hnames : l.etags.Renames ρ (n + 2) source) (entry : Entry) :
    Program.Does (t.solo sites IsFree IsUntold) ⟨c, none, source⟩ (t.program (.heartbeat entry))
      (t.Follows ρ n (l.act t (.heartbeat entry))) := by
  refine does_bind (does_heartbeat (hfree _) (fun hnone => does_pure ?_)
    -- No row; a row that cannot be read, of which a ledger has none; and a row.
    (fun bytes fault hstored hfault => ?_) fun bytes found hstored hfound => does_pure ?_)
  · have hsaid : l.act t (.heartbeat entry) = (.ok .done, l) := by
      rw [Ledger.act, hb.find?_eq_none hnone]
    rw [hsaid]
    exact ⟨rfl, rfl, hb, hnames.mono (by omega)⟩
  · obtain ⟨record, -, hread⟩ := hb.exists_record hstored
    exact absurd (hread.symm.trans hfault) (by simp)
  · obtain ⟨record, hrecord, hread⟩ := hb.exists_record hstored
    obtain rfl : record.rename ρ = found := Except.ok.inj (hread.symm.trans hfound)
    obtain ⟨hetag, hrest⟩ := hnames.mint
    have hsaid : l.act t (.heartbeat entry) = (.ok .done, l.beat t.codec entry record) := by
      rw [Ledger.act, hrecord]
    -- Only the row changes, so the version and the other rows are those of the ledger.
    have hothers : ∀ cell, cell ≠ t.rowCell entry.address →
        (c.insert (t.rowCell entry.address)
          ((record.rename ρ).beat entry.aliveTime source.mint.1).toBytes).find? cell =
          c.find? cell := fun cell hcell => SortedMap.find?_insert_of_ne _ _ hcell
    have hbears : t.Bears ρ (l.beat t.codec entry record) (c.insert (t.rowCell entry.address)
        ((record.rename ρ).beat entry.aliveTime source.mint.1).toBytes) := by
      refine hb.put _ ?_ ?_ fun other hother => ?_
      · exact (hothers _ (ne_versionCell rfl).symm).trans hb.version
      · rw [← hetag]
        exact SortedMap.find?_insert_self ..
      · exact hothers _ fun hcell => hother (congrArg Cell.key hcell)
    rw [hsaid]
    exact ⟨rfl, rfl, hbears, hrest.mono (by omega)⟩

/-- A reading of one row follows the ledger. -/
theorem does_act_readRow (hzero : ρ "0" = "0") (hnames : l.etags.Renames ρ n source)
    (address : Address) :
    Program.Does (t.solo sites IsFree IsUntold) ⟨c, none, source⟩ (t.program (.readRow address))
      (t.Follows ρ n (l.act t (.readRow address))) := by
  refine (does_readRow.answer Answer.roster).mono ?_
  rintro result k ⟨inner, rfl, rfl, rfl⟩
  let rows := (l.rows.find? (t.codec.encode address)).toList.map fun record =>
    (t.codec.encode address, record)
  have hrecords : rows.map Prod.snd = (l.rows.find? (t.codec.encode address)).toList := by
    rw [List.map_map]
    exact List.map_id _
  have hrows : ((c.find? (t.rowCell address)).toList.map fun bytes =>
      ((t.rowCell address).key, bytes)) = rows.map fun row => (row.1, recordBytes ρ row.2) := by
    -- The row that is stored, if there is one, is the renamed record of the ledger.
    rw [show c.find? (t.rowCell address) = _ from hb.rows _]
    dsimp only [rows]
    cases l.rows.find? (t.codec.encode address) <;> rfl
  have hanswer := hb.readingAnswer hzero rows
  rw [← hrows, hrecords] at hanswer
  exact ⟨hanswer, rfl, hb, hnames⟩

/-- A reading of all rows follows the ledger, if nothing tells it to give up. -/
theorem does_act_readAll (hcalm : IsUntold) (hzero : ρ "0" = "0")
    (hnames : l.etags.Renames ρ n source) :
    Program.Does (t.solo sites IsFree IsUntold) ⟨c, none, source⟩ (t.program .readAll)
      (t.Follows ρ n (l.act t .readAll)) := by
  refine ((does_readAll hcalm).answer Answer.roster).mono ?_
  rintro result k ⟨inner, rfl, rfl, rfl⟩
  have hanswer := hb.readingAnswer hzero l.rows.entries
  rw [← hb.rows_eq] at hanswer
  exact ⟨hanswer, rfl, hb, hnames⟩

/-- A deletion follows the ledger, if nothing tells it to give up. -/
theorem does_act_deleteEntries (hcalm : IsUntold) (hfree : ∀ cell, IsFree cell)
    (hnames : l.etags.Renames ρ n source) (clusterId : String) :
    Program.Does (t.solo sites IsFree IsUntold) ⟨c, none, source⟩
      (t.program (.deleteEntries clusterId))
      (t.Follows ρ n (l.act t (.deleteEntries clusterId))) := by
  -- The identifier of another cluster is refused before anything is asked.
  by_cases hcluster : clusterId = t.clusterId
  · subst hcluster
    have hsaid : l.act t (.deleteEntries t.clusterId) = (.ok .done, .fresh l.etags) := by
      rw [Ledger.act, if_pos rfl]
    rw [hsaid]
    refine does_bind (does_deleteEntries hcalm hfree fun c' hafter => does_pure ?_)
    have hcleared : ∀ key, c'.find? ⟨t.stateName, key⟩ = none := fun key => by
      rw [hafter, if_pos (.inr rfl)]
    have hversion : c'.find? t.versionCell = none := by
      rw [hafter, if_pos (.inl rfl)]
    exact ⟨rfl, rfl, bears_fresh ρ _ hcleared hversion, hnames⟩
  · have hsaid : l.act t (.deleteEntries clusterId) = (.ok .done, l) := by
      rw [Ledger.act, if_neg hcluster]
    rw [hsaid]
    exact does_bind (does_deleteEntries_of_ne hcluster (does_pure ⟨rfl, rfl, hb, hnames⟩))

/-- **An action that runs alone does what the ledger says.** It comes to an end with the answer of
the ledger, and leaves contents that bear the ledger afterwards. -/
theorem does_act (hcalm : IsUntold) (hfree : ∀ cell, IsFree cell) (hzero : ρ "0" = "0")
    (hinjective : Function.Injective ρ) (hnames : l.etags.Renames ρ (n + 2) source)
    (action : Action) :
    Program.Does (t.solo sites IsFree IsUntold) ⟨c, none, source⟩ (t.program (action.rename ρ))
      (t.Follows ρ n (l.act t action)) := by
  -- Two etags are enough for every action; those that mint fewer leave the others to come.
  have hfew : l.etags.Renames ρ n source := hnames.mono (by omega)
  cases action with
  | prepare createVersion => exact does_act_prepare hb hfree hzero hfew createVersion
  | insertRow entry expected => exact does_act_insertRow hb hfree hzero hnames entry _ _
  | updateRow entry etag expected =>
    exact does_act_updateRow hb hfree hzero hinjective hnames entry etag _ _
  | heartbeat entry => exact does_act_heartbeat hb hfree hnames entry
  | readRow address => exact does_act_readRow hb hzero hfew address
  | readAll => exact does_act_readAll hb hcalm hzero hfew
  | deleteEntries clusterId => exact does_act_deleteEntries hb hcalm hfree hfew clusterId

end Operations

end Muster.Table
