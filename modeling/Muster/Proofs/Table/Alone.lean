import Muster.Proofs.Stored.RoundTrip
import Muster.Proofs.System.Alone
import Muster.Proofs.Table.History

/-!
# Table operations that run alone

What an operation does when nothing else is under way, no failure is injected and nobody holds a
lock that it asks for. A reading answers what the committed contents say, and nothing else about the
store matters to it. A heartbeat rewrites the row that it finds: `heartbeat_merges` says of every
stored row, however it came to be there, what is kept of it and what is not.
-/

namespace Muster.Table

open Muster.Silo (Address Codec Entry)
open Stored (Record)
open Operation

variable {t : Table} {sites : SortedMap String Site} {IsFree : Cell → Prop} {IsUntold : Prop}
  {c : Contents} {source : Etag.Source}

/-- The setting of an operation that runs alone on the store of the table. -/
abbrev solo (t : Table) (sites : SortedMap String Site) (IsFree : Cell → Prop)
    (IsUntold : Prop) : Solo :=
  ⟨t.store, sites, IsFree, IsUntold⟩

/-! ## Readings -/

/-- What a reading makes of stored rows and a stored version. -/
def reading? (t : Table) (rows : List Row) (stored : Option Bytes) : Except Stored.Fault Roster := do
  let version ← versionOf? stored
  let members ← entriesOf? t.codec rows
  return ⟨members, version⟩

/-- What a reading of one row makes of contents. -/
def rowReading? (t : Table) (c : Contents) (address : Address) : Except Stored.Fault Roster :=
  t.reading? ((c.find? (t.rowCell address)).toList.map fun bytes => ((t.rowCell address).key, bytes))
    (c.find? t.versionCell)

/-- What a reading of all rows makes of contents. -/
def fullReading? (t : Table) (c : Contents) : Except Stored.Fault Roster :=
  t.reading? (c.rows t.stateName) (c.find? t.versionCell)

section Readings

variable {rows : List Row} {stored : Option Bytes} {version : Version}
  {members : List (Entry × String)} {fault : Stored.Fault}

/-- A reading is the roster of the rows and the version, if both can be read. -/
theorem reading?_ok (hversion : versionOf? stored = .ok version)
    (hmembers : entriesOf? t.codec rows = .ok members) :
    t.reading? rows stored = .ok ⟨members, version⟩ := by
  rw [reading?, hversion]
  dsimp only [bind, Except.bind]
  rw [hmembers]
  rfl

/-- A version that cannot be read is the fault of the reading. -/
theorem reading?_error_version (hversion : versionOf? stored = .error fault) :
    t.reading? rows stored = .error fault := by
  rw [reading?, hversion]
  rfl

/-- A row that cannot be read is its fault, too. -/
theorem reading?_error_members (hversion : versionOf? stored = .ok version)
    (hmembers : entriesOf? t.codec rows = .error fault) :
    t.reading? rows stored = .error fault := by
  rw [reading?, hversion]
  dsimp only [bind, Except.bind]
  rw [hmembers]

/-- A reading of one row answers what the contents say, and changes nothing. -/
theorem does_readRow {address : Address} :
    (t.readRow address).Does (t.solo sites IsFree IsUntold) ⟨c, none, source⟩ fun result k =>
      result = (t.rowReading? c address).mapError .stored ∧ k = ⟨c, none, source⟩ := by
  have hfree : ∀ cell, none = some cell → IsFree cell := fun _ hcell => absurd hcell (by simp)
  -- Both dictionaries are looked up, and then the transaction begins.
  refine does_bind (does_resolve rfl ?_)
  refine does_bind (does_resolve rfl ?_)
  refine does_bind (does_within rfl fun id => ?_)
  -- The row and the version are read under no lock, so no lock has to be free.
  refine does_bind (does_ask rfl hfree ?_)
  refine does_bind (does_ask rfl hfree ?_)
  refine does_bind (does_read ?_ ?_)
  · intro version hversion
    refine does_bind (does_discard rfl (does_pure ?_))
    refine does_bind (does_read ?_ ?_)
    · intro members hmembers
      refine does_pure ⟨?_, rfl⟩
      have hreading : t.rowReading? c address = .ok ⟨members, version⟩ :=
        reading?_ok hversion hmembers
      rw [hreading]
      rfl
    · intro fault hmembers
      refine ⟨?_, rfl⟩
      have hreading : t.rowReading? c address = .error fault :=
        reading?_error_members hversion hmembers
      rw [hreading]
      rfl
  -- The version is read within the transaction, so a fault of it discards the transaction.
  · intro fault hversion
    refine ⟨⟨_, rfl⟩, ?_, rfl⟩
    have hreading : t.rowReading? c address = .error fault := reading?_error_version hversion
    rw [hreading]
    rfl

/-- So does a reading of all rows, if nothing tells it to give up. -/
theorem does_readAll (hcalm : IsUntold) :
    t.readAll.Does (t.solo sites IsFree IsUntold) ⟨c, none, source⟩ fun result k =>
      result = (t.fullReading? c).mapError .stored ∧ k = ⟨c, none, source⟩ := by
  have hfree : ∀ cell, none = some cell → IsFree cell := fun _ hcell => absurd hcell (by simp)
  refine does_bind (does_resolve rfl ?_)
  refine does_bind (does_resolve rfl ?_)
  refine does_bind (does_within rfl fun id => ?_)
  -- The scan gives the rows of the snapshot, since nothing tells the reading to give up.
  refine does_bind (does_scan hcalm rfl rfl ?_)
  refine does_bind (does_ask rfl hfree ?_)
  refine does_bind (does_read ?_ ?_)
  · intro version hversion
    refine does_bind (does_discard rfl (does_pure ?_))
    refine does_bind (does_read ?_ ?_)
    · intro members hmembers
      refine does_bind (does_note _ (does_pure ⟨?_, rfl⟩))
      have hreading : t.fullReading? c = .ok ⟨members, version⟩ := reading?_ok hversion hmembers
      rw [hreading]
      rfl
    · intro fault hmembers
      refine ⟨?_, rfl⟩
      have hreading : t.fullReading? c = .error fault := reading?_error_members hversion hmembers
      rw [hreading]
      rfl
  · intro fault hversion
    refine ⟨⟨_, rfl⟩, ?_, rfl⟩
    have hreading : t.fullReading? c = .error fault := reading?_error_version hversion
    rw [hreading]
    rfl

/-- The answer of a reading that was made. -/
def readingAnswer (result : Except Stored.Fault Roster) : Except Failure Answer :=
  (result.mapError .stored).map .roster

variable {w : World} {site : Site} {me : Context}

/-- A reading of one row that runs alone answers what the contents say. -/
theorem run_readRow (h : w.IsQuiet t.store site IsFree) (me : Context) (address : Address) :
    ∃ w' me', w.run me (t.program (.readRow address)) =
      (w', me', .done (readingAnswer (t.rowReading? site.store.committed address))) := by
  obtain ⟨w', me', result, -, -, hrun, -, -, inner, rfl, rfl, -⟩ :=
    h.run me (does_readRow.answer Answer.roster)
  exact ⟨w', me', hrun⟩

/-- So does a reading of all rows, if nothing tells it to give up. -/
theorem run_readAll (h : w.IsQuiet t.store site IsFree) (hcancelled : me.isCancelled = false)
    (htrigger : me.trigger = .never) :
    ∃ w' me', w.run me (t.program .readAll) =
      (w', me', .done (readingAnswer (t.fullReading? site.store.committed))) := by
  obtain ⟨w', me', result, -, -, hrun, -, -, inner, rfl, rfl, -⟩ :=
    h.run me ((does_readAll ⟨hcancelled, htrigger⟩).answer Answer.roster)
  exact ⟨w', me', hrun⟩

end Readings

/-! ## Heartbeats -/

/-- What a heartbeat comes to in each case: there is no row, the row cannot be read, or it is
rewritten. -/
theorem does_heartbeat {entry : Entry} {Q : Except Failure Unit → Scene → Prop}
    (hfree : IsFree (t.rowCell entry.address))
    (hnone : c.find? (t.rowCell entry.address) = none → Q (.ok ()) ⟨c, none, source⟩)
    (hfault : ∀ bytes fault, c.find? (t.rowCell entry.address) = some bytes →
      Record.ofBytes? bytes = .error fault → Q (.error (.stored fault)) ⟨c, none, source⟩)
    (hbeat : ∀ bytes record, c.find? (t.rowCell entry.address) = some bytes →
      Record.ofBytes? bytes = .ok record →
      Q (.ok ()) ⟨c.insert (t.rowCell entry.address)
        (record.beat entry.aliveTime source.mint.1).toBytes, none, source.mint.2⟩) :
    (t.heartbeat entry).Does (t.solo sites IsFree IsUntold) ⟨c, none, source⟩ Q := by
  have hlock : ∀ cell, some (t.rowCell entry.address) = some cell → IsFree cell := by
    rintro cell hcell
    rwa [← Option.some.inj hcell]
  refine does_bind (does_resolve rfl ?_)
  refine does_within rfl fun id => ?_
  -- The row is read under its lock, and the transaction has buffered nothing yet.
  refine does_bind (does_ask rfl hlock ?_)
  dsimp only [Transaction.perform]
  rw [Transaction.view_begin]
  cases hrow : c.find? (t.rowCell entry.address) with
  | none =>
    refine does_bind (does_discard rfl ?_)
    exact does_note _ (hnone hrow)
  | some bytes =>
    refine does_bind (does_read ?_ ?_)
    · intro record hrecord
      refine does_bind (does_mint ?_)
      refine does_bind (does_ask rfl hlock ?_)
      refine does_bind (does_commit rfl ?_)
      exact does_note _ (hbeat bytes record hrow hrecord)
    · intro fault hrecord
      exact ⟨⟨_, rfl⟩, hfault bytes fault hrow hrecord⟩

/-- What a heartbeat that ends with `result` makes of the contents `c` and a source of etags. -/
structure Merges (t : Table) (entry : Entry) (c c' : Contents) (source source' : Etag.Source)
    (result : Except Failure Answer) : Prop where
  /-- All other cells are as they were. -/
  others : ∀ cell, cell ≠ t.rowCell entry.address → c'.find? cell = c.find? cell
  /-- So is the version. -/
  version : c'.find? t.versionCell = c.find? t.versionCell
  /-- Without a row the heartbeat is done, and nothing has changed. -/
  absent : c.find? (t.rowCell entry.address) = none → result = .ok .done ∧ c' = c
  /-- A row that cannot be read is its failure, and nothing has changed. -/
  unreadable : ∀ bytes fault, c.find? (t.rowCell entry.address) = some bytes →
    Record.ofBytes? bytes = .error fault → result = .error (.stored fault) ∧ c' = c
  /-- A row that is read keeps all its fields but the time of the heartbeat and the etag. -/
  beaten : ∀ bytes record, c.find? (t.rowCell entry.address) = some bytes →
    Record.ofBytes? bytes = .ok record →
    result = .ok .done ∧ source' = source.mint.2 ∧
      ∃ bytes', c'.find? (t.rowCell entry.address) = some bytes' ∧ Record.ofBytes? bytes' =
        .ok { record with aliveTime := entry.aliveTime, etag := source.mint.1 }

/-- A heartbeat that runs alone merges. -/
theorem does_merge {entry : Entry} (hfree : IsFree (t.rowCell entry.address)) :
    Program.Does (t.solo sites IsFree IsUntold) ⟨c, none, source⟩ (t.program (.heartbeat entry))
      fun result k => t.Merges entry c k.committed source k.etags result := by
  -- Of the cases of `Merges` each outcome of the heartbeat leaves one; the row rules out the rest.
  refine does_bind (does_heartbeat hfree ?_ ?_ ?_)
  · intro hnone
    refine does_pure ?_
    refine ⟨fun _ _ => rfl, rfl, fun _ => ⟨rfl, rfl⟩, fun _ _ hrow => ?_, fun _ _ hrow => ?_⟩
    · exact absurd (hnone.symm.trans hrow) (by simp)
    · exact absurd (hnone.symm.trans hrow) (by simp)
  · intro bytes fault hrow hfault
    refine ⟨fun _ _ => rfl, rfl, fun hnone => ?_, fun bytes' fault' hrow' hfault' => ?_,
      fun bytes' record hrow' hrecord => ?_⟩
    · exact absurd (hnone.symm.trans hrow) (by simp)
    · obtain rfl := Option.some.inj (hrow.symm.trans hrow')
      obtain rfl := Except.error.inj (hfault.symm.trans hfault')
      exact ⟨rfl, rfl⟩
    · obtain rfl := Option.some.inj (hrow.symm.trans hrow')
      exact absurd (hfault.symm.trans hrecord) (by simp)
  · intro bytes record hrow hrecord
    refine does_pure ?_
    have hothers : ∀ cell, cell ≠ t.rowCell entry.address →
        (c.insert (t.rowCell entry.address)
          (record.beat entry.aliveTime source.mint.1).toBytes).find? cell = c.find? cell :=
      fun cell hcell => SortedMap.find?_insert_of_ne _ _ hcell
    refine ⟨hothers, hothers _ (ne_versionCell rfl).symm, fun hnone => ?_,
      fun bytes' fault hrow' hfault => ?_, fun bytes' record' hrow' hrecord' => ?_⟩
    · exact absurd (hnone.symm.trans hrow) (by simp)
    · obtain rfl := Option.some.inj (hrow.symm.trans hrow')
      exact absurd (hrecord.symm.trans hfault) (by simp)
    · obtain rfl := Option.some.inj (hrow.symm.trans hrow')
      obtain rfl := Except.ok.inj (hrecord.symm.trans hrecord')
      exact ⟨rfl, rfl, _, SortedMap.find?_insert_self .., Stored.ofBytes?_toBytes _⟩

/-- **A heartbeat touches nothing else.** Whatever is stored, a heartbeat that runs alone comes to
its end. Without a row it is done and has changed nothing; a row that cannot be read is its failure.
A row that is read is rewritten with all its fields but for the time of the heartbeat and a newly
minted etag, whether or not its addresses can be decoded and whatever else the entry says. All other
cells, the version among them, and all other stores are as they were. -/
theorem heartbeat_merges (t : Table) (entry : Entry) {w : World} {site : Site}
    (h : w.IsQuiet t.store site (· = t.rowCell entry.address)) (me : Context) :
    ∃ w' me' result site', w.run me (t.program (.heartbeat entry)) = (w', me', .done result) ∧
      w'.sites.find? t.store = some site' ∧
      (∀ name, name ≠ t.store → w'.sites.find? name = w.sites.find? name) ∧
      t.Merges entry site.store.committed site'.store.committed w.etags w'.etags result := by
  obtain ⟨w', me', result, site', _, hrun, hsite', hothers, hmerges⟩ :=
    h.run me (does_merge rfl)
  exact ⟨w', me', result, site', hrun, hsite', hothers, hmerges⟩

namespace Sample

/-- A row as another program may have written it: its fields are in an order of their own, it has a
field of another name and no suspicions, and its address cannot be decoded. -/
def foreignRow : Bytes :=
  Bytes.ofText ("\x7b\"etag\":\"e\",\"more\":[1,\x7b\x7d],\"status\":\"Active\",\"proxy_port\":7," ++
    "\"start_time\":\"2024-01-01T01:00:00+01:00\",\"i_am_alive_time\":\"2023-12-31 22:59:60Z\"," ++
    "\"silo_name\":\"s\",\"host_name\":\"h\",\"silo_address\":\"nowhere\"\x7d")

/-- What the row is read as. -/
def foreignRecord : Record :=
  ⟨"nowhere", .active, 7, "h", "s", moment,
    ⟨⟨2023, 12, 31, by decide⟩, 82799, 1000000000, by decide, by decide, by decide⟩, [], "e"⟩

/-- The row is read, although a member is missing and another one has no meaning here. -/
theorem ofBytes?_foreignRow : Record.ofBytes? foreignRow = .ok foreignRecord := by
  have hread : (Record.ofBytes? foreignRow).toOption = some foreignRecord := by decide +kernel
  cases hrow : Record.ofBytes? foreignRow with
  | ok record =>
    rw [hrow] at hread
    rw [Option.some.inj hread]
  | error fault =>
    rw [hrow] at hread
    exact absurd hread (by simp [Except.toOption])

/-- A store that keeps the row. -/
def foreignSite : Site :=
  { Site.empty Site.defaultLockTimeout with
    store := { Store.empty with
      committed := SortedMap.empty.insert (table.rowCell address) foreignRow } }

/-- A world with that store. -/
def foreignWorld : World :=
  { world with sites := SortedMap.empty.insert "main" foreignSite }

/-- A world is quiet whose only store has neither locks nor planned failures. -/
theorem isQuiet_sole {site : Site} (hplan : site.plan = []) (hgate : site.gate = ⟨false, []⟩)
    (hlocks : site.store.locks = .empty) (etags : Etag.Source) (IsFree : Cell → Prop) :
    World.IsQuiet { world with sites := SortedMap.empty.insert "main" site, etags } "main" site
      IsFree where
  found := SortedMap.find?_insert_self ..
  plan := hplan
  gate := hgate
  locks _ _ := by rw [hlocks, SortedMap.find?_empty]
  handles _ := by simp [world]

/-- Nothing stands in the way in this world. -/
theorem isQuiet_foreignWorld (IsFree : Cell → Prop) :
    foreignWorld.IsQuiet "main" foreignSite IsFree :=
  isQuiet_sole rfl rfl rfl _ _

end Sample

/-- A heartbeat goes through although the program has been told to give up, and takes nothing but
the time from an entry that is at odds with the row. -/
theorem exists_beaten_foreignRow : ∃ w' me' site' bytes',
    Sample.foreignWorld.run (.start true .never) (Sample.table.program (.heartbeat Sample.entry)) =
      (w', me', .done (.ok .done)) ∧
    w'.sites.find? "main" = some site' ∧
    site'.store.committed.find? (Sample.table.rowCell Sample.address) = some bytes' ∧
    Record.ofBytes? bytes' =
      .ok { Sample.foreignRecord with aliveTime := Sample.moment, etag := "0-00000000" } := by
  obtain ⟨w', me', result, site', hrun, hsite', -, hmerges⟩ :=
    heartbeat_merges Sample.table Sample.entry (Sample.isQuiet_foreignWorld _) (.start true .never)
  obtain ⟨rfl, -, bytes', hbytes', hrecord⟩ :=
    hmerges.beaten _ _ (SortedMap.find?_insert_self ..) Sample.ofBytes?_foreignRow
  exact ⟨w', me', site', bytes', hrun, hsite', hbytes', hrecord⟩

end Muster.Table
