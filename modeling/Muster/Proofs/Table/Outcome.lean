import Muster.Proofs.Program.Course
import Muster.Table.Operations

/-!
# Outcomes of table operations

An operation of the table that does not fail ends in one of few ways. `Table.Outcome` lists them:
for each one what the transaction of the operation was answered, which etags the operation was given
and what its answer is. `isFollowed` says that there are no others, and that an operation commits
only as one of them says.
-/

namespace Muster.Table

open Muster.Silo (Address Codec Entry)
open Stored (Record)
open Operation

/-- The operations of a table with their arguments. -/
inductive Action
  /-- Gets the table ready, with or without a version record. -/
  | prepare (createVersion : Bool)
  /-- Inserts a row. -/
  | insertRow (entry : Entry) (expected : Version)
  /-- Replaces a row whose etag is the given one. -/
  | updateRow (entry : Entry) (etag : String) (expected : Version)
  /-- Writes a heartbeat. -/
  | heartbeat (entry : Entry)
  /-- Reads one row. -/
  | readRow (address : Address)
  /-- Reads all rows. -/
  | readAll
  /-- Removes all rows of a cluster. -/
  | deleteEntries (clusterId : String)
  deriving DecidableEq

/-- The answers of operations. -/
inductive Answer
  /-- It is done. -/
  | done
  /-- Whether something was written. -/
  | flag (isWritten : Bool)
  /-- What was read. -/
  | roster (roster : Roster)
  deriving DecidableEq

/-- The operation of an action. -/
def operation (t : Table) : Action → Operation Answer
  | .prepare createVersion => do
    t.prepare createVersion
    return .done
  | .insertRow entry expected => return .flag (← t.insertRow entry expected)
  | .updateRow entry etag expected => return .flag (← t.updateRow entry etag expected)
  | .heartbeat entry => do
    t.heartbeat entry
    return .done
  | .readRow address => return .roster (← t.readRow address)
  | .readAll => return .roster (← t.readAll)
  | .deleteEntries clusterId => do
    t.deleteEntries clusterId
    return .done

/-- The program of an action. -/
def program (t : Table) (action : Action) : Program (Except Failure Answer) :=
  (t.operation action).run

/-- The record that a row holds for an entry. -/
def rowBytes (t : Table) (entry : Entry) (etag : String) : Bytes :=
  (Record.ofEntry t.codec entry etag).toBytes

/-- The answered requests with which the version moves on to one with a new etag. -/
def versionMove (t : Table) (stored : Option Bytes) (next : Version) : List Answered :=
  [⟨.set t.versionCell (Stored.versionToBytes next), ()⟩, ⟨.readLocked t.versionCell, stored⟩]

/-- The answered requests clear the given rows one after another. -/
def Clears (t : Table) (rows : List Row) (removals : List Answered) : Prop :=
  removals.reverse.map Sigma.fst = rows.map fun row => .remove ⟨t.stateName, row.1⟩

/-- The ways in which an action ends without failure: the course of its program and its answer. -/
inductive Outcome (t : Table) : Action → Course → Answer → Prop
  /-- The table is ready, and no version record was asked for. -/
  | prepared : Outcome t (.prepare false) .start .done
  /-- The version record was created. -/
  | createdVersion (tx : Ticket) :
    Outcome t (.prepare true)
      ⟨.committed tx, [⟨.add t.versionCell (Stored.versionToBytes .initial), true⟩], []⟩ .done
  /-- There was a version record. -/
  | versionExists (tx : Ticket) :
    Outcome t (.prepare true)
      ⟨.discarded tx, [⟨.add t.versionCell (Stored.versionToBytes .initial), false⟩], []⟩ .done
  /-- The row was inserted, and the version moved on. -/
  | inserted (tx : Ticket) (entry : Entry) (expected : Version) (rowEtag versionEtag : String)
    (stored : Option Bytes) (version : Version) (hversion : versionOf? stored = .ok version) :
    Outcome t (.insertRow entry expected)
      ⟨.committed tx, t.versionMove stored (version.next versionEtag) ++
        [⟨.add (t.rowCell entry.address) (t.rowBytes entry rowEtag), true⟩],
        [versionEtag, rowEtag]⟩ (.flag true)
  /-- The silo had a row. -/
  | rowExists (tx : Ticket) (entry : Entry) (expected : Version) (rowEtag : String) :
    Outcome t (.insertRow entry expected)
      ⟨.discarded tx, [⟨.add (t.rowCell entry.address) (t.rowBytes entry rowEtag), false⟩],
        [rowEtag]⟩ (.flag false)
  /-- The row was replaced, and the version moved on. -/
  | updated (tx : Ticket) (entry : Entry) (expected : Version) (rowEtag versionEtag : String)
    (bytes : Bytes) (record : Record) (stored : Option Bytes) (version : Version)
    (hrecord : Record.ofBytes? bytes = .ok record) (hversion : versionOf? stored = .ok version) :
    Outcome t (.updateRow entry record.etag expected)
      ⟨.committed tx, t.versionMove stored (version.next versionEtag) ++
        [⟨.set (t.rowCell entry.address) (t.rowBytes entry rowEtag), ()⟩,
          ⟨.readLocked (t.rowCell entry.address), some bytes⟩],
        [versionEtag, rowEtag]⟩ (.flag true)
  /-- The silo had no row to update. -/
  | noRowToUpdate (tx : Ticket) (entry : Entry) (etag : String) (expected : Version) :
    Outcome t (.updateRow entry etag expected)
      ⟨.discarded tx, [⟨.readLocked (t.rowCell entry.address), none⟩], []⟩ (.flag false)
  /-- The row had another etag. -/
  | etagMismatch (tx : Ticket) (entry : Entry) (etag : String) (expected : Version) (bytes : Bytes)
    (record : Record) (hrecord : Record.ofBytes? bytes = .ok record) (hne : record.etag ≠ etag) :
    Outcome t (.updateRow entry etag expected)
      ⟨.discarded tx, [⟨.readLocked (t.rowCell entry.address), some bytes⟩], []⟩ (.flag false)
  /-- The heartbeat was written. -/
  | beaten (tx : Ticket) (entry : Entry) (rowEtag : String) (bytes : Bytes) (record : Record)
    (hrecord : Record.ofBytes? bytes = .ok record) :
    Outcome t (.heartbeat entry)
      ⟨.committed tx, [
        ⟨.set (t.rowCell entry.address) (record.beat entry.aliveTime rowEtag).toBytes, ()⟩,
        ⟨.readLocked (t.rowCell entry.address), some bytes⟩], [rowEtag]⟩ .done
  /-- The silo had no row for its heartbeat. -/
  | noRowForHeartbeat (tx : Ticket) (entry : Entry) :
    Outcome t (.heartbeat entry)
      ⟨.discarded tx, [⟨.readLocked (t.rowCell entry.address), none⟩], []⟩ .done
  /-- The row and the version were read. -/
  | rowRead (tx : Ticket) (address : Address) (row stored : Option Bytes)
    (members : List (Entry × String)) (version : Version)
    (hversion : versionOf? stored = .ok version)
    (hmembers : entriesOf? t.codec (row.toList.map fun bytes => ((t.rowCell address).key, bytes)) =
      .ok members) :
    Outcome t (.readRow address)
      ⟨.discarded tx, [⟨.read t.versionCell, stored⟩, ⟨.read (t.rowCell address), row⟩], []⟩
      (.roster ⟨members, version⟩)
  /-- All rows and the version were read. -/
  | allRead (tx : Ticket) (rows : List Row) (stored : Option Bytes)
    (members : List (Entry × String)) (version : Version)
    (hversion : versionOf? stored = .ok version)
    (hmembers : entriesOf? t.codec rows = .ok members) :
    Outcome t .readAll
      ⟨.discarded tx, [⟨.read t.versionCell, stored⟩, ⟨.scan t.stateName, rows⟩], []⟩
      (.roster ⟨members, version⟩)
  /-- The request was for another cluster. -/
  | ignoredDelete (clusterId : String) (hne : clusterId ≠ t.clusterId) :
    Outcome t (.deleteEntries clusterId) .start .done
  /-- The rows that were scanned and the version were cleared. -/
  | deleted (tx : Ticket) (rows : List Row) (removals : List Answered) (stored : Option Bytes)
    (hremovals : t.Clears rows removals) :
    Outcome t (.deleteEntries t.clusterId)
      ⟨.committed tx, ⟨.remove t.versionCell, stored⟩ :: removals ++
        [⟨.scan t.stateName, rows⟩], []⟩ .done

/-- An action may use the store of the table and commit as its outcomes say. -/
def discipline (t : Table) (action : Action) : Discipline :=
  ⟨t.store, fun k => ∃ answer, t.Outcome action k answer⟩

variable {t : Table} {action : Action} {k : Course} {E : Course → Prop}

/-- The version moves on with two requests and one etag. -/
theorem along_advanceVersion {tx : Ticket} {expected : Version} {Q : Version → Course → Prop}
    (hstage : k.stage = .opened tx) (hstore : tx.store = t.store)
    (hE : ∀ k : Course, k.stage = .opened tx → E k)
    (h : ∀ stored version etag, versionOf? stored = .ok version →
      Q (version.next etag) { k with
        requests := t.versionMove stored (version.next etag) ++ k.requests
        etags := etag :: k.etags }) :
    Along (t.discipline action) E (t.advanceVersion tx expected) k Q := by
  refine along_bind (along_resolve _ ?_ (hE _ hstage))
  refine along_bind (along_ask hstage hstore (hE _ hstage) fun stored => ?_)
  refine along_bind (along_read (fun version hversion => ?_) (hE _ hstage))
  refine along_bind (along_mint (.inr ⟨tx, hstage⟩) fun etag => ?_)
  -- A version other than the expected one is only noted; either way it is replaced.
  have hset : Along (t.discipline action) E (do
      ask t.store tx (.set t.versionCell (Stored.versionToBytes (version.next etag)))
      return version.next etag)
      { k with
        requests := ⟨.readLocked t.versionCell, stored⟩ :: k.requests
        etags := etag :: k.etags } Q :=
    along_bind (along_ask hstage hstore (hE _ hstage) fun _ =>
      along_pure (h stored version etag hversion))
  dsimp only
  split
  · exact along_bind (along_note _ hset)
  · exact hset

/-- Each row that is removed adds one request. -/
theorem along_removeRows {tx : Ticket} {rows : List Row} {Q : Unit → Course → Prop}
    (hstage : k.stage = .opened tx) (hstore : tx.store = t.store)
    (hE : ∀ k : Course, k.stage = .opened tx → E k)
    (h : ∀ removals, t.Clears rows removals → Q () { k with requests := removals ++ k.requests }) :
    Along (t.discipline action) E (t.removeRows tx rows) k Q := by
  -- Along the rows, each behind a look at the token.
  induction rows generalizing k with
  | nil => exact along_pure (h [] rfl)
  | cons row rest ih =>
    refine along_bind (along_checkCancelled ?_ (hE _ hstage))
    refine along_bind (along_ask hstage hstore (hE _ hstage) fun old => ?_)
    refine ih hstage fun removals hremovals => ?_
    -- The removals so far are those of the rows so far, in reverse.
    have hclears : t.Clears (row :: rest) (removals ++ [⟨.remove ⟨t.stateName, row.1⟩, old⟩]) := by
      rw [Clears, List.reverse_append, List.map_append, hremovals]
      rfl
    have hQ := h _ hclears
    rwa [List.append_assoc] at hQ

/-- An action ends with one of its outcomes, or it fails without having committed anything. -/
def IsFollowed (t : Table) (action : Action) : Prop :=
  Along (t.discipline action) Course.IsFailed (t.operation action) .start
    fun answer k => t.Outcome action k answer

/-- An operation that has not begun a transaction may fail. -/
theorem isFailed_start : Course.IsFailed .start :=
  .inl rfl

/-- A transaction that is open has not been committed. -/
theorem isOn_of_opened {tx : Ticket} (k : Course) (h : k.stage = .opened tx) : k.IsOn tx :=
  .inl h

/-- Getting the table ready is one request, if any. -/
theorem isFollowed_prepare (t : Table) (createVersion : Bool) :
    t.IsFollowed (.prepare createVersion) := by
  refine along_bind (along_bind (along_resolve _ ?_ isFailed_start))
  refine along_bind (along_resolve _ ?_ isFailed_start)
  cases createVersion with
  | false => exact along_note _ (along_pure .prepared)
  | true =>
    refine along_bind (along_within rfl fun tx htx => ?_)
    -- The version record is added, or there is one already.
    refine along_bind (along_ask rfl htx (isOn_of_opened _ rfl) fun isAdded => ?_)
    cases isAdded with
    | true =>
      refine along_bind (along_commit rfl ⟨_, .createdVersion tx⟩ (.inr rfl) ?_)
      exact along_note _ (along_note _ (along_pure (.createdVersion tx)))
    | false =>
      exact along_discard (.inl rfl) (along_note _ (along_pure (.versionExists tx)))

/-- An insertion adds the row and then moves the version on. -/
theorem isFollowed_insertRow (t : Table) (entry : Entry) (expected : Version) :
    t.IsFollowed (.insertRow entry expected) := by
  refine along_bind (along_bind (along_resolve _ ?_ isFailed_start))
  refine along_bind (along_mint (.inl rfl) fun rowEtag => ?_)
  refine along_within rfl fun tx htx => ?_
  refine along_bind (along_ask rfl htx (isOn_of_opened _ rfl) fun isAdded => ?_)
  -- The row is added and the version moves on, or there is a row already.
  cases isAdded with
  | true =>
    refine along_bind
      (along_advanceVersion rfl htx isOn_of_opened fun stored version versionEtag hv => ?_)
    have houtcome := Outcome.inserted (t := t) tx entry expected rowEtag versionEtag stored
      version hv
    refine along_bind (along_commit rfl ⟨_, houtcome⟩ (.inr rfl) ?_)
    exact along_bind (along_note _ (along_pure (along_pure houtcome)))
  | false =>
    refine along_bind (along_discard (.inl rfl) ?_)
    exact along_bind (along_note _ (along_pure (along_pure (.rowExists tx entry expected rowEtag))))

/-- An update reads the row under its lock, replaces it and then moves the version on. -/
theorem isFollowed_updateRow (t : Table) (entry : Entry) (etag : String) (expected : Version) :
    t.IsFollowed (.updateRow entry etag expected) := by
  refine along_bind (along_bind (along_resolve _ ?_ isFailed_start))
  refine along_within rfl fun tx htx => ?_
  refine along_bind (along_ask rfl htx (isOn_of_opened _ rfl) fun current => ?_)
  cases current with
  | none =>
    refine along_bind (along_discard (.inl rfl) ?_)
    exact along_bind (along_note _
      (along_pure (along_pure (.noRowToUpdate tx entry etag expected))))
  | some bytes =>
    refine along_bind (along_read (fun record hrecord => ?_) (isOn_of_opened _ rfl))
    -- The row carries the etag that is expected, or another one.
    by_cases hetag : record.etag = etag
    · subst hetag
      rw [if_neg (not_not_intro rfl)]
      refine along_bind (along_mint (.inr ⟨tx, rfl⟩) fun rowEtag => ?_)
      refine along_bind (along_ask rfl htx (isOn_of_opened _ rfl) fun _ => ?_)
      refine along_bind
        (along_advanceVersion rfl htx isOn_of_opened fun stored version versionEtag hv => ?_)
      have houtcome := Outcome.updated (t := t) tx entry expected rowEtag versionEtag bytes record
        stored version hrecord hv
      refine along_bind (along_commit rfl ⟨_, houtcome⟩ (.inr rfl) ?_)
      exact along_bind (along_note _ (along_pure (along_pure houtcome)))
    · rw [if_pos hetag]
      refine along_bind (along_discard (.inl rfl) ?_)
      exact along_bind (along_note _ (along_pure
        (along_pure (.etagMismatch tx entry etag expected bytes record hrecord hetag))))

/-- A heartbeat reads the row under its lock and replaces it. -/
theorem isFollowed_heartbeat (t : Table) (entry : Entry) :
    t.IsFollowed (.heartbeat entry) := by
  refine along_bind (along_bind (along_resolve _ ?_ isFailed_start))
  refine along_within rfl fun tx htx => ?_
  refine along_bind (along_ask rfl htx (isOn_of_opened _ rfl) fun current => ?_)
  cases current with
  | none =>
    refine along_bind (along_discard (.inl rfl) ?_)
    exact along_note _ (along_pure (.noRowForHeartbeat tx entry))
  | some bytes =>
    refine along_bind (along_read (fun record hrecord => ?_) (isOn_of_opened _ rfl))
    -- The row is written back with the new time and a new etag.
    refine along_bind (along_mint (.inr ⟨tx, rfl⟩) fun rowEtag => ?_)
    refine along_bind (along_ask rfl htx (isOn_of_opened _ rfl) fun _ => ?_)
    have houtcome := Outcome.beaten (t := t) tx entry rowEtag bytes record hrecord
    refine along_bind (along_commit rfl ⟨_, houtcome⟩ (.inr rfl) ?_)
    exact along_note _ (along_pure houtcome)

/-- Reading a row is two requests without locks. -/
theorem isFollowed_readRow (t : Table) (address : Address) :
    t.IsFollowed (.readRow address) := by
  refine along_bind (along_bind (along_resolve _ ?_ isFailed_start))
  refine along_bind (along_resolve _ ?_ isFailed_start)
  refine along_bind (along_within rfl fun tx htx => ?_)
  refine along_bind (along_ask rfl htx (isOn_of_opened _ rfl) fun row => ?_)
  refine along_bind (along_ask rfl htx (isOn_of_opened _ rfl) fun stored => ?_)
  refine along_bind (along_read (fun version hv => ?_) (isOn_of_opened _ rfl))
  refine along_bind (along_discard (.inl rfl) (along_pure ?_))
  refine along_bind (along_read (fun members hmembers => ?_) (.inr ⟨tx, rfl⟩))
  exact along_pure (along_pure (.rowRead tx address row stored members version hv hmembers))

/-- Reading all rows is a scan and a request without locks. -/
theorem isFollowed_readAll (t : Table) :
    t.IsFollowed .readAll := by
  refine along_bind (along_bind (along_resolve _ ?_ isFailed_start))
  refine along_bind (along_resolve _ ?_ isFailed_start)
  refine along_bind (along_within rfl fun tx htx => ?_)
  refine along_bind (along_scan rfl rfl htx isOn_of_opened fun rows => ?_)
  refine along_bind (along_ask rfl htx (isOn_of_opened _ rfl) fun stored => ?_)
  refine along_bind (along_read (fun version hv => ?_) (isOn_of_opened _ rfl))
  refine along_bind (along_discard (.inl rfl) (along_pure ?_))
  refine along_bind (along_read (fun members hmembers => ?_) (.inr ⟨tx, rfl⟩))
  refine along_bind (along_note _ ?_)
  exact along_pure (along_pure (.allRead tx rows stored members version hv hmembers))

/-- A deletion scans the rows, clears each of them and then the version. -/
theorem isFollowed_deleteEntries (t : Table) (clusterId : String) :
    t.IsFollowed (.deleteEntries clusterId) := by
  refine along_bind ?_
  unfold deleteEntries
  by_cases hcluster : clusterId = t.clusterId
  · subst hcluster
    rw [if_neg (not_not_intro rfl)]
    refine along_bind (along_resolve _ ?_ isFailed_start)
    refine along_bind (along_resolve _ ?_ isFailed_start)
    refine along_bind (along_within rfl fun tx htx => ?_)
    refine along_bind (along_scan rfl rfl htx isOn_of_opened fun rows => ?_)
    -- All rows of the scan and then the version are cleared.
    refine along_bind (along_removeRows rfl htx isOn_of_opened fun removals hremovals => ?_)
    refine along_bind (along_ask rfl htx (isOn_of_opened _ rfl) fun stored => ?_)
    refine along_bind (along_checkCancelled ?_ (isOn_of_opened _ rfl))
    have houtcome := Outcome.deleted (t := t) tx rows removals stored hremovals
    refine along_bind (along_commit rfl ⟨_, houtcome⟩ (.inr rfl) (along_pure ?_))
    exact along_note _ (along_pure houtcome)
  · rw [if_pos hcluster]
    exact along_note _ (along_pure (.ignoredDelete clusterId hcluster))

/-- **Every action ends with one of its outcomes or fails without having committed anything.** -/
theorem isFollowed (t : Table) (action : Action) : t.IsFollowed action := by
  cases action with
  | prepare createVersion => exact t.isFollowed_prepare createVersion
  | insertRow entry expected => exact t.isFollowed_insertRow entry expected
  | updateRow entry etag expected => exact t.isFollowed_updateRow entry etag expected
  | heartbeat entry => exact t.isFollowed_heartbeat entry
  | readRow address => exact t.isFollowed_readRow address
  | readAll => exact t.isFollowed_readAll
  | deleteEntries clusterId => exact t.isFollowed_deleteEntries clusterId

end Muster.Table
