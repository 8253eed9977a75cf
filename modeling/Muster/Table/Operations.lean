import Muster.Program.Operation
import Muster.Stored.Writer
import Muster.Table.Roster

/-!
# The membership table

The table keeps one record for each silo in a dictionary named after its state, under the encoded
address of the silo. The version of the table is kept in a companion dictionary and moves in the
same transaction as every insert and update, so a reader sees rows and version of one moment. A
heartbeat changes a row without moving the version.
-/

namespace Muster

open Muster.Silo (Address Codec Entry)

/-- A membership table on a store. -/
structure Table where
  /-- The name under which the table looks up its dictionaries. -/
  owner : String
  /-- The name of the store. -/
  store : String
  /-- The cluster whose members the table holds. -/
  clusterId : String
  /-- The name of the dictionary of the rows. -/
  stateName : String
  /-- How addresses are stored. -/
  codec : Codec

namespace Table

open Operation

/-- The dictionary of the rows. -/
def members (t : Table) : Handle :=
  ⟨t.store, t.owner, t.stateName⟩

/-- The dictionary of the version. -/
def versions (t : Table) : Handle :=
  ⟨t.store, t.owner, t.stateName ++ ".version"⟩

/-- The cell of a silo's row. -/
def rowCell (t : Table) (address : Address) : Cell :=
  ⟨t.stateName, t.codec.encode address⟩

/-- The cell of the version. -/
def versionCell (t : Table) : Cell :=
  ⟨t.stateName ++ ".version", "version"⟩

/-- The version that stored bytes hold; without any it is the initial one. -/
def versionOf? : Option Bytes → Except Stored.Fault Version
  | some bytes => Stored.versionOfBytes? bytes
  | none => .ok .initial

/-- The entries of rows with their etags. -/
def entriesOf? (codec : Codec) (rows : List Row) : Except Stored.Fault (List (Entry × String)) :=
  rows.mapM fun row => Stored.entryOfBytes? codec row.2

/-- Gets the table ready; with `createVersion`, the version record is created unless there is
one. -/
def prepare (t : Table) (createVersion : Bool) : Operation Unit := do
  resolve t.members
  resolve t.versions
  if createVersion then
    within t.store fun tx => do
      if ← ask t.store tx (.add t.versionCell (Stored.versionToBytes .initial)) then
        commit tx
        note (.createdVersion t.clusterId)
      else discard tx
  note (.tableReady t.clusterId t.stateName)

/-- Moves the version on inside a transaction. What the caller expected is only compared. -/
def advanceVersion (t : Table) (tx : Ticket) (expected : Version) : Operation Version := do
  resolve t.versions
  let current ← read (versionOf? (← ask t.store tx (.readLocked t.versionCell)))
  let next := current.next (← perform .mint)
  if next.number ≠ expected.number then
    note (.versionDiffers t.clusterId expected current)
  ask t.store tx (.set t.versionCell (Stored.versionToBytes next))
  return next

/-- Inserts the row of an entry unless the silo has one; the answer is whether it was inserted. -/
def insertRow (t : Table) (entry : Entry) (expected : Version) : Operation Bool := do
  resolve t.members
  let etag ← perform .mint
  let record := Stored.Record.ofEntry t.codec entry etag
  within t.store fun tx => do
    -- The add takes the lock of the row and keeps it, whether or not there is a row.
    if ← ask t.store tx (.add (t.rowCell entry.address) record.toBytes) then
      let version ← t.advanceVersion tx expected
      commit tx
      note (.inserted entry.address entry.status etag version)
      return true
    else
      discard tx
      note (.rowExists entry.address)
      return false

/-- Replaces the row of an entry if its etag is the given one; the answer is whether it was
replaced. -/
def updateRow (t : Table) (entry : Entry) (etag : String) (expected : Version) :
    Operation Bool := do
  resolve t.members
  within t.store fun tx => do
    match ← ask t.store tx (.readLocked (t.rowCell entry.address)) with
    | none =>
      discard tx
      note (.noRowToUpdate entry.address)
      return false
    | some bytes =>
      -- The row is read under its lock, so it stays as it is until the commit.
      let current ← read (Stored.Record.ofBytes? bytes)
      if current.etag ≠ etag then
        discard tx
        note (.etagMismatch entry.address etag current.etag)
        return false
      else
        let newEtag ← perform .mint
        let record := Stored.Record.ofEntry t.codec entry newEtag
        ask t.store tx (.set (t.rowCell entry.address) record.toBytes)
        let version ← t.advanceVersion tx expected
        commit tx
        note (.updated entry.address entry.status newEtag version)
        return true

/-- Writes the heartbeat of an entry into the row of its silo and leaves the rest of the row as it
is; without a row nothing is written. -/
def heartbeat (t : Table) (entry : Entry) : Operation Unit := do
  resolve t.members
  within t.store fun tx => do
    match ← ask t.store tx (.readLocked (t.rowCell entry.address)) with
    | none =>
      discard tx
      note (.noRowForHeartbeat entry.address)
    | some bytes =>
      let record ← read (Stored.Record.ofBytes? bytes)
      let record := record.beat entry.aliveTime (← perform .mint)
      ask t.store tx (.set (t.rowCell entry.address) record.toBytes)
      commit tx
      note (.heartbeat entry.address entry.aliveTime)

/-- Reads the row of one silo and the version. -/
def readRow (t : Table) (address : Address) : Operation Roster := do
  resolve t.members
  resolve t.versions
  let (stored, version) ← within t.store fun tx => do
    let stored ← ask t.store tx (.read (t.rowCell address))
    let version ← read (versionOf? (← ask t.store tx (.read t.versionCell)))
    discard tx
    return (stored, version)
  let rows := stored.toList.map fun bytes => ((t.rowCell address).key, bytes)
  let members ← read (entriesOf? t.codec rows)
  return ⟨members, version⟩

/-- Reads all rows and the version. -/
def readAll (t : Table) : Operation Roster := do
  resolve t.members
  resolve t.versions
  let (rows, version) ← within t.store fun tx => do
    let rows ← scan t.members tx
    let version ← read (versionOf? (← ask t.store tx (.read t.versionCell)))
    discard tx
    return (rows, version)
  let members ← read (entriesOf? t.codec rows)
  note (.readTable t.clusterId members.length version)
  return ⟨members, version⟩

/-- Removes rows inside a transaction, unless the operation is told to give up. -/
def removeRows (t : Table) (tx : Ticket) : List Row → Operation Unit
  | [] => return ()
  | row :: rest => do
    checkCancelled
    let _ ← ask t.store tx (.remove ⟨t.stateName, row.1⟩)
    removeRows t tx rest

/-- Removes all rows and the version if `clusterId` is the cluster of the table; a request for
another cluster is ignored. -/
def deleteEntries (t : Table) (clusterId : String) : Operation Unit := do
  if clusterId ≠ t.clusterId then
    note (.ignoredDelete clusterId t.clusterId)
  else
    resolve t.members
    resolve t.versions
    let count ← within t.store fun tx => do
      -- The rows are those of the snapshot; what is inserted later is not removed.
      let rows ← scan t.members tx
      t.removeRows tx rows
      let _ ← ask t.store tx (.remove t.versionCell)
      checkCancelled
      commit tx
      return rows.length
    note (.deleted t.clusterId count)

end Table

end Muster
