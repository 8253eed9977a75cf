import Muster.Json.Reader
import Muster.Stored.Record

/-!
# Reading stored records

A record is read from JSON with its members in any order and among members of other names, so that
rows written by other versions of a program stay readable; only the suspicions may be missing.
-/

namespace Muster.Stored

open Muster.Json (Field Shape)
open Muster.Silo (Address Codec Entry Status)
open Muster.Time (Timestamp)

/-- Why stored bytes are no entry. -/
inductive Fault
  /-- They are not the JSON text of a record. -/
  | json (fault : Json.Fault)
  /-- A stored address cannot be decoded. -/
  | address (fault : Address.Fault)

/-- The fault in words. -/
def Fault.message : Fault → String
  | .json fault => "failed to deserialize record: " ++ fault.message
  | .address fault => fault.message

/-- The value of a field, or its name if it is missing. -/
def required (name : String) : Option α → Except String α
  | some a => .ok a
  | none => .error name

/-- A suspicion of which some fields are read. -/
structure SuspicionDraft where
  /-- The stored text of the suspecting silo. -/
  address : Option String := none
  /-- When the suspicion was raised. -/
  time : Option Timestamp := none

/-- The fields of a suspicion. -/
def suspicionShape : Shape SuspicionDraft Suspicion where
  description := "struct StoredSuspectTime"
  fields := [
    { name := "silo_address", isSet := (·.address.isSome),
      read := fun d text => (Json.readAnyText text).map fun (v, rest) =>
        ({ d with address := some v }, rest) },
    { name := "suspect_time", isSet := (·.time.isSome),
      read := fun d text => (Json.readTimestamp text).map fun (v, rest) =>
        ({ d with time := some v }, rest) }]
  blank := {}
  finish d := return ⟨← required "silo_address" d.address, ← required "suspect_time" d.time⟩

/-- A record of which some fields are read. -/
structure RecordDraft where
  /-- The stored text of the address. -/
  address : Option String := none
  /-- The stage that the silo is in. -/
  status : Option Status := none
  /-- The port of its gateway. -/
  proxyPort : Option UInt16 := none
  /-- The host that it runs on. -/
  hostName : Option String := none
  /-- The name of the silo. -/
  siloName : Option String := none
  /-- When it started. -/
  startTime : Option Timestamp := none
  /-- When it last said that it is alive. -/
  aliveTime : Option Timestamp := none
  /-- Which silos suspect it. -/
  suspicions : Option (List Suspicion) := none
  /-- The etag. -/
  etag : Option String := none

/-- Reads a status. -/
def readStatus : Bytes → Except Json.Fault (Status × Bytes) :=
  Json.readChoice Status.ofName? (Status.all.map Status.name)

/-- The fields of a record. -/
def recordShape : Shape RecordDraft Record where
  description := "struct StoredRecord"
  fields := [
    { name := "silo_address", isSet := (·.address.isSome),
      read := fun d text => (Json.readAnyText text).map fun (v, rest) =>
        ({ d with address := some v }, rest) },
    { name := "status", isSet := (·.status.isSome),
      read := fun d text => (readStatus text).map fun (v, rest) =>
        ({ d with status := some v }, rest) },
    { name := "proxy_port", isSet := (·.proxyPort.isSome),
      read := fun d text => (Json.readUInt16 text).map fun (v, rest) =>
        ({ d with proxyPort := some v }, rest) },
    { name := "host_name", isSet := (·.hostName.isSome),
      read := fun d text => (Json.readAnyText text).map fun (v, rest) =>
        ({ d with hostName := some v }, rest) },
    { name := "silo_name", isSet := (·.siloName.isSome),
      read := fun d text => (Json.readAnyText text).map fun (v, rest) =>
        ({ d with siloName := some v }, rest) },
    { name := "start_time", isSet := (·.startTime.isSome),
      read := fun d text => (Json.readTimestamp text).map fun (v, rest) =>
        ({ d with startTime := some v }, rest) },
    { name := "i_am_alive_time", isSet := (·.aliveTime.isSome),
      read := fun d text => (Json.readTimestamp text).map fun (v, rest) =>
        ({ d with aliveTime := some v }, rest) },
    { name := "suspect_times", isSet := (·.suspicions.isSome), isOptional := true,
      read := fun d text => (Json.readArray suspicionShape.read text).map fun (v, rest) =>
        ({ d with suspicions := some v }, rest) },
    { name := "etag", isSet := (·.etag.isSome),
      read := fun d text => (Json.readAnyText text).map fun (v, rest) =>
        ({ d with etag := some v }, rest) }]
  blank := {}
  finish d := return {
    address := ← required "silo_address" d.address
    status := ← required "status" d.status
    proxyPort := ← required "proxy_port" d.proxyPort
    hostName := ← required "host_name" d.hostName
    siloName := ← required "silo_name" d.siloName
    startTime := ← required "start_time" d.startTime
    aliveTime := ← required "i_am_alive_time" d.aliveTime
    suspicions := d.suspicions.getD []
    etag := ← required "etag" d.etag }

/-- A version of which some fields are read. -/
structure VersionDraft where
  /-- The number. -/
  number : Option Int32 := none
  /-- The etag. -/
  etag : Option String := none

/-- The fields of a version. -/
def versionShape : Shape VersionDraft Table.Version where
  description := "struct StoredTableVersion"
  fields := [
    { name := "version", isSet := (·.number.isSome),
      read := fun d text => (Json.readInt32 text).map fun (v, rest) =>
        ({ d with number := some v }, rest) },
    { name := "etag", isSet := (·.etag.isSome),
      read := fun d text => (Json.readAnyText text).map fun (v, rest) =>
        ({ d with etag := some v }, rest) }]
  blank := {}
  finish d := return ⟨← required "version" d.number, ← required "etag" d.etag⟩

/-- Reads a stored record. -/
def Record.ofBytes? (bytes : Bytes) : Except Fault Record :=
  (Json.readAll recordShape.read bytes).mapError .json

/-- Reads a stored version. -/
def versionOfBytes? (bytes : Bytes) : Except Fault Table.Version :=
  (Json.readAll versionShape.read bytes).mapError .json

/-- The entry of a stored row and its etag. -/
def entryOfBytes? (codec : Codec) (bytes : Bytes) : Except Fault (Entry × String) := do
  let record ← Record.ofBytes? bytes
  let entry ← (record.entry? codec).mapError .address
  return (entry, record.etag)

/-- Reads a whole text as a status. -/
def statusOfBytes? (bytes : Bytes) : Except Json.Fault Status :=
  Json.readAll readStatus bytes

end Muster.Stored
