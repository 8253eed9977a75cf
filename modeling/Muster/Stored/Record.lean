import Muster.Silo.Codec
import Muster.Silo.Entry
import Muster.Table.Version

/-!
# Stored records

The form in which a store keeps a membership entry and the version of the table. Addresses are
kept as texts of a codec, so a record can be read and rewritten even if its addresses cannot be
decoded. Every record carries an etag that is new with every write.
-/

namespace Muster.Stored

open Muster.Silo (Address Codec Entry Status)
open Muster.Time (Timestamp)

/-- A suspicion as it is stored. -/
structure Suspicion where
  /-- The stored text of the suspecting silo. -/
  address : String
  /-- When the suspicion was raised. -/
  time : Timestamp
  deriving DecidableEq

/-- A membership entry as it is stored. -/
structure Record where
  /-- The stored text of the address, equal to the key of the row. -/
  address : String
  /-- The stage that the silo is in. -/
  status : Status
  /-- The port of its gateway, or zero. -/
  proxyPort : UInt16
  /-- The host that it runs on. -/
  hostName : String
  /-- The name of the silo. -/
  siloName : String
  /-- When it started. -/
  startTime : Timestamp
  /-- When it last said that it is alive. -/
  aliveTime : Timestamp
  /-- Which silos suspect it. -/
  suspicions : List Suspicion
  /-- The etag of this write of the row. -/
  etag : String
  deriving DecidableEq

namespace Record

/-- The record of an entry. -/
def ofEntry (codec : Codec) (entry : Entry) (etag : String) : Record where
  address := codec.encode entry.address
  status := entry.status
  proxyPort := entry.proxyPort
  hostName := entry.hostName
  siloName := entry.siloName
  startTime := entry.startTime
  aliveTime := entry.aliveTime
  suspicions := entry.suspicions.map fun s => ⟨codec.encode s.1, s.2⟩
  etag := etag

/-- The entry of a record. The addresses of the suspecting silos are decoded first. -/
def entry? (codec : Codec) (record : Record) : Except Address.Fault Entry := do
  let suspicions ← record.suspicions.mapM fun s => do
    return (← codec.decode s.address, s.time)
  let address ← codec.decode record.address
  return {
    address
    status := record.status
    proxyPort := record.proxyPort
    hostName := record.hostName
    siloName := record.siloName
    startTime := record.startTime
    aliveTime := record.aliveTime
    suspicions }

/-- The record with another heartbeat and a new etag. -/
def beat (record : Record) (time : Timestamp) (etag : String) : Record :=
  { record with aliveTime := time, etag }

end Record

end Muster.Stored
