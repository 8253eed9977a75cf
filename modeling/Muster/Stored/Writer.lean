import Muster.Json.Writer
import Muster.Stored.Record

/-!
# Writing stored records
-/

namespace Muster.Stored

/-- A suspicion as it is written. -/
def Suspicion.toBytes (s : Suspicion) : Bytes :=
  Json.object [
    ("silo_address", Json.string s.address),
    ("suspect_time", Json.timestamp s.time)]

/-- The members of a written record. -/
def Record.members (r : Record) : List (String × Bytes) :=
  [("silo_address", Json.string r.address),
    ("status", Json.string r.status.name),
    ("proxy_port", Json.number r.proxyPort.toNat),
    ("host_name", Json.string r.hostName),
    ("silo_name", Json.string r.siloName),
    ("start_time", Json.timestamp r.startTime),
    ("i_am_alive_time", Json.timestamp r.aliveTime),
    ("suspect_times", Json.array (r.suspicions.map Suspicion.toBytes)),
    ("etag", Json.string r.etag)]

/-- A record as it is written. -/
def Record.toBytes (r : Record) : Bytes :=
  Json.object r.members

/-- The members of a written version. -/
def versionMembers (v : Table.Version) : List (String × Bytes) :=
  [("version", Json.number v.number.toInt), ("etag", Json.string v.etag)]

/-- A version as it is written. -/
def versionToBytes (v : Table.Version) : Bytes :=
  Json.object (versionMembers v)

end Muster.Stored
