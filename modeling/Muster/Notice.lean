import Muster.Silo.Entry
import Muster.Stored.Reader
import Muster.Table.Version

/-!
# Notices

What the membership table and the gateway list tell about their work, as it happens.
-/

namespace Muster

open Muster.Silo (Address Status)
open Muster.Time (Timestamp)

/-- How important a notice is. -/
inductive Level
  /-- For those who look closely. -/
  | debug
  /-- For those who watch. -/
  | info
  /-- For those who have to act. -/
  | warn
  deriving DecidableEq

/-- The name of a level. -/
def Level.name : Level → String
  | .debug => "DEBUG"
  | .info => "INFO"
  | .warn => "WARN"

/-- Something that the table or the gateway list tells. -/
inductive Notice
  /-- A dictionary is looked up. -/
  | resolving (dictionary : String)
  /-- A scan was given up. -/
  | scanCancelled (dictionary : String)
  /-- All rows were read. -/
  | readTable (cluster : String) (rows : Nat) (version : Table.Version)
  /-- A delete was meant for another cluster. -/
  | ignoredDelete (requested configured : String)
  /-- All rows were deleted. -/
  | deleted (cluster : String) (rows : Nat)
  /-- The version after a change is not the one that the caller expected. -/
  | versionDiffers (cluster : String) (expected current : Table.Version)
  /-- The version record was created. -/
  | createdVersion (cluster : String)
  /-- The table is ready. -/
  | tableReady (cluster stateName : String)
  /-- A row to be inserted is there already. -/
  | rowExists (silo : Address)
  /-- A row was inserted. -/
  | inserted (silo : Address) (status : Status) (etag : String) (version : Table.Version)
  /-- A row to be updated is not there. -/
  | noRowToUpdate (silo : Address)
  /-- A row to be updated has another etag. -/
  | etagMismatch (silo : Address) (expected actual : String)
  /-- A row was updated. -/
  | updated (silo : Address) (status : Status) (etag : String) (version : Table.Version)
  /-- There is no row for a heartbeat. -/
  | noRowForHeartbeat (silo : Address)
  /-- A heartbeat was written. -/
  | heartbeat (silo : Address) (time : Timestamp)
  /-- A row was left out of the gateway list because it cannot be read. -/
  | unreadableRow (key : String) (fault : Stored.Fault)
  /-- A row was left out of the gateway list because its gateway has no URI. -/
  | unreachableGateway (key : String) (fault : Silo.Gateway.Fault)
  /-- The gateway list was read. -/
  | readGateways (cluster : String) (count : Nat)
  /-- A gateway list was not kept because a newer one is there. -/
  | newerGatewaysKept (cluster : String)
  /-- The gateway list is ready. -/
  | gatewaysReady (cluster stateName : String)

namespace Notice

/-- How important a notice is. -/
def level : Notice → Level
  | .deleted .. | .tableReady .. | .gatewaysReady .. => .info
  | .unreadableRow .. | .unreachableGateway .. => .warn
  | _ => .debug

/-- What a notice says. -/
def message : Notice → String
  | .resolving .. => "resolving dictionary"
  | .scanCancelled .. => "scan cancelled"
  | .readTable .. => "read membership table"
  | .ignoredDelete .. => "ignoring delete for another cluster"
  | .deleted .. => "deleted membership entries"
  | .versionDiffers .. => "table version differs from caller's expectation"
  | .createdVersion .. => "created initial table version"
  | .tableReady .. => "membership table initialized"
  | .rowExists .. => "membership row already exists"
  | .inserted .. => "inserted membership row"
  | .noRowToUpdate .. => "no membership row to update"
  | .etagMismatch .. => "membership row etag mismatch"
  | .updated .. => "updated membership row"
  | .noRowForHeartbeat .. => "no membership row for heartbeat"
  | .heartbeat .. => "recorded heartbeat"
  | .unreadableRow .. => "skipping undecodable membership record"
  | .unreachableGateway .. => "skipping gateway with invalid uri"
  | .readGateways .. => "refreshed gateway list"
  | .newerGatewaysKept .. => "newer gateway list already cached"
  | .gatewaysReady .. => "gateway list provider initialized"

/-- What a notice is about, as names and texts. -/
def fields : Notice → List (String × String)
  | .resolving dictionary => [("dictionary", dictionary)]
  | .scanCancelled dictionary => [("dictionary", dictionary)]
  | .readTable cluster rows version =>
    [("cluster_id", cluster), ("rows", Decimal.ofNat rows), ("version", version.toText)]
  | .ignoredDelete requested configured => [("requested", requested), ("configured", configured)]
  | .deleted cluster rows => [("cluster_id", cluster), ("removed", Decimal.ofNat rows)]
  | .versionDiffers cluster expected current =>
    [("cluster_id", cluster), ("expected", expected.toText), ("current", current.toText)]
  | .createdVersion cluster => [("cluster_id", cluster)]
  | .tableReady cluster stateName => [("cluster_id", cluster), ("state_name", stateName)]
  | .rowExists silo => [("silo", silo.toText)]
  | .inserted silo status etag version =>
    [("silo", silo.toText), ("status", status.name), ("etag", etag), ("version", version.toText)]
  | .noRowToUpdate silo => [("silo", silo.toText)]
  | .etagMismatch silo expected actual =>
    [("silo", silo.toText), ("expected", expected), ("actual", actual)]
  | .updated silo status etag version =>
    [("silo", silo.toText), ("status", status.name), ("etag", etag), ("version", version.toText)]
  | .noRowForHeartbeat silo => [("silo", silo.toText)]
  | .heartbeat silo time => [("silo", silo.toText), ("i_am_alive_time", time.shown)]
  | .unreadableRow key fault => [("key", key), ("error", fault.message)]
  | .unreachableGateway key fault => [("key", key), ("error", fault.message)]
  | .readGateways cluster count => [("cluster_id", cluster), ("gateways", Decimal.ofNat count)]
  | .newerGatewaysKept cluster => [("cluster_id", cluster)]
  | .gatewaysReady cluster stateName => [("cluster_id", cluster), ("state_name", stateName)]

end Notice

end Muster
