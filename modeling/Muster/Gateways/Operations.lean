import Muster.Program.Operation

/-!
# The gateway list

The list of the gateways through which clients reach a cluster: of every row that can be read and
that belongs to an active silo with a gateway, its URI. The list of the refresh that began last is
kept, so that clients can tell when it is time for another.
-/

namespace Muster

open Muster.Silo (Codec)

/-- A gateway list on a store. -/
structure GatewayList where
  /-- The name under which the list looks up its dictionary and is kept. -/
  owner : String
  /-- The name of the store. -/
  store : String
  /-- The cluster whose gateways are listed. -/
  clusterId : String
  /-- The name of the dictionary of the rows. -/
  stateName : String
  /-- How addresses are stored. -/
  codec : Codec
  /-- How old the list may grow before it should be read again. -/
  maxStaleness : Time.Span

namespace GatewayList

open Operation

/-- The dictionary of the rows. -/
def members (g : GatewayList) : Handle :=
  ⟨g.store, g.owner, g.stateName⟩

/-- The gateway of a row, a notice about it, or nothing. -/
def ofRow (codec : Codec) (row : Row) : Option (Except Notice Uri) :=
  match Stored.entryOfBytes? codec row.2 with
  | .error fault => some (.error (.unreadableRow row.1 fault))
  | .ok (entry, _) =>
    if entry.isGateway then
      match entry.gatewayUri? with
      | .ok uri => some (.ok uri)
      | .error fault => some (.error (.unreachableGateway row.1 fault))
    else none

/-- The gateways of rows, in the order of the rows. -/
def ofRows (codec : Codec) (rows : List Row) : List Uri :=
  rows.filterMap fun row => (ofRow codec row).bind Except.toOption

/-- What is told about the rows that were left out. -/
def complaints (codec : Codec) (rows : List Row) : List Notice :=
  rows.filterMap fun row =>
    match ofRow codec row with
    | some (.error notice) => some notice
    | _ => none

/-- Gets the list ready. -/
def prepare (g : GatewayList) : Operation Unit := do
  resolve g.members
  note (.gatewaysReady g.clusterId g.stateName)

/-- Reads the list and keeps it, unless the list of a later refresh is kept already. -/
def refresh (g : GatewayList) : Operation (List Uri) := do
  resolve g.members
  -- The instant is read before the snapshot is taken, and compared when the list is handed in.
  let startedAt ← perform .now
  let rows ← within g.store fun tx => do
    let rows ← scan g.members tx
    discard tx
    return rows
  (complaints g.codec rows).forM note
  let gateways := ofRows g.codec rows
  note (.readGateways g.clusterId gateways.length)
  let isKept ← perform (.publish g.owner ⟨gateways, startedAt⟩)
  if !isKept then note (.newerGatewaysKept g.clusterId)
  return gateways

/-- The list that is kept. -/
def kept (g : GatewayList) : Operation (Option (List Uri)) := do
  return (← perform (.kept g.owner)).map (·.gateways)

/-- Whether no list is kept, or one that is too old; the clock counts nanoseconds. -/
def isStale (g : GatewayList) : Operation Bool := do
  match ← perform (.kept g.owner) with
  | none => return true
  | some list => return list.startedAt + g.maxStaleness.micros * 1000 ≤ (← perform .now)

end GatewayList

end Muster
