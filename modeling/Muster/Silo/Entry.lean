import Muster.Silo.Gateway
import Muster.Silo.Status
import Muster.Time.Timestamp

/-!
# Membership entries

What the members of a cluster know about one silo: where it is, which stage it is in, when it last
said that it is alive, and which other silos suspect it to be dead.
-/

namespace Muster.Silo

open Muster.Time (Timestamp)

/-- The membership entry of a silo. -/
structure Entry where
  /-- The identity of the silo. -/
  address : Address
  /-- The stage that the silo is in. -/
  status : Status
  /-- The port of its gateway, or zero if it has none. -/
  proxyPort : UInt16
  /-- The host that it runs on. -/
  hostName : String
  /-- The name of the silo. -/
  siloName : String
  /-- When it started. -/
  startTime : Timestamp
  /-- When it last said that it is alive. -/
  aliveTime : Timestamp
  /-- Which silos suspect it, and since when. -/
  suspicions : List (Address × Timestamp)
  deriving DecidableEq

namespace Entry

/-- Whether clients may use the silo as a gateway. -/
def isGateway (entry : Entry) : Bool :=
  entry.status = .active ∧ entry.proxyPort ≠ 0

/-- The URI of the silo's gateway. -/
def gatewayUri? (entry : Entry) : Except Gateway.Fault Uri :=
  Gateway.uri? entry.address entry.proxyPort

end Entry

end Muster.Silo
