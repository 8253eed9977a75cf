import Muster.Gateways.Operations
import Muster.System.World
import Muster.Text.Quoted

/-!
# Descriptions in all detail

Stores, transactions and gateway lists as they are shown to those who look for faults: the name of
the type, then its fields; what is left out is marked by two points.
-/

namespace Muster

/-- A field of a description. -/
def describedField (name value : String) : String :=
  name ++ ": " ++ value

/-- A description by name and fields; `isPartial` marks that fields are left out. -/
def described (name : String) (fields : List (String × String)) (isPartial : Bool) : String :=
  let shown := fields.map fun f => describedField f.1 f.2
  name ++ " \x7b " ++ String.intercalate ", " (if isPartial then shown ++ [".."] else shown) ++
    " \x7d"

/-- The store of a site in all detail. -/
def Site.description (site : Site) : String :=
  described "MemoryStore" [
    ("dictionaries", Text.quoted "<locked>"),
    ("options",
      described "MemoryStoreOptions" [("lock_timeout", site.lockTimeout.toText)] false)] false

/-- A transaction of a store in all detail. -/
def Store.transactionDescription (s : Store) (id : TransactionId) : String :=
  described "MemoryTransaction" [
    ("id", Decimal.ofNat id),
    ("locks_held", Decimal.ofNat (s.locks.countHeld id))] true

/-- A gateway list in all detail. -/
def GatewayList.description (g : GatewayList) (isResolved : Bool) : String :=
  described "KvGatewayListProvider" [
    ("cached", Text.quoted "<locked>"),
    ("cluster_id", Text.quoted g.clusterId),
    ("codec", g.codec.description),
    ("max_staleness", g.maxStaleness.toText),
    ("members",
      described "LazyDictionary" [
        ("name", Text.quoted g.stateName),
        ("resolved", if isResolved then "true" else "false")] true)] true

end Muster
