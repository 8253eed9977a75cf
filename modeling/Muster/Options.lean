import Muster.Time.Span

/-!
# Options

What a membership table or a gateway list is set up with. The name of the dictionary that holds
the rows is the id of the cluster unless another name is given.
-/

namespace Muster

/-- Where a cluster keeps its membership rows. -/
structure Placement where
  /-- The id of the cluster. -/
  clusterId : String
  /-- The name given to the dictionary, if any. -/
  givenName : Option String
  deriving DecidableEq

/-- The name of the dictionary that holds the rows. -/
def Placement.stateName (p : Placement) : String :=
  p.givenName.getD p.clusterId

/-- How old a gateway list may grow before it should be read again, if nothing else is said. -/
def defaultMaxStaleness : Time.Span :=
  Time.Span.ofSeconds 60

end Muster
