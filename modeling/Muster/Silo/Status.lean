/-!
# Silo status

The stages in the life of a silo, as the membership table records them. The table does not police
the order of the stages.
-/

namespace Muster.Silo

/-- The stage that a silo is in. -/
inductive Status
  /-- Starting up, not a member yet. -/
  | joining
  /-- A live member. -/
  | active
  /-- Leaving in good order. -/
  | shuttingDown
  /-- Leaving without order. -/
  | stopping
  /-- Declared dead by the others. -/
  | dead
  deriving DecidableEq

namespace Status

/-- Every status, in the order in which they are listed. -/
def all : List Status :=
  [.joining, .active, .shuttingDown, .stopping, .dead]

/-- The name of a status. -/
def name : Status → String
  | .joining => "Joining"
  | .active => "Active"
  | .shuttingDown => "ShuttingDown"
  | .stopping => "Stopping"
  | .dead => "Dead"

/-- The status of a name. -/
def ofName? (name : String) : Option Status :=
  all.find? (·.name == name)

/-- Whether the silo is leaving or has left. -/
def isTerminating : Status → Bool
  | .joining | .active => false
  | .shuttingDown | .stopping | .dead => true

/-- Every status is read back from its name. -/
theorem ofName?_name (s : Status) : ofName? s.name = some s := by
  cases s <;> decide

end Status

end Muster.Silo
