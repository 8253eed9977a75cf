import Muster.Silo.Entry
import Muster.Table.Version

/-!
# Rosters

What reading the membership table gives: entries with their etags, and the version of the table at
the moment of the reading.
-/

namespace Muster.Table

open Muster.Silo (Address Entry)

/-- Entries read from the table, with the version of the table. -/
structure Roster where
  /-- The entries with their etags, in the order of their row keys. -/
  members : List (Entry × String)
  /-- The version of the table. -/
  version : Version
  deriving DecidableEq

namespace Roster

/-- The reading of an empty table. -/
def empty : Roster :=
  ⟨[], .initial⟩

/-- The entry of a silo with its etag. -/
def get? (roster : Roster) (address : Address) : Option (Entry × String) :=
  roster.members.find? (·.1.address = address)

end Roster

end Muster.Table
