import Muster.Text.Decimal

/-!
# Table versions

The whole membership table carries a version: a number that grows with every change of its rows,
and the etag of the record that holds it. At the largest number only the etag moves.
-/

namespace Muster.Table

/-- The version of a whole table. -/
structure Version where
  /-- The number of the version. -/
  number : Int32
  /-- The etag of the version record. -/
  etag : String
  deriving DecidableEq

namespace Version

/-- The version of a table that has no version record. -/
def initial : Version :=
  ⟨0, "0"⟩

/-- The version after `v`, tagged with `etag`. -/
def next (v : Version) (etag : String) : Version :=
  ⟨if v.number = Int32.maxValue then v.number else v.number + 1, etag⟩

/-- The version as it is shown: `<number, etag>`. -/
def toText (v : Version) : String :=
  "<" ++ Decimal.ofInt v.number.toInt ++ ", " ++ v.etag ++ ">"

/-- The versions that follow `v`, one for each etag. -/
def successors (v : Version) : List String → List Version
  | [] => []
  | etag :: etags => v.next etag :: successors (v.next etag) etags

end Version

end Muster.Table
