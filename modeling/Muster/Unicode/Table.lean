import Muster.Text.Hex

/-!
# Tables of code points

Properties of characters are given as runs of neighbouring code points that share a value. A table
is written as words: a run is its first code point, a hyphen and its last one if it has several,
and behind them what tells the value. A table is searched by halving, so a question takes few
steps however long the table is.
-/

namespace Muster.Unicode

variable {α : Type}

/-- A run of code points that share a value. -/
structure Run (α : Type) where
  /-- The first code point. -/
  first : Nat
  /-- The last code point. -/
  last : Nat
  /-- What holds of each of them. -/
  value : α
  deriving DecidableEq

/-- Runs in ascending order, no two of which overlap. -/
abbrev Table (α : Type) := Array (Run α)

/-- The numbers of a text: hexadecimal numerals with points between them. -/
def numbers (text : List Char) : List Nat :=
  (text.splitOn '.').map Hex.value

/-- The characters of a text: the numerals of their code points with points between them. -/
def characters (text : List Char) : List Char :=
  (numbers text).map Char.ofNat

/-- Reads one word of a table; `value` reads what stands behind the code points. -/
def Run.ofWord (value : List Char → α) (word : List Char) : Run α :=
  let first := word.takeWhile Hex.isDigit
  match word.dropWhile Hex.isDigit with
  | '-' :: rest =>
    ⟨Hex.value first, Hex.value (rest.takeWhile Hex.isDigit), value (rest.dropWhile Hex.isDigit)⟩
  | rest => ⟨Hex.value first, Hex.value first, value rest⟩

namespace Table

/-- Reads the words of a table. -/
def ofText (value : List Char → α) (text : String) : Table α :=
  let words := (text.toList.splitOnP Char.isWhitespace).filter (!·.isEmpty)
  (words.map (Run.ofWord value)).toArray

/-- The place between `low` and `high` of the first run that does not end before a code point. -/
def place (table : Table α) (code low high : Nat) : Nat :=
  if low < high then
    let middle := (low + high) / 2
    match table[middle]? with
    | none => low
    | some run =>
      if run.last < code then place table code (middle + 1) high else place table code low middle
  else low
termination_by high - low

/-- The run that a code point is in. -/
def run? (table : Table α) (code : Nat) : Option (Run α) :=
  (table[table.place code 0 table.size]?).filter fun run => decide (run.first ≤ code)

/-- What a table tells of a code point. -/
def find? (table : Table α) (code : Nat) : Option α :=
  (table.run? code).map (·.value)

end Table

/-- A set of characters: a table that tells nothing but which code points are in it. -/
abbrev CharSet := Table Unit

namespace CharSet

/-- Reads the words of a set. -/
def ofText (text : String) : CharSet :=
  Table.ofText (fun _ => ()) text

/-- Whether a character is in a set. -/
def contains (set : CharSet) (c : Char) : Bool :=
  (Table.run? set c.toNat).isSome

end CharSet

end Muster.Unicode
