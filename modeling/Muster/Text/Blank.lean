/-!
# Blank characters

The characters with the property White_Space, as a table of ranges in ascending order.
-/

namespace Muster.Text

/-- The ranges of blank characters, each by its first and last code point. -/
def blankRanges : List (Nat × Nat) :=
  [(0x09, 0x0d), (0x20, 0x20), (0x85, 0x85), (0xa0, 0xa0), (0x1680, 0x1680), (0x2000, 0x200a),
    (0x2028, 0x2029), (0x202f, 0x202f), (0x205f, 0x205f), (0x3000, 0x3000)]

/-- Whether a character is blank. -/
def isBlank (c : Char) : Bool :=
  blankRanges.any fun range => range.1 ≤ c.toNat && c.toNat ≤ range.2

/-- A text without the blank characters in front of it. -/
def dropBlank (text : List Char) : List Char :=
  text.dropWhile isBlank

end Muster.Text
