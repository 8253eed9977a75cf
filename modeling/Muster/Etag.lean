import Muster.Text.Chars
import Muster.Text.Decimal
import Muster.Text.Hex

/-!
# Etags

Every write of a record gets an etag of its own. It consists of a count, which tells it apart from
the others of the same process, and a random number, which tells it apart from those of other
processes. The count has 64 bits and wraps around.
-/

namespace Muster.Etag

/-- The etag of a count and a random number. -/
def render (count : Nat) (random : UInt32) : String :=
  Hex.ofNat count ++ "-" ++ Hex.padded 8 random.toNat

/-- How many counts there are. -/
def limit : Nat := 0x10000000000000000

/-- Where etags come from: a count, and the random number of each etag. -/
structure Source where
  /-- How many etags there were. -/
  count : Nat
  /-- The random numbers. -/
  random : Nat → UInt32

/-- The next etag and the source after it. -/
def Source.mint (source : Source) : String × Source :=
  (render (source.count % limit) (source.random source.count),
    { source with count := source.count + 1 })

/-- The next `n` etags. -/
def Source.take (source : Source) : Nat → List String
  | 0 => []
  | n + 1 => source.mint.1 :: source.mint.2.take n

/-- Whether a character is a hexadecimal digit in lower case. -/
def isLowerHex (c : Char) : Bool :=
  c.isDigit || ('a' ≤ c && c ≤ 'f')

/-- The count of an etag: hexadecimal digits in front of a hyphen and eight more. -/
def count? (etag : String) : Option Nat :=
  match Chars.splitLast? '-' etag.toList with
  | some (front, back) =>
    if front ≠ [] ∧ back.length = 8 ∧ (front ++ back).all isLowerHex then some (Hex.value front)
    else none
  | none => none

/-- Whether each count is the one before plus one. -/
def areConsecutive : List Nat → Bool
  | [] => true
  | [_] => true
  | a :: b :: rest => b == a + 1 && areConsecutive (b :: rest)

end Muster.Etag
