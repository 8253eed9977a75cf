/-!
# Decimal numerals

Writing natural numbers and integers in base ten, and reading numerals that have to fit a range.
A numeral is read from left to right, and the first character that is no digit or that takes the
number out of the range decides the outcome; so `magnitude` names one cause for every text that it
refuses.
-/

namespace Muster.Decimal

/-- Why a text is not a numeral of the range asked for. -/
inductive Fault
  /-- There is no character at all. -/
  | empty
  /-- A character is no digit, or a sign has no digit behind it. -/
  | invalidDigit
  /-- The number exceeds the largest of the range. -/
  | tooLarge
  /-- The number is below the smallest of the range. -/
  | tooSmall
  deriving DecidableEq

/-- The cause in words. -/
def Fault.message : Fault → String
  | .empty => "cannot parse integer from empty string"
  | .invalidDigit => "invalid digit found in string"
  | .tooLarge => "number too large to fit in target type"
  | .tooSmall => "number too small to fit in target type"

/-- The value of a decimal digit. -/
def digit? (c : Char) : Option Nat :=
  if c.isDigit then some (c.toNat - '0'.toNat) else none

/-- The numeral of a natural number, without leading zeros. -/
def ofNat (n : Nat) : String :=
  String.ofList (Nat.toDigits 10 n)

/-- The numeral of an integer, with a sign if it is negative. -/
def ofInt : Int → String
  | .ofNat n => ofNat n
  | .negSucc n => "-" ++ ofNat (n + 1)

/-- The numeral of a natural number, filled up with leading zeros to `width` digits. -/
def padded (width n : Nat) : String :=
  String.ofList ((Nat.toDigits 10 n).leftpad width '0')

/-- Reads digits that continue the number `n`, every prefix of which has to stay within `limit`;
a number that does not is the fault `beyond`. -/
def magnitude (limit : Nat) (beyond : Fault) : Nat → List Char → Except Fault Nat
  | n, [] => .ok n
  | n, c :: rest =>
    match digit? c with
    | none => .error .invalidDigit
    | some d =>
      if n * 10 + d ≤ limit then magnitude limit beyond (n * 10 + d) rest else .error beyond

/-- Reads a whole text as a 32-bit integer: an optional sign, then digits, of which leading zeros
do not count. -/
def int32? : List Char → Except Fault Int32
  | [] => .error .empty
  | ['+'] => .error .invalidDigit
  | ['-'] => .error .invalidDigit
  | '-' :: rest => (magnitude 0x80000000 .tooSmall 0 rest).map fun n => Int32.ofInt (-n)
  | '+' :: rest => (magnitude 0x7fffffff .tooLarge 0 rest).map fun n => Int32.ofInt n
  | text => (magnitude 0x7fffffff .tooLarge 0 text).map fun n => Int32.ofInt n

/-- Reads the digits in front of a text, at least one, as a number of at most `limit`. -/
def natUpTo? (limit : Nat) (text : List Char) : Option (Nat × List Char) :=
  match text.takeWhile Char.isDigit with
  | [] => none
  | digits =>
    match magnitude limit .tooLarge 0 digits with
    | .ok n => some (n, text.dropWhile Char.isDigit)
    | .error _ => none

end Muster.Decimal
