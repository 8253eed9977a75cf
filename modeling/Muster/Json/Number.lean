import Muster.Json.Str

/-!
# JSON numbers

A number without fraction and exponent is an integer as long as it fits 64 bits. Every other number
is a floating-point number: the digits that fit 64 bits, times a power of ten. Minus zero and
integers below the 64-bit range are floating-point numbers too.
-/

namespace Muster.Json

/-- Whether an octet is a decimal digit. -/
def isDigit (b : UInt8) : Bool :=
  octet '0' ≤ b && b ≤ octet '9'

/-- The value of a decimal digit. -/
def digitValue (b : UInt8) : Nat :=
  (b - octet '0').toNat

/-- The digits in front of a text. -/
def digits (text : Bytes) : Bytes :=
  text.takeWhile isDigit

/-- The text behind the digits in front of it. -/
def afterDigits (text : Bytes) : Bytes :=
  text.dropWhile isDigit

/-- The first octet of a text as a character. -/
def peek? (text : Bytes) : Option Char :=
  text.head?.map Char.ofUInt8

/-- The digits of an integer, which has no leading zero. -/
def integerDigits (text : Bytes) : Except Fault Bytes :=
  match digits text with
  | [] => .error (if text.isEmpty then .endInValue else .invalidNumber)
  | d :: more => if d = octet '0' ∧ more ≠ [] then .error .invalidNumber else .ok (d :: more)

/-- A number. -/
inductive Number
  /-- An integer within 64 bits. -/
  | integer (n : Int)
  /-- A floating-point number. -/
  | float (f : Float)

/-- The largest significand, which fills 64 bits. -/
def maxSignificand : Nat := 0xffffffffffffffff

/-- Appends digits to a significand while it fits; the second part counts those that did. -/
def significand (n : Nat) : Bytes → Nat × Nat
  | [] => (n, 0)
  | d :: ds =>
    if n * 10 + digitValue d ≤ maxSignificand then
      let (m, kept) := significand (n * 10 + digitValue d) ds
      (m, kept + 1)
    else (n, 0)

/-- A power of ten, correctly rounded. -/
def powerOfTen (n : Nat) : Float :=
  Float.ofScientific 1 false n

/-- The number times a power of ten. A power below the range of doubles is divided by in steps,
of which a few make any number zero. -/
def scale : Nat → Float → Int → Except Fault Float
  | 0, f, _ => .ok f
  | steps + 1, f, power =>
    if 308 < power then if f == 0.0 then .ok f else .error .numberOutOfRange
    else if 0 ≤ power then
      let scaled := f * powerOfTen power.toNat
      if scaled.isInf then .error .numberOutOfRange else .ok scaled
    else if -308 ≤ power then .ok (f / powerOfTen (-power).toNat)
    else if f == 0.0 then .ok f
    else scale steps (f / powerOfTen 308) (power + 308)

/-- The floating-point number of a sign, a significand and a power of ten. -/
def float (negative : Bool) (n : Nat) (power : Int) : Except Fault Number := do
  let f ← scale 4 (UInt64.ofNat n).toFloat power
  return .float (if negative then -f else f)

/-- The integer of a sign and a magnitude, if it is one of 64 bits. -/
def integer (negative : Bool) (n : Nat) : Number :=
  if !negative then .integer n
  else if 1 ≤ n ∧ n ≤ 0x8000000000000000 then .integer (-n)
  else .float (-(UInt64.ofNat n).toFloat)

/-- Reads an exponent behind its `e` for the number `n * 10 ^ power`. -/
def readExponent (negative : Bool) (n : Nat) (power : Int) (text : Bytes) :
    Except Fault (Number × Bytes) := do
  let (below, text) := match peek? text with
    | some '+' => (false, text.drop 1)
    | some '-' => (true, text.drop 1)
    | _ => (false, text)
  match digits text with
  | [] => throw (if text.isEmpty then .endInValue else .invalidNumber)
  | ds =>
    let e := ds.foldl (fun e d => e * 10 + digitValue d) 0
    -- An exponent this large is not worth computing: the number is zero, or out of range.
    if 0x80000000 ≤ e then
      if n ≠ 0 ∧ !below then throw .numberOutOfRange
      else return (.float (if negative then -0.0 else 0.0), afterDigits text)
    else
      let number ← float negative n (if below then power - e else power + e)
      return (number, afterDigits text)

/-- Reads a fraction behind its point for the number `n * 10 ^ power`. -/
def readFraction (negative : Bool) (n : Nat) (power : Int) (text : Bytes) :
    Except Fault (Number × Bytes) := do
  match digits text with
  | [] => throw (if text.isEmpty then .endInValue else .invalidNumber)
  | ds =>
    let (n, kept) := significand n ds
    let rest := afterDigits text
    match peek? rest with
    | some 'e' | some 'E' => readExponent negative n (power - kept) (rest.drop 1)
    | _ => return (← float negative n (power - kept), rest)

/-- Reads a number behind its sign. -/
def readNumber (negative : Bool) (text : Bytes) : Except Fault (Number × Bytes) := do
  let ds ← integerDigits text
  let (n, kept) := significand 0 ds
  let dropped := ds.length - kept
  let rest := text.drop ds.length
  match peek? rest with
  | some '.' => readFraction negative n dropped (rest.drop 1)
  | some 'e' | some 'E' => readExponent negative n dropped (rest.drop 1)
  | _ =>
    if dropped = 0 then return (integer negative n, rest)
    else return (← float negative n dropped, rest)

/-- The text behind at least one digit. -/
def skipDigits (text : Bytes) : Except Fault Bytes :=
  if (digits text).isEmpty then .error .invalidNumber else .ok (afterDigits text)

/-- Finds the end of an exponent behind its `e`. -/
def skipExponent (text : Bytes) : Except Fault Bytes :=
  match peek? text with
  | some '+' | some '-' => skipDigits (text.drop 1)
  | _ => skipDigits text

/-- Finds the end of what may follow the digits of an integer. -/
def skipFraction (text : Bytes) : Except Fault Bytes :=
  match peek? text with
  | some '.' => do
    let rest ← skipDigits (text.drop 1)
    match peek? rest with
    | some 'e' | some 'E' => skipExponent (rest.drop 1)
    | _ => return rest
  | some 'e' | some 'E' => skipExponent (text.drop 1)
  | _ => .ok text

/-- Finds the end of a number behind its sign. -/
def skipNumber (text : Bytes) : Except Fault Bytes :=
  match digits text with
  | [] => .error .invalidNumber
  | d :: more =>
    if d = octet '0' then
      if more.isEmpty then skipFraction (text.drop 1) else .error .invalidNumber
    else skipFraction (afterDigits text)

end Muster.Json
