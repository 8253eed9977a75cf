/-!
# Hexadecimal numerals

Digits of base sixteen: written in lower case, or in upper case where a format says so, and read
in either case.
-/

namespace Muster.Hex

/-- The value of a hexadecimal digit in either case. -/
def digit? (c : Char) : Option Nat :=
  if c.isDigit then some (c.toNat - '0'.toNat)
  else if 'a' ≤ c ∧ c ≤ 'f' then some (c.toNat - 'a'.toNat + 10)
  else if 'A' ≤ c ∧ c ≤ 'F' then some (c.toNat - 'A'.toNat + 10)
  else none

/-- Whether a character is a hexadecimal digit. -/
def isDigit (c : Char) : Bool :=
  (digit? c).isSome

/-- The number whose digits are the given characters, those that are no digit counting as zero. -/
def value (digits : List Char) : Nat :=
  digits.foldl (fun n c => n * 16 + (digit? c).getD 0) 0

/-- The numeral of a natural number in lower case, without leading zeros. -/
def ofNat (n : Nat) : String :=
  String.ofList (Nat.toDigits 16 n)

/-- The numeral of a natural number in lower case, filled up with leading zeros to `width`
digits. -/
def padded (width n : Nat) : String :=
  String.ofList ((Nat.toDigits 16 n).leftpad width '0')

/-- The two digits of an octet in upper case. -/
def upperOctet (b : UInt8) : List Char :=
  [(Nat.digitChar (b.toNat / 16)).toUpper, (Nat.digitChar (b.toNat % 16)).toUpper]

end Muster.Hex
