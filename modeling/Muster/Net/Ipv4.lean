import Muster.Text.Chars
import Muster.Text.Decimal

/-!
# IPv4 addresses

Four octets, written in decimal with points between them. Each octet has one spelling only: a
reader that met `010` could take it for octal, so leading zeros are refused.
-/

namespace Muster.Net

/-- An IPv4 address, its octets in network order. -/
structure Ipv4 where
  /-- The first octet. -/
  a : UInt8
  /-- The second octet. -/
  b : UInt8
  /-- The third octet. -/
  c : UInt8
  /-- The last octet. -/
  d : UInt8
  deriving DecidableEq, Ord

namespace Ipv4

/-- The octets in decimal with points between them. -/
def toText (ip : Ipv4) : String :=
  Decimal.ofNat ip.a.toNat ++ "." ++ Decimal.ofNat ip.b.toNat ++ "." ++
    Decimal.ofNat ip.c.toNat ++ "." ++ Decimal.ofNat ip.d.toNat

/-- Reads the digits in front of a text as an octet: one to three of them, without a leading
zero. -/
def octet? (text : List Char) : Option (UInt8 × List Char) :=
  let digits := text.takeWhile Char.isDigit
  if digits.length ≤ 3 ∧ (digits.head? = some '0' → digits.length = 1) then
    (Decimal.natUpTo? 255 text).map fun (n, rest) => (UInt8.ofNat n, rest)
  else none

/-- Reads an address in front of a text. -/
def read? (text : List Char) : Option (Ipv4 × List Char) := do
  let (a, text) ← octet? text
  let (b, text) ← octet? (← Chars.expect? '.' text)
  let (c, text) ← octet? (← Chars.expect? '.' text)
  let (d, text) ← octet? (← Chars.expect? '.' text)
  return (⟨a, b, c, d⟩, text)

/-- Reads a whole text as an address. -/
def ofText? (text : List Char) : Option Ipv4 :=
  match read? text with
  | some (ip, []) => some ip
  | _ => none

end Ipv4

end Muster.Net
