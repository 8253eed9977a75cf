import Muster.Net.Ipv4
import Muster.Text.Hex

/-!
# IPv6 addresses

Eight groups of sixteen bits. In writing, the first longest run of at least two zero groups
becomes `::`; an address that maps an IPv4 address is written with that address in decimal. A
reader accepts `::` for any run of at least one zero group and an IPv4 address in place of the
last two groups.
-/

namespace Muster.Net

/-- An IPv6 address as its eight groups. -/
structure Ipv6 where
  /-- The groups in network order. -/
  groups : List UInt16
  /-- There are eight of them. -/
  length_groups : groups.length = 8
  deriving DecidableEq

namespace Ipv6

instance : Ord Ipv6 where
  compare a b := compare a.groups b.groups

/-- The address with the given groups, if there are eight. -/
def ofGroups? (groups : List UInt16) : Option Ipv6 :=
  if h : groups.length = 8 then some ⟨groups, h⟩ else none

/-- The first longest run of zero groups, as the number of groups before it and its length. -/
def zeroRun : List UInt16 → Nat × Nat
  | [] => (0, 0)
  | g :: rest =>
    let here := ((g :: rest).takeWhile (· == 0)).length
    let later := zeroRun rest
    if later.2 ≤ here then (0, here) else (later.1 + 1, later.2)

/-- Groups in hexadecimal with colons between them. -/
def joined (groups : List UInt16) : String :=
  String.intercalate ":" (groups.map fun g => Hex.ofNat g.toNat)

/-- The address in hexadecimal, its first longest run of two or more zero groups written `::`. -/
def compressed (ip : Ipv6) : String :=
  let run := zeroRun ip.groups
  if 2 ≤ run.2 then
    joined (ip.groups.take run.1) ++ "::" ++ joined (ip.groups.drop (run.1 + run.2))
  else joined ip.groups

/-- The IPv4 address that this address maps, if it maps one. -/
def mapped? (ip : Ipv6) : Option Ipv4 :=
  match ip.groups with
  | [0, 0, 0, 0, 0, 0xffff, g, h] =>
    some ⟨(g >>> 8).toUInt8, g.toUInt8, (h >>> 8).toUInt8, h.toUInt8⟩
  | _ => none

/-- The canonical text of an address. -/
def toText (ip : Ipv6) : String :=
  match ip.mapped? with
  | some v4 => "::ffff:" ++ v4.toText
  | none => ip.compressed

/-- Reads one to four hexadecimal digits in front of a text as a group. -/
def group? (text : List Char) : Option (UInt16 × List Char) :=
  let digits := text.takeWhile Hex.isDigit
  if 1 ≤ digits.length ∧ digits.length ≤ 4 then
    some (UInt16.ofNat (Hex.value digits), text.dropWhile Hex.isDigit)
  else none

/-- The two groups that an IPv4 address fills. -/
def groupsOfIpv4 (ip : Ipv4) : List UInt16 :=
  [ip.a.toUInt16 <<< 8 ||| ip.b.toUInt16, ip.c.toUInt16 <<< 8 ||| ip.d.toUInt16]

/-- The text behind the colon that separates groups; the first group has none before it. -/
def separator? (first : Bool) (text : List Char) : Option (List Char) :=
  if first then some text else Chars.expect? ':' text

/-- What reading a sequence of groups gives. -/
structure Run where
  /-- The groups read. -/
  groups : List UInt16
  /-- Whether the last two were written as an IPv4 address. -/
  endsInIpv4 : Bool
  /-- The text behind them. -/
  rest : List Char

/-- Reads as many groups as there are in front of a text, at most `limit`. Where two or more may
follow, an IPv4 address counts as two and ends the sequence. -/
def readGroups (limit : Nat) (first : Bool) (text : List Char) : Run :=
  match limit with
  | 0 => ⟨[], false, text⟩
  | limit + 1 =>
    -- An IPv4 address takes the place of two groups, so there must be room for two.
    let ipv4 := if limit = 0 then none else separator? first text >>= Ipv4.read?
    match ipv4 with
    | some (ip, rest) => ⟨groupsOfIpv4 ip, true, rest⟩
    | none =>
      match separator? first text >>= group? with
      | none => ⟨[], false, text⟩
      | some (g, rest) =>
        let more := readGroups limit false rest
        { more with groups := g :: more.groups }

/-- Reads an address in front of a text: eight groups, or fewer with one `::` in place of the
missing ones. -/
def read? (text : List Char) : Option (Ipv6 × List Char) :=
  let head := readGroups 8 true text
  if head.groups.length = 8 then
    (ofGroups? head.groups).map (·, head.rest)
  else if head.endsInIpv4 then none
  else do
    let text ← Chars.expect? ':' (← Chars.expect? ':' head.rest)
    let tail := readGroups (7 - head.groups.length) true text
    let zeros := List.replicate (8 - head.groups.length - tail.groups.length) 0
    let ip ← ofGroups? (head.groups ++ zeros ++ tail.groups)
    return (ip, tail.rest)

/-- Reads a whole text as an address. -/
def ofText? (text : List Char) : Option Ipv6 :=
  match read? text with
  | some (ip, []) => some ip
  | _ => none

end Ipv6

end Muster.Net
