import Muster.Domain.Name
import Muster.Net.Ipv6
import Muster.Uri.Fault
import Muster.Uri.Percent

/-!
# Hosts

The host of a general scheme is an IPv6 address in brackets or any text without delimiters, so an
IPv4 address stays text. The host of a special scheme is a domain name in its ASCII form, or an
IPv4 address in one of the spellings that those schemes have always allowed: fewer than four
numbers, octal or hexadecimal ones.
-/

namespace Muster.Uri

open Muster.Net

/-- The host that a URI names. -/
inductive Host
  /-- No host. -/
  | empty
  /-- A name, or any other text. -/
  | domain (text : List Char)
  /-- An IPv4 address, in a special scheme. -/
  | ipv4 (ip : Ipv4)
  /-- An IPv6 address. -/
  | ipv6 (ip : Ipv6)
  deriving DecidableEq

namespace Host

/-- The text of a host inside a URI. -/
def toText : Host → String
  | .empty => ""
  | .domain text => String.ofList text
  | .ipv4 ip => ip.toText
  | .ipv6 ip => "[" ++ ip.compressed ++ "]"

/-- The characters that no host may hold. -/
def forbidden : List Char :=
  ['\x00', '\t', '\n', '\r', ' ', '#', '/', ':', '<', '>', '?', '@', '[', '\\', ']', '^', '|']

/-- Reads what follows an opening bracket as an IPv6 address and its closing bracket. -/
def ofBrackets? (text : List Char) : Except Fault Host :=
  if text.getLast? = some ']' then
    match Ipv6.ofText? text.dropLast with
    | some ip => .ok (.ipv6 ip)
    | none => .error .invalidIpv6
  else .error .invalidIpv6

/-- Reads the host of a general scheme. -/
def general? : List Char → Except Fault Host
  | '[' :: text => ofBrackets? text
  | [] => .ok .empty
  | text =>
    if text.any (· ∈ forbidden) then .error .invalidHostCharacter
    else .ok (.domain (Percent.encode Percent.controls text))

/-- Reads one number of an IPv4 address: decimal, octal behind `0` or hexadecimal behind `0x`.
The answer is `none` if it is no number. -/
def number? : List Char → Option Nat
  | [] => none
  | '0' :: 'x' :: digits => based 16 digits
  | '0' :: 'X' :: digits => based 16 digits
  | ['0'] => some 0
  | '0' :: digits => based 8 digits
  | digits => based 10 digits
where
  /-- The value of digits of a base. -/
  based (base : Nat) (digits : List Char) : Option Nat :=
    digits.foldlM (fun n c => (Hex.digit? c).bind fun d =>
      if d < base then some (n * base + d) else none) 0

/-- The labels of a domain name without the empty one behind a last point. -/
def labels (text : List Char) : List (List Char) :=
  let all := text.splitOn '.'
  if all.getLast? = some [] then all.dropLast else all

/-- Whether the last label of a domain name makes it an IPv4 address. -/
def endsInNumber (text : List Char) : Bool :=
  match (labels text).getLast? with
  | none => false
  | some label => (label ≠ [] && label.all Char.isDigit) || (number? label).isSome

/-- The address of one to four numbers: the last fills all octets that the others leave. -/
def ofNumbers? (numbers : List Nat) : Option Ipv4 := do
  let last ← numbers.getLast?
  let front := numbers.dropLast
  guard (front.length ≤ 3 && front.all (· ≤ 255) && decide (last < Nat.pow 256 (4 - front.length)))
  let value := front.foldr (fun n v => n * 0x1000000 + v / 256) 0 + last
  return ⟨UInt8.ofNat (value / 0x1000000), UInt8.ofNat (value / 0x10000),
    UInt8.ofNat (value / 256), UInt8.ofNat value⟩

/-- Reads the host of a special scheme. -/
def special? : List Char → Except Fault Host
  | '[' :: text => ofBrackets? text
  | text =>
    -- Percent signs are decoded first, and the name is then mapped as a whole.
    let decoded := String.fromUTF8? ⟨(Percent.decode text).toArray⟩
    match decoded.bind (Domain.toAscii? ·.toList) with
    | none => .error .invalidDomainName
    | some name =>
      if name.any fun c => c.toNat < 0x20 || 0x7e < c.toNat || c == '%' || c ∈ forbidden then
        .error .invalidDomainName
      else if name.isEmpty then .error .emptyHost
      -- A name whose last label is a number is an IPv4 address or nothing.
      else if endsInNumber name then
        match (labels name).mapM number? >>= ofNumbers? with
        | some ip => .ok (.ipv4 ip)
        | none => .error .invalidIpv4
      else .ok (.domain name)

end Host

end Muster.Uri
