import Muster.Net.Ipv6

/-!
# Endpoints

An address and a port to listen on. An IPv6 endpoint also has a flow label, which its text does
not show, and the scope that a link-local address is valid in, which its text shows when it is not
zero.
-/

namespace Muster.Net

/-- An address of either family. -/
inductive Ip
  /-- An IPv4 address. -/
  | v4 (ip : Ipv4)
  /-- An IPv6 address. -/
  | v6 (ip : Ipv6)
  deriving DecidableEq

/-- The canonical text of an address. -/
def Ip.toText : Ip → String
  | .v4 ip => ip.toText
  | .v6 ip => ip.toText

/-- Reads a whole text as an address of either family. -/
def Ip.ofText? (text : String) : Option Ip :=
  (Ipv4.ofText? text.toList).map .v4 <|> (Ipv6.ofText? text.toList).map .v6

/-- An address with a port. -/
inductive Endpoint
  /-- An IPv4 address with a port. -/
  | v4 (ip : Ipv4) (port : UInt16)
  /-- An IPv6 address with a port, a flow label and a scope. -/
  | v6 (ip : Ipv6) (port : UInt16) (flow scope : UInt32)
  deriving DecidableEq

namespace Endpoint

/-- The endpoint of an address and a port, without a flow label or scope. -/
def ofIp : Ip → UInt16 → Endpoint
  | .v4 ip, port => .v4 ip port
  | .v6 ip, port => .v6 ip port 0 0

/-- The address of an endpoint. -/
def ip : Endpoint → Ip
  | .v4 ip _ => .v4 ip
  | .v6 ip _ _ _ => .v6 ip

/-- The port of an endpoint. -/
def port : Endpoint → UInt16
  | .v4 _ port => port
  | .v6 _ port _ _ => port

/-- The scope of an endpoint, zero for IPv4. -/
def scope : Endpoint → UInt32
  | .v4 _ _ => 0
  | .v6 _ _ _ scope => scope

/-- The endpoint without its flow label, which is what its text shows. -/
def withoutFlow : Endpoint → Endpoint
  | .v4 ip port => .v4 ip port
  | .v6 ip port _ scope => .v6 ip port 0 scope

/-- IPv4 endpoints come first; within a family address, port, flow label and scope decide in this
order. -/
instance : Ord Endpoint where
  compare
    | .v4 ip port, .v4 ip' port' => (compare ip ip').then (compare port port')
    | .v4 _ _, .v6 _ _ _ _ => .lt
    | .v6 _ _ _ _, .v4 _ _ => .gt
    | .v6 ip port flow scope, .v6 ip' port' flow' scope' =>
      (compare ip ip').then <| (compare port port').then <|
        (compare flow flow').then (compare scope scope')

/-- The canonical text: address and port with a colon between them, an IPv6 address in brackets
together with its scope. -/
def toText : Endpoint → String
  | .v4 ip port => ip.toText ++ ":" ++ Decimal.ofNat port.toNat
  | .v6 ip port _ scope =>
    "[" ++ ip.toText ++ (if scope = 0 then "" else "%" ++ Decimal.ofNat scope.toNat) ++ "]:" ++
      Decimal.ofNat port.toNat

/-- Reads `:` and a port in front of a text. -/
def port? (text : List Char) : Option (UInt16 × List Char) := do
  let (n, rest) ← Decimal.natUpTo? 65535 (← Chars.expect? ':' text)
  return (UInt16.ofNat n, rest)

/-- Reads `%` and a scope in front of a text; where there is none, the scope is zero. -/
def readScope (text : List Char) : UInt32 × List Char :=
  match Chars.expect? '%' text >>= Decimal.natUpTo? 0xffffffff with
  | some (n, rest) => (UInt32.ofNat n, rest)
  | none => (0, text)

/-- Reads an IPv4 endpoint in front of a text. -/
def readV4? (text : List Char) : Option (Endpoint × List Char) := do
  let (ip, text) ← Ipv4.read? text
  let (port, text) ← port? text
  return (.v4 ip port, text)

/-- Reads an IPv6 endpoint in front of a text. -/
def readV6? (text : List Char) : Option (Endpoint × List Char) := do
  let (ip, text) ← Ipv6.read? (← Chars.expect? '[' text)
  let (scope, text) := readScope text
  let (port, text) ← port? (← Chars.expect? ']' text)
  return (.v6 ip port 0 scope, text)

/-- Reads a whole text as an endpoint. -/
def ofText? (text : List Char) : Option Endpoint :=
  match readV4? text <|> readV6? text with
  | some (endpoint, []) => some endpoint
  | _ => none

/-- What is said of a text that is no endpoint. -/
def syntaxMessage : String :=
  "invalid socket address syntax"

end Endpoint

end Muster.Net
