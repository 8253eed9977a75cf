import Muster.Text.Hex

/-!
# Percent encoding

A character that may not stand in a part of a URI is written as the octets of its UTF-8 form, each
as `%` and two digits. Controls and characters outside ASCII are encoded everywhere; what else is
depends on the part.
-/

namespace Muster.Uri.Percent

/-- A set of printable ASCII characters that a part of a URI may not hold. -/
abbrev Reserved := List Char

/-- Nothing beyond controls and characters outside ASCII. -/
def controls : Reserved := []

/-- What is encoded in a fragment. -/
def fragment : Reserved := [' ', '"', '<', '>', '\x60']

/-- What is encoded in a path. -/
def path : Reserved := fragment ++ ['#', '?', '\x7b', '\x7d']

/-- What is encoded in a user name or password. -/
def userinfo : Reserved := path ++ ['/', ':', ';', '=', '@', '[', '\\', ']', '^', '|']

/-- What is encoded in a query. -/
def query : Reserved := [' ', '"', '#', '<', '>']

/-- What is encoded in the query of a special scheme. -/
def specialQuery : Reserved := query ++ ['\x27']

/-- One character, encoded if it has to be. -/
def encodeChar (reserved : Reserved) (c : Char) : List Char :=
  if c.toNat < 0x20 ∨ 0x7e < c.toNat ∨ c ∈ reserved then
    (String.utf8EncodeChar c).flatMap fun b => '%' :: Hex.upperOctet b
  else [c]

/-- A text with every character encoded that has to be. -/
def encode (reserved : Reserved) (text : List Char) : List Char :=
  text.flatMap (encodeChar reserved)

/-- The octets of a text after every `%` with two digits has become the octet that it stands
for. -/
def decode : List Char → List UInt8
  | [] => []
  | '%' :: h :: l :: rest =>
    match Hex.digit? h, Hex.digit? l with
    | some h, some l => UInt8.ofNat (h * 16 + l) :: decode rest
    | _, _ => '%'.toUInt8 :: decode (h :: l :: rest)
  | c :: rest => String.utf8EncodeChar c ++ decode rest

end Muster.Uri.Percent
