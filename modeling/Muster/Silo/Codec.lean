import Muster.Silo.Address
import Muster.Text.Quoted

/-!
# Address codecs

A codec gives every address the text under which its row is stored, and reads that text back. The
text of a lawful codec gives the address back, at least if it has no flow label.
-/

namespace Muster.Silo

/-- A way to store addresses as texts. -/
structure Codec where
  /-- The stored text of an address. -/
  encode : Address → String
  /-- The address of a stored text. -/
  decode : String → Except Address.Fault Address
  /-- The codec as it is shown. -/
  description : String

namespace Codec

/-- The codec that stores the canonical text. -/
def canonical : Codec where
  encode := Address.toText
  decode := Address.ofText?
  description := "ParsableAddressCodec"

/-- The codec that stores the canonical text behind a fixed one. -/
def prefixed (front : String) : Codec where
  encode a := front ++ a.toText
  decode text :=
    match Chars.dropWord? front.toList text.toList with
    | some rest => Address.ofText? (String.ofList rest)
    | none => .error (.missingGeneration text)
  description := "Prefixed(" ++ Text.quoted front ++ ")"

end Codec

end Muster.Silo
