/-!
# Stored bytes

What a store keeps under a key is a string of octets. A text is stored in UTF-8, and octets are a
text again only if they are valid UTF-8.
-/

namespace Muster

/-- A string of octets. -/
abbrev Bytes := List UInt8

namespace Bytes

/-- The UTF-8 form of a text. -/
def ofText (text : String) : Bytes :=
  text.toByteArray.data.toList

/-- The text whose UTF-8 form the octets are, if they are one. -/
def text? (bytes : Bytes) : Option String :=
  String.fromUTF8? ⟨bytes.toArray⟩

/-- A text is read back from its UTF-8 form. -/
theorem text?_ofText (text : String) : text? (ofText text) = some text := by
  have h : text.toByteArray.IsValidUTF8 := text.isValidUTF8
  simp [text?, ofText, String.fromUTF8?, h, String.fromUTF8]

end Bytes

end Muster
