import Muster.Json.Str

/-!
# Writing JSON

Values are written without blanks: members in the order given, each name before its value.
-/

namespace Muster.Json

/-- Pieces with commas between them. -/
def commas : List Bytes → Bytes
  | [] => []
  | [piece] => piece
  | piece :: pieces => piece ++ octet ',' :: commas pieces

/-- A member: its name, a colon and its value. -/
def member (name : String) (value : Bytes) : Bytes :=
  string name ++ octet ':' :: value

/-- An object of members given by name and written value. -/
def object (members : List (String × Bytes)) : Bytes :=
  octet '\x7b' :: commas (members.map fun m => member m.1 m.2) ++ [octet '\x7d']

/-- An array of written values. -/
def array (values : List Bytes) : Bytes :=
  octet '[' :: commas values ++ [octet ']']

/-- An integer as it is written. -/
def number (n : Int) : Bytes :=
  Bytes.ofText (Decimal.ofInt n)

/-- A timestamp as it is written. -/
def timestamp (t : Time.Timestamp) : Bytes :=
  string t.toText

end Muster.Json
