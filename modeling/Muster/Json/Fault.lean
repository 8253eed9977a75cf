import Muster.Text.Quoted
import Muster.Text.Shortest
import Muster.Time.Parser

/-!
# Why a JSON text is refused

A text is refused at the first place where it goes wrong: its syntax, a value of another kind than
the one expected, or a member that is missing or repeated.
-/

namespace Muster.Json

/-- A value that stands where another kind was expected. -/
inductive Found
  /-- The value `null`. -/
  | null
  /-- A truth value. -/
  | bool (b : Bool)
  /-- An integer. -/
  | integer (n : Int)
  /-- A number with a fraction or an exponent, or one too large for an integer. -/
  | float (f : Float)
  /-- A string. -/
  | string (s : String)
  /-- An array. -/
  | array
  /-- An object. -/
  | object

/-- The value in words. -/
def Found.message : Found → String
  | .null => "null"
  | .bool b => "boolean \x60" ++ (if b then "true" else "false") ++ "\x60"
  | .integer n => "integer \x60" ++ Decimal.ofInt n ++ "\x60"
  | .float f => "floating point \x60" ++ Shortest.toText f ++ "\x60"
  | .string s => "string " ++ Text.quoted s
  | .array => "sequence"
  | .object => "map"

/-- Why a JSON text is refused. -/
inductive Fault
  /-- The text ends where a value is expected. -/
  | endInValue
  /-- The text ends inside a string. -/
  | endInString
  /-- The text ends inside an array. -/
  | endInArray
  /-- The text ends inside an object. -/
  | endInObject
  /-- A member has no colon behind its name. -/
  | expectedColon
  /-- An element is followed neither by a comma nor by the end of the array. -/
  | expectedCommaOrEndOfArray
  /-- A member is followed neither by a comma nor by the end of the object. -/
  | expectedCommaOrEndOfObject
  /-- A word begins like `null`, `true` or `false` and is another one. -/
  | expectedWord
  /-- No value begins here. -/
  | expectedValue
  /-- A backslash is followed by nothing that it escapes. -/
  | invalidEscape
  /-- A number has no digit where it needs one. -/
  | invalidNumber
  /-- A number is too large for a floating-point number. -/
  | numberOutOfRange
  /-- A string is not valid UTF-8. -/
  | invalidUtf8
  /-- A control character stands in a string. -/
  | controlCharacter
  /-- The name of a member is no string. -/
  | nameNotAString
  /-- An escaped surrogate is not the first of a pair. -/
  | loneSurrogate
  /-- The second half of an escaped surrogate pair is missing. -/
  | unfinishedSurrogatePair
  /-- A comma is followed by the end. -/
  | trailingComma
  /-- There is more text behind a value. -/
  | trailingCharacters
  /-- A value of another kind than the expected one. -/
  | wrongKind (found : Found) (expected : String)
  /-- An integer outside the range of the expected type. -/
  | outOfRange (n : Int) (expected : String)
  /-- An array with too few elements. -/
  | tooShort (count : Nat) (expected : String)
  /-- A name that is none of those of a type. -/
  | unknownName (name : String) (expected : List String)
  /-- A member that is needed is not there. -/
  | missing (name : String)
  /-- A member is there twice. -/
  | repeated (name : String)
  /-- A string is no timestamp. -/
  | timestamp (cause : Time.Fault)

/-- A name as messages quote it. -/
def ticked (name : String) : String :=
  "\x60" ++ name ++ "\x60"

/-- The fault in words. -/
def Fault.message : Fault → String
  | .endInValue => "EOF while parsing a value"
  | .endInString => "EOF while parsing a string"
  | .endInArray => "EOF while parsing a list"
  | .endInObject => "EOF while parsing an object"
  | .expectedColon => "expected " ++ ticked ":"
  | .expectedCommaOrEndOfArray => "expected " ++ ticked "," ++ " or " ++ ticked "]"
  | .expectedCommaOrEndOfObject => "expected " ++ ticked "," ++ " or " ++ ticked "\x7d"
  | .expectedWord => "expected ident"
  | .expectedValue => "expected value"
  | .invalidEscape => "invalid escape"
  | .invalidNumber => "invalid number"
  | .numberOutOfRange => "number out of range"
  | .invalidUtf8 => "invalid unicode code point"
  | .controlCharacter => "control character (\\u0000-\\u001F) found while parsing a string"
  | .nameNotAString => "key must be a string"
  | .loneSurrogate => "lone leading surrogate in hex escape"
  | .unfinishedSurrogatePair => "unexpected end of hex escape"
  | .trailingComma => "trailing comma"
  | .trailingCharacters => "trailing characters"
  | .wrongKind found expected => "invalid type: " ++ found.message ++ ", expected " ++ expected
  | .outOfRange n expected =>
    "invalid value: integer " ++ ticked (Decimal.ofInt n) ++ ", expected " ++ expected
  | .tooShort count expected =>
    "invalid length " ++ Decimal.ofNat count ++ ", expected " ++ expected
  | .unknownName name expected =>
    "unknown variant " ++ ticked name ++ ", expected one of " ++
      String.intercalate ", " (expected.map ticked)
  | .missing name => "missing field " ++ ticked name
  | .repeated name => "duplicate field " ++ ticked name
  | .timestamp cause => cause.message

end Muster.Json
