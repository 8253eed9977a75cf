import Muster.Json.Number

/-!
# Skipping a JSON value

A value whose content nobody asks for is passed over: its syntax is checked, apart from the
contents of strings. The brackets that are open are held in a list, so that a value may be nested
to any depth.
-/

namespace Muster.Json

/-- Whether an octet may stand between the tokens of a text. -/
def isBlank (b : UInt8) : Bool :=
  b == octet ' ' || b == octet '\n' || b == octet '\t' || b == octet '\r'

/-- The text behind the blanks in front of it. -/
def dropBlank (text : Bytes) : Bytes :=
  text.dropWhile isBlank

/-- The text behind a word that has to be there. -/
def dropWord : List Char → Bytes → Except Fault Bytes
  | [], text => .ok text
  | _ :: _, [] => .error .endInValue
  | c :: word, b :: text => if b = octet c then dropWord word text else .error .expectedWord

/-- An open bracket. -/
inductive Bracket
  /-- That of an array. -/
  | array
  /-- That of an object. -/
  | object
  deriving DecidableEq

/-- What is wrong when the text ends inside a bracket. -/
def Bracket.endFault : Bracket → Fault
  | .array => .endInArray
  | .object => .endInObject

/-- What is wrong when a value in a bracket is followed by something else than a comma or its
end. -/
def Bracket.commaFault : Bracket → Fault
  | .array => .expectedCommaOrEndOfArray
  | .object => .expectedCommaOrEndOfObject

/-- The character that closes a bracket. -/
def Bracket.close : Bracket → Char
  | .array => ']'
  | .object => '\x7d'

/-- Closes brackets behind a value until a comma follows or none is open. -/
def closeBrackets : List Bracket → Bytes → Except Fault (List Bracket × Bytes)
  | [], text => .ok ([], text)
  | bracket :: outer, text =>
    match dropBlank text with
    | [] => .error bracket.endFault
    | b :: rest =>
      if b = octet ',' then .ok (bracket :: outer, rest)
      else if b = octet bracket.close then closeBrackets outer rest
      else .error bracket.commaFault

/-- Skips the name of a member and its colon. -/
def skipName (text : Bytes) : Except Fault Bytes := do
  match dropBlank text with
  | [] => throw .endInObject
  | b :: rest =>
    if b ≠ octet '"' then throw .nameNotAString
    let rest ← skipString rest
    match dropBlank rest with
    | [] => throw .endInObject
    | b :: rest => if b = octet ':' then return rest else throw .expectedColon

/-- What stands in front of a text: an opening bracket, or a whole value. -/
def skipToken (text : Bytes) : Except Fault (Option Bracket × Bytes) := do
  match dropBlank text with
  | [] => throw .endInValue
  | b :: rest =>
    match Char.ofUInt8 b with
    | 'n' => return (none, ← dropWord ['u', 'l', 'l'] rest)
    | 't' => return (none, ← dropWord ['r', 'u', 'e'] rest)
    | 'f' => return (none, ← dropWord ['a', 'l', 's', 'e'] rest)
    | '-' => return (none, ← skipNumber rest)
    | '"' => return (none, ← skipString rest)
    | '[' => return (some .array, rest)
    | '\x7b' => return (some .object, rest)
    | _ => if isDigit b then return (none, ← skipNumber (b :: rest)) else throw .expectedValue

/-- Goes on behind a token: `open?` is the bracket that it opened, `outer` those opened before.
The answer tells the brackets that a value or member has to follow in. -/
def afterToken (opened : Option Bracket) (outer : List Bracket) (text : Bytes) :
    Except Fault (List Bracket × Bytes) :=
  match opened with
  | none => closeBrackets outer text
  | some bracket =>
    match dropBlank text with
    | [] => .error bracket.endFault
    | b :: rest =>
      if b = octet bracket.close then closeBrackets outer rest
      else .ok (bracket :: outer, b :: rest)

/-- Skips the value in front of a text and what is left of the brackets around it. The first
argument bounds the number of steps by its length. -/
def skipWithin : Bytes → List Bracket → Bytes → Except Fault Bytes
  | [], _, _ => .error .endInValue
  | _ :: bound, outer, text => do
    let (opened, rest) ← skipToken text
    match ← afterToken opened outer rest with
    | ([], rest) => return rest
    | (.array :: outer, rest) => skipWithin bound (.array :: outer) rest
    | (.object :: outer, rest) => skipWithin bound (.object :: outer) (← skipName rest)

/-- Skips the value in front of a text. Every step takes at least one octet, so the text itself
bounds their number. -/
def skipValue (text : Bytes) : Except Fault Bytes :=
  skipWithin text [] text

end Muster.Json
