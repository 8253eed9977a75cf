import Muster.Json.Skip

/-!
# Reading typed values from JSON

A reader takes the value in front of a text and returns it with the text behind it. The readers of
strings, integers and timestamps say which kind they expect when they meet another. A structure is
described by its fields; it is read from an object, whose members may come in any order among
members of other names, or from an array of its fields in order.
-/

namespace Muster.Json

/-- The value in front of a text, named for a fault. -/
def found (text : Bytes) : Except Fault Found := do
  match text with
  | [] => throw .expectedValue
  | b :: rest =>
    match Char.ofUInt8 b with
    | 'n' => let _ ← dropWord ['u', 'l', 'l'] rest; return .null
    | 't' => let _ ← dropWord ['r', 'u', 'e'] rest; return .bool true
    | 'f' => let _ ← dropWord ['a', 'l', 's', 'e'] rest; return .bool false
    | '"' => return .string (← readString rest).1
    | '[' => return .array
    | '\x7b' => return .object
    | '-' => return ofNumber (← readNumber true rest).1
    | _ =>
      if isDigit b then return ofNumber (← readNumber false (b :: rest)).1
      else throw .expectedValue
where
  /-- A number, named for a fault. -/
  ofNumber : Number → Found
    | .integer n => .integer n
    | .float f => .float f

/-- The fault of a text in front of which stands another kind than the expected one, or no
value. -/
def mismatch (expected : String) (text : Bytes) : Fault :=
  match found text with
  | .ok value => .wrongKind value expected
  | .error fault => fault

/-- Reads a string; `expected` says what for. -/
def readText (expected : String) (text : Bytes) : Except Fault (String × Bytes) :=
  match dropBlank text with
  | [] => .error .endInValue
  | b :: rest =>
    if b = octet '"' then readString rest else .error (mismatch expected (b :: rest))

/-- Reads any string. -/
def readAnyText : Bytes → Except Fault (String × Bytes) :=
  readText "a string"

/-- Reads a timestamp. -/
def readTimestamp (text : Bytes) : Except Fault (Time.Timestamp × Bytes) := do
  let (s, rest) ← readText "an RFC 3339 formatted date and time string" text
  match Time.Timestamp.ofText? s with
  | .ok t => return (t, rest)
  | .error cause => throw (.timestamp cause)

/-- Reads an integer between `low` and `high`; `expected` names the range. -/
def readInteger (expected : String) (low high : Int) (text : Bytes) :
    Except Fault (Int × Bytes) := do
  match dropBlank text with
  | [] => throw .endInValue
  | b :: rest =>
    let (number, rest) ←
      if b = octet '-' then readNumber true rest
      else if isDigit b then readNumber false (b :: rest)
      else throw (mismatch expected (b :: rest))
    match number with
    | .integer n => if low ≤ n ∧ n ≤ high then return (n, rest) else throw (.outOfRange n expected)
    | .float f => throw (.wrongKind (.float f) expected)

/-- Reads a port. -/
def readUInt16 (text : Bytes) : Except Fault (UInt16 × Bytes) := do
  let (n, rest) ← readInteger "u16" 0 65535 text
  return (UInt16.ofNat n.toNat, rest)

/-- Reads a version number. -/
def readInt32 (text : Bytes) : Except Fault (Int32 × Bytes) := do
  let (n, rest) ← readInteger "i32" (-2147483648) 2147483647 text
  return (Int32.ofInt n, rest)

/-- Reads the value `null`. -/
def readNull (text : Bytes) : Except Fault Bytes :=
  match dropBlank text with
  | [] => .error .endInValue
  | b :: rest =>
    if b = octet 'n' then dropWord ['u', 'l', 'l'] rest else .error (mismatch "unit" (b :: rest))

/-- Reads the colon behind the name of a member. -/
def readColon (text : Bytes) : Except Fault Bytes :=
  match dropBlank text with
  | [] => .error .endInObject
  | b :: rest => if b = octet ':' then .ok rest else .error .expectedColon

/-- Reads one of the names of a type behind an opening quote. -/
def readName (named? : String → Option α) (names : List String) (text : Bytes) :
    Except Fault (α × Bytes) := do
  let (s, rest) ← readString text
  match named? s with
  | some a => return (a, rest)
  | none => throw (.unknownName s names)

/-- Reads one of the names of a type: a string, or the only member of an object whose value is
`null`. -/
def readChoice (named? : String → Option α) (names : List String) (text : Bytes) :
    Except Fault (α × Bytes) := do
  match dropBlank text with
  | [] => throw .endInValue
  | b :: rest =>
    match Char.ofUInt8 b with
    | '"' => readName named? names rest
    | '\x7b' =>
      match dropBlank rest with
      -- A choice may be written as an object of one member whose value is `null`.
      | [] => throw .endInObject
      | b :: rest =>
        match Char.ofUInt8 b with
        | '"' =>
          let (a, rest) ← readName named? names rest
          let rest ← readNull (← readColon rest)
          match dropBlank rest with
          | [] => throw .endInObject
          | b :: rest => if b = octet '\x7d' then return (a, rest) else throw .expectedValue
        | '\x7d' => throw .expectedValue
        | _ => throw .nameNotAString
    | _ => throw .expectedValue

/-- Looks for the next element of an array: the text in front of it, or nothing at the end. -/
def nextElement (first : Bool) (text : Bytes) : Except Fault (Option Bytes) := do
  match dropBlank text with
  | [] => throw .endInArray
  | b :: rest =>
    if b = octet ']' then return none
    else if first then return some (b :: rest)
    else if b = octet ',' then
      match dropBlank rest with
      | [] => throw .endInValue
      | b :: rest => if b = octet ']' then throw .trailingComma else return some (b :: rest)
    else throw .expectedCommaOrEndOfArray

/-- Reads the end of an array. -/
def endArray (text : Bytes) : Except Fault Bytes :=
  match dropBlank text with
  | [] => .error .endInArray
  | b :: rest =>
    if b = octet ']' then .ok rest
    else if b = octet ',' ∧ (dropBlank rest).head? = some (octet ']') then .error .trailingComma
    else .error .trailingCharacters

/-- Reads the elements of an array up to its end. The first text bounds their number by its
length. -/
def readElements (read : Bytes → Except Fault (α × Bytes)) :
    Bytes → Bool → Bytes → Except Fault (List α × Bytes)
  | [], _, _ => .error .endInArray
  | _ :: bound, first, text => do
    match ← nextElement first text with
    | none => return ([], ← endArray text)
    | some text =>
      let (a, rest) ← read text
      let (as, rest) ← readElements read bound false rest
      return (a :: as, rest)

/-- Reads an array of any length. Every element takes at least one octet, so the text itself bounds
their number. -/
def readArray (read : Bytes → Except Fault (α × Bytes)) (text : Bytes) :
    Except Fault (List α × Bytes) :=
  match dropBlank text with
  | [] => .error .endInValue
  | b :: rest =>
    if b = octet '[' then readElements read rest true rest
    else .error (mismatch "a sequence" (b :: rest))

/-- A field of a structure that is read into a draft. -/
structure Field (δ : Type) where
  /-- The name of the field. -/
  name : String
  /-- Whether the draft holds the field already. -/
  isSet : δ → Bool
  /-- Reads the value of the field into the draft. -/
  read : δ → Bytes → Except Fault (δ × Bytes)
  /-- Whether an array may end before the field. -/
  isOptional : Bool := false

/-- A structure that is read field by field. -/
structure Shape (δ α : Type) where
  /-- The structure in the words of a fault. -/
  description : String
  /-- The fields in order. -/
  fields : List (Field δ)
  /-- The draft that holds no field. -/
  blank : δ
  /-- The value of a draft, or the name of the first field that it lacks. -/
  finish : δ → Except String α

namespace Shape

/-- Looks for the next member of an object: the text behind the opening quote of its name, or
nothing at the end. -/
def nextMember (first : Bool) (text : Bytes) : Except Fault (Option Bytes) := do
  match dropBlank text with
  | [] => throw .endInObject
  | b :: rest =>
    if b = octet '\x7d' then return none
    else if first then
      if b = octet '"' then return some rest else throw .nameNotAString
    else if b = octet ',' then
      match dropBlank rest with
      | [] => throw .endInValue
      | b :: rest =>
        if b = octet '"' then return some rest
        else if b = octet '\x7d' then throw .trailingComma
        else throw .nameNotAString
    else throw .expectedCommaOrEndOfObject

/-- Reads a member behind its name: into the draft if the structure has the field, otherwise it is
skipped. -/
def readMember (fields : List (Field δ)) (draft : δ) (name : String) (text : Bytes) :
    Except Fault (δ × Bytes) := do
  match fields.find? (·.name == name) with
  | some field =>
    if field.isSet draft then throw (.repeated name)
    field.read draft (← readColon text)
  | none => return (draft, ← skipValue (← readColon text))

/-- Reads the members of an object up to its end. The first text bounds their number by its length:
every member takes at least one octet. -/
def readMembers (fields : List (Field δ)) : Bytes → Bool → δ → Bytes → Except Fault (δ × Bytes)
  | [], _, _, _ => .error .endInObject
  | _ :: bound, first, draft, text => do
    match ← nextMember first text with
    | none => return (draft, (dropBlank text).drop 1)
    | some text =>
      let (name, rest) ← readString text
      let (draft, rest) ← readMember fields draft name rest
      readMembers fields bound false draft rest

/-- Reads the fields of a structure from the elements of an array; `count` are read already. -/
def readFields (tooShort : Nat → Fault) : List (Field δ) → Nat → δ → Bytes →
    Except Fault (δ × Bytes)
  | [], _, draft, text => .ok (draft, text)
  | field :: fields, count, draft, text => do
    match ← nextElement (count == 0) text with
    | some text =>
      let (draft, rest) ← field.read draft text
      readFields tooShort fields (count + 1) draft rest
    | none =>
      if field.isOptional then readFields tooShort fields (count + 1) draft text
      else throw (tooShort count)

/-- Reads a structure. -/
def read (shape : Shape δ α) (text : Bytes) : Except Fault (α × Bytes) := do
  match dropBlank text with
  | [] => throw .endInValue
  | b :: rest =>
    match Char.ofUInt8 b with
    | '[' =>
      -- The fields may come in order and without names, as an array.
      let expected := shape.description ++ " with " ++ Decimal.ofNat shape.fields.length ++
        " elements"
      let (draft, rest) ← readFields (.tooShort · expected) shape.fields 0 shape.blank rest
      return (← finished draft, ← endArray rest)
    | '\x7b' =>
      let (draft, rest) ← readMembers shape.fields rest true shape.blank rest
      return (← finished draft, rest)
    | _ => throw (mismatch shape.description (b :: rest))
where
  /-- The value of a draft. -/
  finished (draft : δ) : Except Fault α :=
    (shape.finish draft).mapError .missing

end Shape

/-- Reads a whole text as one value. -/
def readAll (read : Bytes → Except Fault (α × Bytes)) (text : Bytes) : Except Fault α := do
  let (a, rest) ← read text
  if (dropBlank rest).isEmpty then return a else throw .trailingCharacters

end Muster.Json
