import Muster.Bytes
import Muster.Json.Fault

/-!
# JSON strings

The inside of a string, behind its opening quote, is read octet by octet: escapes become the UTF-8
form of what they stand for, everything else but controls is taken as it is, and the whole has to
be valid UTF-8. A string whose value nobody asks for is only searched for its end.

The writer escapes quotes, backslashes and controls and leaves all other octets as they are.
-/

namespace Muster.Json

/-- The octet of an ASCII character. -/
abbrev octet (c : Char) : UInt8 :=
  c.toUInt8

/-- The octet that a short escape stands for. -/
def shortEscape? (b : UInt8) : Option UInt8 :=
  match Char.ofUInt8 b with
  | '"' => some (octet '"')
  | '\\' => some (octet '\\')
  | '/' => some (octet '/')
  | 'b' => some 0x08
  | 'f' => some 0x0c
  | 'n' => some (octet '\n')
  | 'r' => some (octet '\r')
  | 't' => some (octet '\t')
  | _ => none

/-- The value of four hexadecimal digits. -/
def hex4? (a b c d : UInt8) : Option Nat := do
  let a ← Hex.digit? (Char.ofUInt8 a)
  let b ← Hex.digit? (Char.ofUInt8 b)
  let c ← Hex.digit? (Char.ofUInt8 c)
  let d ← Hex.digit? (Char.ofUInt8 d)
  return ((a * 16 + b) * 16 + c) * 16 + d

/-- Whether a code unit is the second half of a surrogate pair. -/
def isSecondSurrogate (n : Nat) : Bool :=
  0xdc00 ≤ n && n ≤ 0xdfff

/-- Whether a code unit is the first half of a surrogate pair. -/
def isFirstSurrogate (n : Nat) : Bool :=
  0xd800 ≤ n && n ≤ 0xdbff

/-- The octets of the character with a code point, in reverse. -/
def reversedUtf8 (n : Nat) : Bytes :=
  (String.utf8EncodeChar (Char.ofNat n)).reverse

/-- Reads the inside of a string; `seen` holds the octets before it in reverse. -/
def readInside (seen : Bytes) : Bytes → Except Fault (Bytes × Bytes)
  | [] => .error .endInString
  | b :: rest =>
    if b = octet '"' then .ok (seen.reverse, rest)
    else if b = octet '\\' then
      match rest with
      | [] => .error .endInString
      | e :: rest =>
        if e = octet 'u' then
          match rest with
          | h :: i :: j :: k :: rest =>
            match hex4? h i j k with
            | none => .error .invalidEscape
            | some n =>
              -- A character beyond the first plane is written as a pair of surrogates.
              if isSecondSurrogate n then .error .loneSurrogate
              else if isFirstSurrogate n then
                match rest with
                | [] => .error .endInString
                | s :: rest =>
                  if s = octet '\\' then
                    match rest with
                    | [] => .error .endInString
                    | u :: rest =>
                      if u = octet 'u' then
                        match rest with
                        | h :: i :: j :: k :: rest =>
                          match hex4? h i j k with
                          | none => .error .invalidEscape
                          | some n' =>
                            if isSecondSurrogate n' then
                              let code := (n - 0xd800) * 0x400 + (n' - 0xdc00) + 0x10000
                              readInside (reversedUtf8 code ++ seen) rest
                            else .error .loneSurrogate
                        | _ => .error .endInString
                      else .error .unfinishedSurrogatePair
                  else .error .unfinishedSurrogatePair
              else readInside (reversedUtf8 n ++ seen) rest
          | _ => .error .endInString
        else
          match shortEscape? e with
          | some c => readInside (c :: seen) rest
          | none => .error .invalidEscape
    else if b < 0x20 then .error .controlCharacter
    else readInside (b :: seen) rest

/-- Reads a string behind its opening quote. -/
def readString (text : Bytes) : Except Fault (String × Bytes) := do
  let (inside, rest) ← readInside [] text
  match Bytes.text? inside with
  | some s => return (s, rest)
  | none => throw .invalidUtf8

/-- Finds the end of a string behind its opening quote. -/
def skipString : Bytes → Except Fault Bytes
  | [] => .error .endInString
  | b :: rest =>
    if b = octet '"' then .ok rest
    else if b = octet '\\' then
      match rest with
      | [] => .error .endInString
      | e :: rest =>
        if e = octet 'u' then
          match rest with
          | h :: i :: j :: k :: rest =>
            if (hex4? h i j k).isSome then skipString rest else .error .invalidEscape
          | _ => .error .endInString
        else if (shortEscape? e).isSome then skipString rest
        else .error .invalidEscape
    else if b < 0x20 then .error .controlCharacter
    else skipString rest

/-- One octet of a written string. -/
def escape (b : UInt8) : Bytes :=
  match Char.ofUInt8 b with
  | '"' => [octet '\\', octet '"']
  | '\\' => [octet '\\', octet '\\']
  | '\x08' => [octet '\\', octet 'b']
  | '\x0c' => [octet '\\', octet 'f']
  | '\n' => [octet '\\', octet 'n']
  | '\r' => [octet '\\', octet 'r']
  | '\t' => [octet '\\', octet 't']
  | _ =>
    if b < 0x20 then
      [octet '\\', octet 'u', octet '0', octet '0', octet (Nat.digitChar (b.toNat / 16)),
        octet (Nat.digitChar (b.toNat % 16))]
    else [b]

/-- A string as it is written. -/
def string (s : String) : Bytes :=
  octet '"' :: (Bytes.ofText s).flatMap escape ++ [octet '"']

end Muster.Json
