import Muster.Text.Blank
import Muster.Text.Chars
import Muster.Time.Timestamp

/-!
# Reading timestamps

A timestamp is read from left to right in a relaxed form: blanks may stand in front of the numbers
and separators, numbers may be short, any offset from universal time is taken into account. The
first place where the text goes wrong names the fault; whether the numbers together name a moment
is asked at the end.
-/

namespace Muster.Time

/-- Why a text is no timestamp. -/
inductive Fault
  /-- The text ends too early. -/
  | premature
  /-- A character stands where it may not. -/
  | invalid
  /-- A number is outside the range of what it counts. -/
  | outOfRange
  /-- There is more text behind a timestamp. -/
  | trailing
  /-- In universal time the moment lies outside the range of dates. -/
  | impossible
  deriving DecidableEq

/-- The fault in words. -/
def Fault.message : Fault → String
  | .premature => "premature end of input"
  | .invalid => "input contains invalid characters"
  | .outOfRange => "input is out of range"
  | .trailing => "trailing input"
  | .impossible => "no possible date and time matching input"

namespace Timestamp

open Text (dropBlank)

/-- The value of decimal digits. -/
def digitsValue (digits : List Char) : Nat :=
  digits.foldl (fun n c => n * 10 + (Decimal.digit? c).getD 0) 0

/-- Reads at least one digit in front of a text, and of a number with a `width` at most that
many. -/
def digits (width : Option Nat) (text : List Char) : Except Fault (List Char × List Char) :=
  match text with
  | [] => .error .premature
  | c :: _ =>
    if c.isDigit then
      let all := text.takeWhile Char.isDigit
      let taken := (width.map all.take).getD all
      .ok (taken, text.drop taken.length)
    else .error .invalid

/-- Reads a character that has to be there. -/
def mark (c : Char) : List Char → Except Fault (List Char)
  | [] => .error .premature
  | d :: rest => if d = c then .ok rest else .error .invalid

/-- Reads a number of at most two digits that has to lie between `low` and `high`. -/
def field (low high : Nat) (text : List Char) : Except Fault (Nat × List Char) := do
  let (ds, rest) ← digits (some 2) (dropBlank text)
  let n := digitsValue ds
  if low ≤ n ∧ n ≤ high then return (n, rest) else throw .outOfRange

/-- Reads a year: any number of digits behind a sign, otherwise at most four. -/
def year (text : List Char) : Except Fault (Int × List Char) := do
  match dropBlank text with
  | '-' :: text =>
    let (ds, rest) ← digits none text
    if digitsValue ds ≤ 0x80000000 then return (-(digitsValue ds : Int), rest)
    else throw .outOfRange
  | '+' :: text =>
    let (ds, rest) ← digits none text
    if digitsValue ds < 0x80000000 then return ((digitsValue ds : Int), rest) else throw .outOfRange
  | text =>
    let (ds, rest) ← digits (some 4) text
    return ((digitsValue ds : Int), rest)

/-- Reads a part of a second behind a point, in nanoseconds; digits after the ninth are
dropped. -/
def fraction (text : List Char) : Except Fault (Nat × List Char) := do
  match text with
  | '.' :: text =>
    let (ds, rest) ← digits (some 9) text
    return (digitsValue ds * Nat.pow 10 (9 - ds.length), rest.dropWhile Char.isDigit)
  | _ => return (0, text)

/-- Reads two digits, neither more nor less. -/
def twoDigits : List Char → Except Fault (Nat × List Char)
  | a :: b :: rest =>
    match Decimal.digit? a, Decimal.digit? b with
    | some a, some b => .ok (a * 10 + b, rest)
    | _, _ => .error .invalid
  | [a] => if a.utf8Size = 1 then .error .premature else .error .invalid
  | [] => .error .premature

/-- Reads the offset from universal time in seconds: `Z`, `UTC`, or a sign with hours and minutes,
which blanks and colons may separate. -/
def offset (text : List Char) : Except Fault (Int × List Char) := do
  match text with
  | 'Z' :: rest => return (0, rest)
  | 'z' :: rest => return (0, rest)
  | _ =>
    if text.take 3 |>.map Char.toUpper |> (· == ['U', 'T', 'C']) then return (0, text.drop 3)
    else match text with
      | [] => throw .premature
      | c :: rest =>
        let sign : Int ←
          if c = '+' then pure 1
          else if c = '-' ∨ c = '\u2212' then pure (-1)
          else throw .invalid
        let (hours, rest) ← twoDigits rest
        let (minutes, rest) ← twoDigits (rest.dropWhile fun c => c == ':' || Text.isBlank c)
        if minutes < 60 then return (sign * (hours * 3600 + minutes * 60 : Nat), rest)
        else throw .outOfRange

/-- The moment that a clock shows at `date` and `second`, the clock being ahead of universal time
by `offset` seconds. -/
def ofLocal? (date : Date) (second nano : Nat) (offset : Int) : Option Timestamp :=
  let moved := (second : Int) - offset
  if moved < 0 then date.previous?.bind (of? · (moved + secondsPerDay).toNat nano)
  else if moved < secondsPerDay then of? date moved.toNat nano
  else date.next?.bind (of? · (moved - secondsPerDay).toNat nano)

/-- Reads what separates a date from a time. -/
def separator : List Char → Except Fault (List Char)
  | [] => .error .premature
  | c :: rest => if c = 'T' ∨ c = 't' ∨ c = ' ' then .ok rest else .error .invalid

/-- Reads a text as a timestamp. -/
def ofText? (text : String) : Except Fault Timestamp := do
  let (year, rest) ← year text.toList
  let (month, rest) ← field 1 12 (← mark '-' (dropBlank rest))
  let (day, rest) ← field 1 31 (← mark '-' (dropBlank rest))
  let (hour, rest) ← field 0 23 (← separator rest)
  let (minute, rest) ← field 0 59 (← mark ':' (dropBlank rest))
  let (second, rest) ← field 0 60 (← mark ':' (dropBlank rest))
  let (nano, rest) ← fraction rest
  let (offset, rest) ← offset (dropBlank rest)
  if dropBlank rest ≠ [] then throw .trailing
  match Date.of? year month day with
  | none => throw .outOfRange
  | some date =>
    if secondsPerDay ≤ offset.natAbs then throw .outOfRange
    -- A leap second is the second before it, with a thousand million nanoseconds more.
    let leap := if second = 60 then 1 else 0
    match ofLocal? date (hour * 3600 + minute * 60 + second - leap)
        (nano + leap * 1000000000) offset with
    | some t => return t
    | none => throw .impossible

end Timestamp

end Muster.Time
