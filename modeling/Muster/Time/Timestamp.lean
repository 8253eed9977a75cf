import Muster.Text.Decimal
import Muster.Time.Date

/-!
# Timestamps

Moments in coordinated universal time, exact to the nanosecond. A leap second is the second 59 of
its minute lasting longer than a second, so its nanoseconds reach beyond a thousand million.

`toText` is the form in which records keep a timestamp, `shown` the one in which events tell it.
-/

namespace Muster.Time

/-- The seconds of a day. -/
def secondsPerDay : Nat := 86400

/-- A moment. -/
structure Timestamp where
  /-- The day. -/
  date : Date
  /-- The seconds since the day began. -/
  second : Nat
  /-- The nanoseconds since the second began. -/
  nano : Nat
  /-- The second belongs to the day. -/
  second_lt : second < secondsPerDay
  /-- A second lasts at most two seconds, the last of a minute with its leap second. -/
  nano_lt : nano < 2000000000
  /-- Only the last second of a minute lasts longer than a second. -/
  leap : 1000000000 ≤ nano → second % 60 = 59
  deriving DecidableEq

namespace Timestamp

/-- The moment of a day, a second and a nanosecond, if there is one. -/
def of? (date : Date) (second nano : Nat) : Option Timestamp :=
  if h : second < secondsPerDay ∧ nano < 2000000000 ∧ (1000000000 ≤ nano → second % 60 = 59) then
    some ⟨date, second, nano, h.1, h.2.1, h.2.2⟩
  else none

/-- The hour of the day. -/
def hour (t : Timestamp) : Nat :=
  t.second / 3600

/-- The minute of the hour. -/
def minute (t : Timestamp) : Nat :=
  t.second / 60 % 60

/-- The second of the minute as a clock shows it, 60 in a leap second. -/
def clockSecond (t : Timestamp) : Nat :=
  t.second % 60 + t.nano / 1000000000

/-- The nanoseconds as a clock shows them. -/
def clockNano (t : Timestamp) : Nat :=
  t.nano % 1000000000

/-- A year with four digits, or with its sign and at least four digits outside 0 to 9999. -/
def yearText (year : Int) : String :=
  if 0 ≤ year ∧ year ≤ 9999 then Decimal.padded 4 year.toNat
  else (if year < 0 then "-" else "+") ++ Decimal.padded 4 year.natAbs

/-- Year, month and day with hyphens between them. -/
def dateText (d : Date) : String :=
  yearText d.year ++ "-" ++ Decimal.padded 2 d.month ++ "-" ++ Decimal.padded 2 d.day

/-- A part of a second behind a point: with three, six or nine digits, the fewest that are exact,
or nothing for zero. -/
def fractionText (nano : Nat) : String :=
  if nano = 0 then ""
  else if nano % 1000000 = 0 then "." ++ Decimal.padded 3 (nano / 1000000)
  else if nano % 1000 = 0 then "." ++ Decimal.padded 6 (nano / 1000)
  else "." ++ Decimal.padded 9 nano

/-- The time of day with colons between its parts. -/
def clockText (t : Timestamp) : String :=
  Decimal.padded 2 t.hour ++ ":" ++ Decimal.padded 2 t.minute ++ ":" ++
    Decimal.padded 2 t.clockSecond ++ fractionText t.clockNano

/-- The timestamp as records keep it. -/
def toText (t : Timestamp) : String :=
  dateText t.date ++ "T" ++ t.clockText ++ "Z"

/-- The timestamp as events tell it. -/
def shown (t : Timestamp) : String :=
  dateText t.date ++ " " ++ t.clockText ++ " UTC"

end Timestamp

end Muster.Time
