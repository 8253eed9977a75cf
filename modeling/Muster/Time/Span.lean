import Muster.Text.Decimal

/-!
# Spans of time

A length of time in whole microseconds, and its text: the largest unit of which there is at least
one, with the digits behind the point that are needed.
-/

namespace Muster.Time

/-- A length of time. -/
structure Span where
  /-- Its length in microseconds. -/
  micros : Nat
  deriving DecidableEq

namespace Span

/-- A span of whole milliseconds. -/
def ofMillis (n : Nat) : Span :=
  ⟨n * 1000⟩

/-- A span of whole seconds. -/
def ofSeconds (n : Nat) : Span :=
  ⟨n * 1000000⟩

/-- The whole milliseconds of a span. -/
def millis (s : Span) : Nat :=
  s.micros / 1000

/-- The fraction `part / 10 ^ width` behind a point, without zeros at its end. -/
def fraction (width part : Nat) : String :=
  if part = 0 then ""
  else String.ofList
    ('.' :: (((Nat.toDigits 10 part).leftpad width '0').reverse.dropWhile (· == '0')).reverse)

/-- The text of a span, such as `1.5s`, `20ms` or `1µs`. -/
def toText (s : Span) : String :=
  if 1000000 ≤ s.micros then
    Decimal.ofNat (s.micros / 1000000) ++ fraction 6 (s.micros % 1000000) ++ "s"
  else if 1000 ≤ s.micros then
    Decimal.ofNat (s.micros / 1000) ++ fraction 3 (s.micros % 1000) ++ "ms"
  else if 0 < s.micros then Decimal.ofNat s.micros ++ "µs"
  else "0ns"

end Span

end Muster.Time
