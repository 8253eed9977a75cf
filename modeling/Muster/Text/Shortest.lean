import Muster.Text.Decimal

/-!
# The shortest decimal of a floating-point number

A double stands for every real number that rounds to it. `shortest` finds the decimal with the
fewest digits among those, and of the decimals with that many digits the nearest one to the
double. All of it is arithmetic on natural numbers: the number is `m * 2 ^ q`, and the interval
around it is measured in quarters of the last binary place.
-/

namespace Muster.Shortest

/-- A positive decimal `digits * 10 ^ exponent`. -/
structure Scientific where
  /-- The digits as a number. -/
  digits : Nat
  /-- The power of ten that they count. -/
  exponent : Int

/-- A positive fraction. -/
structure Ratio where
  /-- The numerator. -/
  num : Nat
  /-- The denominator. -/
  den : Nat

/-- The fraction times a power of ten. -/
def Ratio.shift (r : Ratio) (power : Int) : Ratio :=
  if 0 ≤ power then ⟨r.num * Nat.pow 10 power.toNat, r.den⟩
  else ⟨r.num, r.den * Nat.pow 10 (-power).toNat⟩

/-- The fraction `n * 2 ^ q`. -/
def Ratio.binary (n : Nat) (q : Int) : Ratio :=
  if 0 ≤ q then ⟨n * Nat.pow 2 q.toNat, 1⟩ else ⟨n, Nat.pow 2 (-q).toNat⟩

/-- The power of ten of the first digit of a fraction. -/
def Ratio.magnitude (r : Ratio) : Int :=
  if r.den ≤ r.num then ((Nat.toDigits 10 (r.num / r.den)).length : Int) - 1
  else
    Int.negOfNat (((List.range 400).find? fun j => r.den ≤ r.num * Nat.pow 10 j).getD 400)

/-- The real numbers that round to a double: its own value and the ends of the interval. -/
structure Interval where
  /-- The value of the double. -/
  value : Ratio
  /-- The lower end. -/
  low : Ratio
  /-- The upper end. -/
  high : Ratio
  /-- Whether the ends round to the double too. -/
  closed : Bool

/-- The interval of a positive finite double, given by its bits. -/
def interval (bits : UInt64) : Interval :=
  let fraction := (bits &&& 0xfffffffffffff).toNat
  let field := ((bits >>> 52) &&& 0x7ff).toNat
  let m := if field = 0 then fraction else fraction + 0x10000000000000
  let q : Int := if field = 0 then -1074 else (field : Int) - 1075
  let below := if fraction = 0 ∧ 1 < field then 1 else 2
  ⟨.binary m q, .binary (4 * m - below) (q - 2), .binary (4 * m + 2) (q - 2), m % 2 = 0⟩

/-- Whether `digits` lies in the interval once both are scaled by a power of ten. -/
def Interval.holds (i : Interval) (power : Int) (digits : Nat) : Bool :=
  let low := i.low.shift power
  let high := i.high.shift power
  if i.closed then low.num ≤ digits * low.den && digits * high.den ≤ high.num
  else decide (low.num < digits * low.den) && decide (digits * high.den < high.num)

/-- The decimal with `count` digits nearest to the value of the interval, if one lies in it. -/
def Interval.withDigits? (i : Interval) (count : Nat) : Option Scientific :=
  let power := (count : Int) - 1 - i.value.magnitude
  let scaled := i.value.shift power
  let down := scaled.num / scaled.den
  let rest := scaled.num % scaled.den
  let up := down + 1
  let nearer := if 2 * rest < scaled.den ∨ (2 * rest = scaled.den ∧ down % 2 = 0) then down else up
  let further := if nearer = down then up else down
  if i.holds power nearer then some ⟨nearer, -power⟩
  else if i.holds power further then some ⟨further, -power⟩
  else none

/-- The decimal without zeros at the end of its digits. -/
def Scientific.trim (s : Scientific) : Scientific :=
  let zeros := ((Nat.toDigits 10 s.digits).reverse.takeWhile (· == '0')).length
  ⟨s.digits / Nat.pow 10 zeros, s.exponent + zeros⟩

/-- The shortest decimal of a positive finite double, given by its bits. -/
def shortest (bits : UInt64) : Scientific :=
  let i := interval bits
  (((List.range 17).findSome? fun n => i.withDigits? (n + 1)).getD ⟨0, 0⟩).trim

/-- The text of a positive decimal: with a point and at least one digit behind it from
`0.00001` to below `10 ^ 16`, with an exponent and its sign otherwise. -/
def Scientific.toText (s : Scientific) : String :=
  let digits := Nat.toDigits 10 s.digits
  let first : Int := s.exponent + digits.length - 1
  -- All digits before the point, the point among them, all behind it, or with an exponent.
  if 0 ≤ s.exponent ∧ first ≤ 15 then
    String.ofList (digits ++ List.replicate s.exponent.toNat '0') ++ ".0"
  else if 0 ≤ first ∧ first ≤ 15 then
    String.ofList (digits.take (first.toNat + 1)) ++ "." ++
      String.ofList (digits.drop (first.toNat + 1))
  else if -5 ≤ first ∧ first < 0 then
    "0." ++ String.ofList (List.replicate ((-first).toNat - 1) '0' ++ digits)
  else
    String.ofList (digits.take 1) ++
      (if digits.length = 1 then "" else "." ++ String.ofList (digits.drop 1)) ++
      "e" ++ (if first < 0 then "-" else "+") ++ Decimal.ofNat first.natAbs

/-- The shortest text that reads back as a finite double. -/
def toText (f : Float) : String :=
  let bits := f.toBits
  let sign := if bits >>> 63 = 1 then "-" else ""
  let magnitude := bits &&& 0x7fffffffffffffff
  sign ++ if magnitude = 0 then "0.0" else (shortest magnitude).toText

end Muster.Shortest
