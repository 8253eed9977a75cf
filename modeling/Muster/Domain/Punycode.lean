import Muster.Text.Chars

/-!
# Punycode

A text written with letters, digits and hyphens of ASCII. Its own ASCII characters come first, and
behind a hyphen the other ones are put in, from the smallest code point to the greatest and from
left to right: each by the number of steps that lead to it over all code points and places. The
steps are numerals of base 36 in which a digit below a threshold ends the numeral, and the
thresholds follow the size of the steps so far.
-/

namespace Muster.Domain.Punycode

/-- The digit of a value below 36: letters stand for the first 26. -/
def digitChar (d : Nat) : Char :=
  if d < 26 then Char.ofNat ('a'.toNat + d) else Char.ofNat ('0'.toNat + (d - 26))

/-- The value of a digit. -/
def digit? (c : Char) : Option Nat :=
  if 'a' ≤ c ∧ c ≤ 'z' then some (c.toNat - 'a'.toNat)
  else if 'A' ≤ c ∧ c ≤ 'Z' then some (c.toNat - 'A'.toNat)
  else if c.isDigit then some (c.toNat - '0'.toNat + 26)
  else none

/-- A digit below the threshold is the last of its numeral; `k` is 36 for the first digit and grows
by 36 with each. -/
def threshold (bias k : Nat) : Nat :=
  if k ≤ bias then 1 else if bias + 26 ≤ k then 26 else k - bias

/-- Every numeral ends: a digit of zero is always the last. -/
theorem threshold_pos (bias k : Nat) : 1 ≤ threshold bias k := by
  unfold threshold
  split
  · omega
  · split <;> omega

/-- The bias that suits steps of a size. -/
def settle (k delta : Nat) : Nat :=
  if 455 < delta then settle (k + 36) (delta / 35) else k + 36 * delta / (delta + 38)
termination_by delta
decreasing_by exact Nat.div_lt_self (by omega) (by omega)

/-- The bias after a numeral, when the text has `length` characters. The first numeral says less of
those to come. -/
def adapt (delta length : Nat) (isFirst : Bool) : Nat :=
  let delta := if isFirst then delta / 700 else delta / 2
  settle 0 (delta + delta / length)

/-! ## Writing -/

/-- The numeral of a number of steps. -/
def numeral (bias k q : Nat) : List Char :=
  if q < threshold bias k then [digitChar q]
  else
    digitChar (threshold bias k + (q - threshold bias k) % (36 - threshold bias k))
      :: numeral bias (k + 36) ((q - threshold bias k) / (36 - threshold bias k))
termination_by q
decreasing_by
  have positive := threshold_pos bias k
  have := Nat.div_le_self (q - threshold bias k) (36 - threshold bias k)
  omega

/-- What has been written of a text. -/
structure Progress where
  /-- The steps since the last character that was put in. -/
  delta : Nat
  /-- The bias for the next numeral. -/
  bias : Nat
  /-- The number of characters put in so far, those of ASCII included. -/
  length : Nat
  /-- The numerals in reverse. -/
  written : List Char

/-- Passes a character of the text while the code point `n` is put in: smaller ones are there
already and have to be stepped over. -/
def Progress.pass (basic n : Nat) (progress : Progress) (c : Char) : Progress :=
  if c.toNat < n then { progress with delta := progress.delta + 1 }
  else if c.toNat = n then
    { delta := 0
      bias := adapt progress.delta (progress.length + 1) (progress.length == basic)
      length := progress.length + 1
      written := (numeral progress.bias 36 progress.delta).reverseAux progress.written }
  else progress

/-- Puts in the code points given in ascending order, of which those below `n` are done. -/
def Progress.putIn (text : List Char) (basic : Nat) : List Nat → Nat → Progress → Progress
  | [], _, progress => progress
  | m :: rest, n, progress =>
    let start := { progress with delta := progress.delta + (m - n) * (progress.length + 1) }
    let done := text.foldl (Progress.pass basic m) start
    putIn text basic rest (m + 1) { done with delta := done.delta + 1 }

/-- The written form of a text. -/
def encode (text : List Char) : List Char :=
  let basic := text.filter fun c => decide (c.toNat < 0x80)
  let codes := (text.filter fun c => decide (0x80 ≤ c.toNat)).map Char.toNat
  let codes := (codes.mergeSort fun m n => decide (m ≤ n)).eraseReps
  let done := Progress.putIn text basic.length codes 0x80 ⟨0, 72, basic.length, []⟩
  basic ++ (if basic.isEmpty then [] else ['-']) ++ done.written.reverse

/-! ## Reading -/

/-- Reads the rest of a numeral whose next digit has a weight of at most 32 bits. -/
def readNumeral (bias k weight sum : Nat) : List Char → Option (Nat × List Char)
  | [] => none
  | c :: rest =>
    match digit? c with
    | none => none
    | some d =>
      if d < threshold bias k then some (sum + d * weight, rest)
      else if weight * (36 - threshold bias k) < 0x100000000 then
        readNumeral bias (k + 36) (weight * (36 - threshold bias k)) (sum + d * weight) rest
      else none

/-- A numeral has at least one digit. -/
theorem length_lt_of_readNumeral {bias k weight sum : Nat} {text : List Char}
    {read : Nat × List Char} (h : readNumeral bias k weight sum text = some read) :
    read.2.length < text.length := by
  induction text generalizing k weight sum with
  | nil => simp [readNumeral] at h
  | cons c rest ih =>
    rw [readNumeral] at h
    split at h
    · simp at h
    · split at h
      · simp only [Option.some.injEq] at h
        subst h
        simp
      · split at h
        · have := ih h
          simp only [List.length_cons]
          omega
        · simp at h

/-- Reads the numerals of a text and puts in the characters that they stand for; `n` and `place` are
code point and place of the step that is next. -/
def putBack (n place bias : Nat) (isFirst : Bool) (seen : List Char) (text : List Char) :
    Option (List Char) :=
  if text.isEmpty then some seen
  else
    match h : readNumeral bias 36 1 0 text with
    | none => none
    | some (delta, rest) =>
      -- There is a place before, between and behind the characters seen.
      let length := seen.length + 1
      let code := n + (place + delta) / length
      let index := (place + delta) % length
      if code.isValidChar then
        putBack code (index + 1) (adapt delta length isFirst) false
          (seen.insertIdx index (Char.ofNat code)) rest
      else none
termination_by text.length
decreasing_by exact length_lt_of_readNumeral h

/-- Reads the written form of a text. The last hyphen ends its ASCII characters, unless it is the
first character of all. -/
def decode? (text : List Char) : Option (List Char) :=
  match Chars.splitLast? '-' text with
  | some (c :: basic, rest) => putBack 0x80 0 72 true (c :: basic) rest
  | _ => putBack 0x80 0 72 true [] text

end Muster.Domain.Punycode
