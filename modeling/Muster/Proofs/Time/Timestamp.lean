import Muster.Proofs.Text.Numeral
import Muster.Time.Parser

/-!
# Timestamps are read back

A written timestamp is a row of numerals with marks between them. Each numeral stands in front of
something that is no digit, so the reader of digits takes exactly the numeral (`digits_append`), and
every part of the text is read back in turn. The whole text gives the timestamp back
(`ofText?_toText`), leap seconds and years of any sign included.
-/

namespace Muster.Time.Timestamp

open Text (dropBlank)

/-- A text that does not go on with a digit. -/
def EndsDigits (text : List Char) : Prop :=
  text.takeWhile Char.isDigit = []

/-- A text that begins with a character other than a digit does not go on with one. -/
theorem endsDigits_cons {c : Char} (h : c.isDigit = false) (rest : List Char) :
    EndsDigits (c :: rest) := by
  simp [EndsDigits, h]

/-- The value that the reader gives to digits is the usual one. -/
theorem digitsValue_eq {ds : List Char} (h : ∀ c ∈ ds, c.isDigit = true) :
    digitsValue ds = Nat.ofDigitChars 10 ds 0 := by
  have hfold : ∀ n, ds.foldl (fun n c => n * 10 + (Decimal.digit? c).getD 0) n =
      Nat.ofDigitChars 10 ds n := by
    induction ds with
    | nil => exact fun _ => rfl
    | cons c ds ih =>
      intro n
      have hc := Decimal.digit?_of_isDigit (h c List.mem_cons_self)
      rw [List.foldl_cons, hc, Option.getD_some, Nat.mul_comm n 10, Nat.ofDigitChars_cons]
      exact ih (fun d hd => h d (List.mem_cons_of_mem _ hd)) _
  exact hfold 0

/-- The value of padded digits is the number. -/
theorem digitsValue_padded (width n : Nat) : digitsValue (Decimal.padded width n).toList = n := by
  rw [digitsValue_eq fun _ => Decimal.isDigit_of_mem_padded, Decimal.value_padded]

/-- Digits are no blanks. -/
theorem isBlank_of_isDigit {c : Char} (h : c.isDigit = true) : Text.isBlank c = false := by
  simp only [Char.isDigit, ge_iff_le, Bool.and_eq_true, decide_eq_true_eq,
    UInt32.le_iff_toNat_le] at h
  have hlow : 48 ≤ c.toNat := h.1
  have hhigh : c.toNat ≤ 57 := h.2
  simp only [Text.isBlank, Text.blankRanges, List.any_cons, List.any_nil, Bool.or_false,
    Bool.or_eq_false_iff, Bool.and_eq_false_iff, decide_eq_false_iff_not]
  omega

/-- A character that is no blank stays in front. -/
theorem dropBlank_cons {c : Char} (h : Text.isBlank c = false) (rest : List Char) :
    dropBlank (c :: rest) = c :: rest := by
  rw [dropBlank, List.dropWhile_cons_of_neg (by simp [h])]

/-- No blanks stand in front of digits. -/
theorem dropBlank_append {ds : List Char} (hne : ds ≠ []) (hds : ∀ c ∈ ds, c.isDigit = true)
    (rest : List Char) : dropBlank (ds ++ rest) = ds ++ rest := by
  obtain ⟨c, ds, rfl⟩ := List.exists_cons_of_ne_nil hne
  exact dropBlank_cons (isBlank_of_isDigit (hds c List.mem_cons_self)) _

/-- Digits are taken up to where they end. -/
theorem takeWhile_append {ds rest : List Char} (hds : ∀ c ∈ ds, c.isDigit = true)
    (hrest : EndsDigits rest) : (ds ++ rest).takeWhile Char.isDigit = ds := by
  rw [List.takeWhile_append_of_pos hds, hrest, List.append_nil]

/-- Digits are read as far as they go if the width allows for them. -/
theorem digits_append {width : Option Nat} {ds rest : List Char} (hne : ds ≠ [])
    (hds : ∀ c ∈ ds, c.isDigit = true) (hwidth : ∀ w, width = some w → ds.length ≤ w)
    (hrest : EndsDigits rest) : digits width (ds ++ rest) = .ok (ds, rest) := by
  have htake := takeWhile_append hds hrest
  -- The width leaves all digits in.
  have htaken : (width.map ds.take).getD ds = ds := by
    cases width with
    | none => rfl
    | some w => exact List.take_of_length_le (hwidth w rfl)
  obtain ⟨c, ds, rfl⟩ := List.exists_cons_of_ne_nil hne
  have hc : c.isDigit = true := hds c List.mem_cons_self
  rw [List.cons_append] at htake ⊢
  unfold digits
  dsimp only
  rw [if_pos hc, htake, htaken, ← List.cons_append, List.drop_left]

/-- A number of two digits is read back as a field. -/
theorem field_padded {low high n : Nat} (hlow : low ≤ n) (hhigh : n ≤ high) (hn : n < 100)
    {rest : List Char} (hrest : EndsDigits rest) :
    field low high ((Decimal.padded 2 n).toList ++ rest) = .ok (n, rest) := by
  -- Two digits are expected, and two are written.
  have hdigits : digits (some 2) ((Decimal.padded 2 n).toList ++ rest) =
      .ok ((Decimal.padded 2 n).toList, rest) := by
    refine digits_append (Decimal.padded_ne_nil 2 n)
      (fun _ => Decimal.isDigit_of_mem_padded) ?_ hrest
    intro w hw
    obtain rfl := Option.some.inj hw
    exact Nat.le_of_eq (Decimal.length_padded (by decide) hn)
  rw [field, dropBlank_append (Decimal.padded_ne_nil 2 n) fun _ => Decimal.isDigit_of_mem_padded,
    hdigits]
  simp only [Except.bind, bind, digitsValue_padded]
  rw [if_pos ⟨hlow, hhigh⟩]
  rfl

/-- A mark stands in front of a numeral as its one character. -/
theorem toList_mark_padded (mark : String) (c : Char) (hmark : mark.toList = [c]) (width n : Nat)
    (rest : List Char) :
    (mark ++ Decimal.padded width n).toList ++ rest =
      c :: ((Decimal.padded width n).toList ++ rest) := by
  rw [String.toList_append, hmark]
  rfl

/-- A year of four digits is read back. -/
theorem year_padded {n : Nat} (hn : n < 10000) {rest : List Char} (hrest : EndsDigits rest) :
    year ((Decimal.padded 4 n).toList ++ rest) = .ok ((n : Int), rest) := by
  have hlen : (Decimal.padded 4 n).toList.length = 4 := Decimal.length_padded (by decide) hn
  have hread : digits (some 4) ((Decimal.padded 4 n).toList ++ rest) =
      .ok ((Decimal.padded 4 n).toList, rest) := by
    refine digits_append (Decimal.padded_ne_nil 4 n)
      (fun _ => Decimal.isDigit_of_mem_padded) ?_ hrest
    intro w hw
    obtain rfl := Option.some.inj hw
    exact Nat.le_of_eq hlen
  -- The first character is a digit, so it is no sign.
  obtain ⟨c, ds, hcons⟩ := List.exists_cons_of_ne_nil (Decimal.padded_ne_nil 4 n)
  have hc : c.isDigit = true := Decimal.isDigit_of_mem_padded (hcons ▸ List.mem_cons_self)
  have hminus : c ≠ '-' := by
    rintro rfl
    exact absurd hc (by decide)
  have hplus : c ≠ '+' := by
    rintro rfl
    exact absurd hc (by decide)
  rw [year, dropBlank_append (Decimal.padded_ne_nil 4 n) fun _ => Decimal.isDigit_of_mem_padded]
  rw [hcons, List.cons_append] at hread ⊢
  split
  · rename_i heq
    exact absurd (List.cons.inj heq).1 hminus
  · rename_i heq
    exact absurd (List.cons.inj heq).1 hplus
  · rw [hread]
    simp only [Except.bind, bind]
    rw [← hcons, digitsValue_padded]
    rfl

/-- A year is read back, with its sign outside 0 to 9999. -/
theorem year_yearText {y : Int} (hlow : minYear ≤ y) (hhigh : y ≤ maxYear) {rest : List Char}
    (hrest : EndsDigits rest) : year ((yearText y).toList ++ rest) = .ok (y, rest) := by
  have hmin : minYear = -262143 := rfl
  have hmax : maxYear = 262142 := rfl
  -- Behind a sign there may be any number of digits.
  have hread : digits none ((Decimal.padded 4 y.natAbs).toList ++ rest) =
      .ok ((Decimal.padded 4 y.natAbs).toList, rest) :=
    digits_append (Decimal.padded_ne_nil 4 _) (fun _ => Decimal.isDigit_of_mem_padded)
      (fun _ hw => absurd hw (by simp)) hrest
  rw [yearText]
  split
  · rename_i h
    have hlt : y.toNat < 10000 := by omega
    have hvalue : (y.toNat : Int) = y := by omega
    rw [year_padded hlt hrest, hvalue]
  · rename_i h
    split
    · rename_i hneg
      have hvalue : -(y.natAbs : Int) = y := by omega
      have hfits : y.natAbs ≤ 0x80000000 := by omega
      rw [toList_mark_padded "-" '-' rfl, year, dropBlank_cons (by decide)]
      simp only [hread, Except.bind, bind, digitsValue_padded]
      rw [if_pos hfits, hvalue]
      rfl
    · rename_i hpos
      have hvalue : (y.natAbs : Int) = y := by omega
      have hfits : y.natAbs < 0x80000000 := by omega
      rw [toList_mark_padded "+" '+' rfl, year, dropBlank_cons (by decide)]
      simp only [hread, Except.bind, bind, digitsValue_padded]
      rw [if_pos hfits, hvalue]
      rfl

/-- A mark is found behind blanks. -/
theorem mark_dropBlank {c : Char} (h : Text.isBlank c = false) (rest : List Char) :
    mark c (dropBlank (c :: rest)) = .ok rest := by
  rw [dropBlank_cons h, mark, if_pos rfl]

/-- A fraction of `width` digits counts in steps of `10 ^ (9 - width)` nanoseconds. -/
theorem fraction_padded {width n : Nat} (hwidth : 0 < width) (hle : width ≤ 9)
    (hn : n < Nat.pow 10 width) {c : Char} (hc : c.isDigit = false) (rest : List Char) :
    fraction (("." ++ Decimal.padded width n).toList ++ c :: rest) =
      .ok (n * Nat.pow 10 (9 - width), c :: rest) := by
  have hlen := Decimal.length_padded hwidth hn
  have hdrop : (c :: rest).dropWhile Char.isDigit = c :: rest :=
    List.dropWhile_cons_of_neg (by simp [hc])
  -- Nine digits are read at most, and the others would be dropped.
  have hdigits : digits (some 9) ((Decimal.padded width n).toList ++ c :: rest) =
      .ok ((Decimal.padded width n).toList, c :: rest) := by
    refine digits_append (Decimal.padded_ne_nil width n)
      (fun _ => Decimal.isDigit_of_mem_padded) ?_ (endsDigits_cons hc rest)
    intro w hw
    obtain rfl := Option.some.inj hw
    rw [hlen]
    exact hle
  rw [toList_mark_padded "." '.' rfl, fraction]
  simp only [hdigits, Except.bind, bind, digitsValue_padded, hlen, hdrop]
  rfl

/-- Nanoseconds are read back from the fewest digits that are exact. -/
theorem fraction_fractionText {nano : Nat} (hnano : nano < 1000000000) {c : Char}
    (hc : c.isDigit = false) (hpoint : c ≠ '.') (rest : List Char) :
    fraction ((fractionText nano).toList ++ c :: rest) = .ok (nano, c :: rest) := by
  rw [fractionText]
  split
  · -- Nothing is written for no nanoseconds.
    rename_i h
    subst h
    show fraction (c :: rest) = _
    unfold fraction
    split
    · rename_i heq
      exact absurd (List.cons.inj heq).1 hpoint
    · rfl
  split
  · rename_i h
    have hlt : nano / 1000000 < 1000 := by omega
    have hvalue : nano / 1000000 * 1000000 = nano := by omega
    rw [fraction_padded (by decide) (by decide) hlt hc]
    exact congrArg (fun n => Except.ok (n, c :: rest)) hvalue
  split
  · rename_i h
    have hlt : nano / 1000 < 1000000 := by omega
    have hvalue : nano / 1000 * 1000 = nano := by omega
    rw [fraction_padded (by decide) (by decide) hlt hc]
    exact congrArg (fun n => Except.ok (n, c :: rest)) hvalue
  · rw [fraction_padded (by decide) (by decide) hnano hc]
    exact congrArg (fun n => Except.ok (n, c :: rest)) (Nat.mul_one nano)

/-- The fraction of a second is none or follows a point, so it goes on with no digit. -/
theorem endsDigits_fractionText (nano : Nat) {c : Char} (hc : c.isDigit = false)
    (rest : List Char) : EndsDigits ((fractionText nano).toList ++ c :: rest) := by
  -- A fraction begins with a point, which is no digit.
  have hpoint : ∀ width n,
      EndsDigits (("." ++ Decimal.padded width n).toList ++ c :: rest) := by
    intro width n
    rw [String.toList_append]
    exact endsDigits_cons (by decide) _
  rw [fractionText]
  split
  · exact endsDigits_cons hc rest
  split
  · exact hpoint 3 _
  split
  · exact hpoint 6 _
  · exact hpoint 9 _

/-- A date is found by its numbers. -/
theorem of?_date (d : Date) : Date.of? d.year d.month d.day = some d := by
  rw [Date.of?, dif_pos d.isDate]

/-- At universal time the clock shows the moment itself. -/
theorem ofLocal?_zero (t : Timestamp) : ofLocal? t.date t.second t.nano 0 = some t := by
  have hsecond : ((t.second : Int) - 0).toNat = t.second := by omega
  have hlt := t.second_lt
  have hday : (t.second : Int) - 0 < (secondsPerDay : Nat) := by omega
  have hnonneg : ¬ (t.second : Int) - 0 < 0 := by omega
  rw [ofLocal?]
  simp only [hsecond]
  rw [if_neg hnonneg, if_pos hday, of?, dif_pos ⟨t.second_lt, t.nano_lt, t.leap⟩]

/-- A written timestamp, part by part. -/
theorem toList_toText (t : Timestamp) :
    t.toText.toList = (yearText t.date.year).toList ++
      '-' :: ((Decimal.padded 2 t.date.month).toList ++
      '-' :: ((Decimal.padded 2 t.date.day).toList ++
      'T' :: ((Decimal.padded 2 t.hour).toList ++
      ':' :: ((Decimal.padded 2 t.minute).toList ++
      ':' :: ((Decimal.padded 2 t.clockSecond).toList ++
      ((fractionText t.clockNano).toList ++ ['Z'])))))) := by
  simp [toText, dateText, clockText, String.toList_append]

/-- The second of the minute that the clock shows is 60 in a leap second only. -/
theorem clockSecond_eq (t : Timestamp) :
    t.second = t.hour * 3600 + t.minute * 60 + t.clockSecond -
        (if t.clockSecond = 60 then 1 else 0) ∧
      t.nano = t.clockNano + (if t.clockSecond = 60 then 1 else 0) * 1000000000 ∧
      t.clockSecond ≤ 60 := by
  have hnano := t.nano_lt
  have hleap := t.leap
  have hhour : t.hour = t.second / 3600 := rfl
  have hminute : t.minute = t.second / 60 % 60 := rfl
  -- A leap second is a second with more than a thousand million nanoseconds.
  have hclock : t.clockSecond = t.second % 60 + t.nano / 1000000000 := rfl
  have hclockNano : t.clockNano = t.nano % 1000000000 := rfl
  split
  · omega
  · omega

/-- **A written timestamp is read back.** -/
theorem ofText?_toText (t : Timestamp) : ofText? t.toText = .ok t := by
  obtain ⟨⟨hyearLow, hyearHigh⟩, ⟨hmonthLow, hmonthHigh⟩, hdayLow, hdayHigh⟩ := t.date.isDate
  obtain ⟨hsecond, hnano, hclock⟩ := t.clockSecond_eq
  have hlt : t.second < 86400 := t.second_lt
  have hhour : t.hour ≤ 23 := by
    unfold hour
    omega
  have hminute : t.minute ≤ 59 := by
    unfold minute
    omega
  have hday : t.date.day ≤ 31 := by
    refine Nat.le_trans hdayHigh ?_
    unfold daysIn
    split
    · split <;> decide
    all_goals decide
  have hclockNano : t.clockNano < 1000000000 := Nat.mod_lt _ (by decide)
  have hends : ∀ {c : Char} {rest : List Char}, c.isDigit = false → EndsDigits (c :: rest) :=
    fun h => endsDigits_cons h _
  have hfraction : EndsDigits ((fractionText t.clockNano).toList ++ ['Z']) :=
    endsDigits_fractionText _ (by decide) []
  have hoffset : offset (dropBlank ['Z']) = .ok (0, []) := by
    rw [dropBlank_cons (by decide)]
    rfl
  -- The date, part by part.
  rw [ofText?, toList_toText, year_yearText hyearLow hyearHigh (hends (by decide))]
  simp only [Except.bind, bind]
  rw [mark_dropBlank (by decide)]
  simp only
  rw [field_padded hmonthLow hmonthHigh (by omega) (hends (by decide))]
  simp only
  rw [mark_dropBlank (by decide)]
  simp only
  rw [field_padded hdayLow hday (by omega) (hends (by decide))]
  -- The clock, part by part.
  simp only [separator, true_or, if_true]
  rw [field_padded (Nat.zero_le _) hhour (by omega) (hends (by decide))]
  simp only
  rw [mark_dropBlank (by decide)]
  simp only
  rw [field_padded (Nat.zero_le _) hminute (by omega) (hends (by decide))]
  simp only
  rw [mark_dropBlank (by decide)]
  simp only
  rw [field_padded (Nat.zero_le _) hclock (by omega) hfraction]
  simp only
  rw [fraction_fractionText hclockNano (by decide) (by decide)]
  simp only
  rw [hoffset]
  -- The parts make up the date and the moment again.
  have hlocal := t.ofLocal?_zero
  rw [hsecond, hnano] at hlocal
  simp only [of?_date, hlocal]
  rfl

end Muster.Time.Timestamp
