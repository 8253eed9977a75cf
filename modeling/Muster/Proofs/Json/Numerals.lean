import Muster.Proofs.Json.Nested

/-!
# Numerals

A numeral has a sign or none, digits without a leading zero, and maybe a fraction and an exponent.
Its end is found whatever goes on behind it (`Numeral.skipNumber_magnitude`), and a reader that
takes it for an integer has read all of it (`Numeral.eq_of_readNumber`): with a fraction or an
exponent it would have been a floating-point number.
-/

namespace Muster.Json

variable {rest : Bytes}

/-- One or more digits. -/
structure Digits where
  /-- The octets. -/
  octets : Bytes
  /-- There is at least one. -/
  ne_nil : octets ≠ []
  /-- They are digits. -/
  areDigits : ∀ b ∈ octets, isDigit b = true

/-- An exponent. -/
structure Exponent where
  /-- The letter in front of it. -/
  mark : Char
  /-- It is one of the two letters for it. -/
  isMark : mark ∈ ['e', 'E']
  /-- Its sign. -/
  sign : List Char
  /-- There is at most one. -/
  isSign : sign ∈ [[], ['+'], ['-']]
  /-- Its digits. -/
  digits : Digits

/-- An exponent as it is written. -/
def Exponent.toBytes (e : Exponent) : Bytes :=
  octet e.mark :: (e.sign.map octet ++ e.digits.octets)

/-- A numeral. -/
structure Numeral where
  /-- Whether it has a minus sign. -/
  isNegative : Bool
  /-- The digits of its integer part. -/
  whole : Digits
  /-- They do not begin with a zero unless it is the only one. -/
  noLeadingZero : whole.octets.head? = some (octet '0') → whole.octets = [octet '0']
  /-- The digits of its fraction. -/
  fraction : Option Digits
  /-- Its exponent. -/
  exponent : Option Exponent

namespace Numeral

/-- The exponent as it is written. -/
def exponentBytes (n : Numeral) : Bytes :=
  n.exponent.elim [] Exponent.toBytes

/-- The fraction and the exponent as they are written. -/
def fractionBytes (n : Numeral) : Bytes :=
  n.fraction.elim [] (octet '.' :: ·.octets) ++ n.exponentBytes

/-- The numeral without its sign. -/
def magnitude (n : Numeral) : Bytes :=
  n.whole.octets ++ n.fractionBytes

/-- A numeral as it is written. -/
def toBytes (n : Numeral) : Bytes :=
  if n.isNegative then octet '-' :: n.magnitude else n.magnitude

end Numeral

/-! ## The end of a numeral is found -/

/-- The digits in front of a text end where the next octet is none. -/
theorem Digits.split (ds : Digits) (h : digits rest = []) :
    digits (ds.octets ++ rest) = ds.octets ∧ afterDigits (ds.octets ++ rest) = rest := by
  have hrest : afterDigits rest = rest := by
    have happend := List.takeWhile_append_dropWhile (p := isDigit) (l := rest)
    rw [show rest.takeWhile isDigit = [] from h] at happend
    exact happend
  refine ⟨?_, ?_⟩
  · rw [digits, List.takeWhile_append_of_pos ds.areDigits]
    show ds.octets ++ digits rest = _
    rw [h, List.append_nil]
  · rw [afterDigits, List.dropWhile_append_of_pos ds.areDigits]
    exact hrest

/-- There is a digit. -/
theorem Digits.isEmpty (ds : Digits) : ds.octets.isEmpty = false :=
  List.isEmpty_eq_false_iff.2 ds.ne_nil

/-- Digits are skipped to their end. -/
theorem skipDigits_digits (ds : Digits) (h : digits rest = []) :
    skipDigits (ds.octets ++ rest) = .ok rest := by
  obtain ⟨hdigits, hafter⟩ := ds.split h
  rw [skipDigits, hdigits, hafter, ds.isEmpty]
  rfl

/-- A digit is no other character. -/
theorem ofUInt8_ne_of_isDigit {d : UInt8} (h : isDigit d = true) {c : Char}
    (hc : isDigit (octet c) = false) : Char.ofUInt8 d ≠ c := by
  intro heq
  rw [eq_octet_of_ofUInt8 heq, hc] at h
  exact absurd h (by decide)

/-- Exponents are skipped to their end. -/
theorem skipExponent_exponent (e : Exponent) (h : digits rest = []) :
    skipExponent (e.sign.map octet ++ (e.digits.octets ++ rest)) = .ok rest := by
  have hsign := e.isSign
  simp only [List.mem_cons, List.not_mem_nil, or_false] at hsign
  -- There is no sign, or one of two.
  rcases hsign with hsign | hsign | hsign
  · obtain ⟨d, ds, hds⟩ := List.exists_cons_of_ne_nil e.digits.ne_nil
    have hdigit : isDigit d = true := e.digits.areDigits d (hds ▸ List.mem_cons_self)
    have hskip := skipDigits_digits e.digits h
    rw [hsign, List.map_nil, List.nil_append]
    rw [hds, List.cons_append] at hskip ⊢
    unfold skipExponent
    split
    -- A digit is no sign.
    · exact absurd (Option.some.inj ‹_›) (ofUInt8_ne_of_isDigit hdigit (by decide))
    · exact absurd (Option.some.inj ‹_›) (ofUInt8_ne_of_isDigit hdigit (by decide))
    · exact hskip
  · rw [hsign]
    exact skipDigits_digits e.digits h
  · rw [hsign]
    exact skipDigits_digits e.digits h

namespace Numeral

variable (n : Numeral)

/-- The rest of a numeral is no digit. -/
theorem digits_exponentBytes (h : digits rest = []) : digits (n.exponentBytes ++ rest) = [] := by
  rw [exponentBytes]
  cases n.exponent with
  | none => exact h
  | some e =>
    have hmark := e.isMark
    simp only [List.mem_cons, List.not_mem_nil, or_false] at hmark
    rcases hmark with hmark | hmark
    · show digits (octet e.mark :: _) = []
      rw [hmark]
      rfl
    · show digits (octet e.mark :: _) = []
      rw [hmark]
      rfl

/-- What follows the digits of the whole part is not a digit. -/
theorem digits_fractionBytes (h : digits rest = []) : digits (n.fractionBytes ++ rest) = [] := by
  rw [fractionBytes]
  cases n.fraction with
  | none => exact n.digits_exponentBytes h
  | some ds => rfl

/-- Behind the whole part and a fraction, an exponent is skipped. -/
theorem skipFraction_exponentBytes (hrest : Goes rest) :
    skipFraction (n.exponentBytes ++ rest) = .ok rest := by
  obtain ⟨hdigits, c, hpeek, hc⟩ := hrest.peek?
  rw [exponentBytes]
  cases n.exponent with
  | none =>
    -- What comes behind the numeral is no point and no mark of an exponent.
    simp only [List.mem_cons, List.not_mem_nil, or_false, not_or] at hc
    show skipFraction rest = _
    unfold skipFraction
    rw [hpeek]
    split
    · exact absurd (Option.some.inj ‹_›) hc.1
    · exact absurd (Option.some.inj ‹_›) hc.2.1
    · exact absurd (Option.some.inj ‹_›) hc.2.2
    · rfl
  | some e =>
    have hskip := skipExponent_exponent e hdigits
    have htext : (some e).elim [] Exponent.toBytes ++ rest =
        octet e.mark :: (e.sign.map octet ++ (e.digits.octets ++ rest)) := by
      simp [Exponent.toBytes]
    have hmark := e.isMark
    simp only [List.mem_cons, List.not_mem_nil, or_false] at hmark
    -- Both marks are the same to the reader.
    rw [htext]
    rcases hmark with hmark | hmark
    · rw [hmark]
      exact hskip
    · rw [hmark]
      exact hskip

/-- An exponent does not begin with a point. -/
theorem peek?_exponentBytes (hrest : Goes rest) : peek? (n.exponentBytes ++ rest) ≠ some '.' := by
  obtain ⟨hdigits, c, hpeek, hc⟩ := hrest.peek?
  rw [exponentBytes]
  cases n.exponent with
  | none =>
    intro heq
    obtain rfl := Option.some.inj (hpeek.symm.trans heq)
    exact absurd hc (by decide)
  | some e =>
    -- A mark is no point.
    have hmark := e.isMark
    simp only [List.mem_cons, List.not_mem_nil, or_false] at hmark
    rcases hmark with hmark | hmark
    · show some (Char.ofUInt8 (octet e.mark)) ≠ _
      rw [hmark]
      decide
    · show some (Char.ofUInt8 (octet e.mark)) ≠ _
      rw [hmark]
      decide

/-- Behind a fraction an exponent is looked for as it is without one. -/
theorem skipFraction_point (ds : Digits) (h : digits rest = []) (hpoint : peek? rest ≠ some '.') :
    skipFraction (octet '.' :: (ds.octets ++ rest)) = skipFraction rest := by
  have hpeek : peek? (octet '.' :: (ds.octets ++ rest)) = some '.' := rfl
  unfold skipFraction
  rw [hpeek]
  simp only [List.drop_succ_cons, List.drop_zero, skipDigits_digits ds h, Except.bind, bind]
  split
  · rename_i he
    rw [he]
    rfl
  · rename_i he
    rw [he]
    rfl
  -- No second point can follow.
  · rename_i he hE
    split
    · exact absurd ‹_› hpoint
    · exact absurd ‹_› he
    · exact absurd ‹_› hE
    · rfl

/-- A fraction is skipped together with the exponent behind it. -/
theorem skipFraction_fractionBytes (hrest : Goes rest) :
    skipFraction (n.fractionBytes ++ rest) = .ok rest := by
  have hskip := n.skipFraction_exponentBytes hrest
  rw [fractionBytes]
  cases n.fraction with
  | none => exact hskip
  | some ds =>
    have htext : (some ds).elim [] (octet '.' :: ·.octets) ++ n.exponentBytes ++ rest =
        octet '.' :: (ds.octets ++ (n.exponentBytes ++ rest)) := by
      simp
    rw [htext, skipFraction_point ds (n.digits_exponentBytes hrest.peek?.1)
      (n.peek?_exponentBytes hrest), hskip]

/-- The end of a numeral is found. -/
theorem skipNumber_magnitude (hrest : Goes rest) :
    skipNumber (n.magnitude ++ rest) = .ok rest := by
  have hskip := n.skipFraction_fractionBytes hrest
  obtain ⟨hdigits, hafter⟩ := n.whole.split (n.digits_fractionBytes hrest.peek?.1)
  obtain ⟨d, ds, hds⟩ := List.exists_cons_of_ne_nil n.whole.ne_nil
  rw [magnitude, List.append_assoc]
  unfold skipNumber
  rw [hdigits]
  rw [hds] at hafter ⊢
  dsimp only
  -- A zero in front is the whole part.
  by_cases hzero : d = octet '0'
  · have hsingle := n.noLeadingZero (by rw [hds, hzero]; rfl)
    obtain rfl : ds = [] := (List.cons.inj (hds.symm.trans hsingle)).2
    rw [if_pos hzero]
    exact hskip
  · rw [if_neg hzero, hafter]
    exact hskip

end Numeral

/-! ## A numeral that is read as an integer is read to its end -/

/-- Where a fraction or an exponent is computed, the number is no integer. -/
theorem exists_float {negative : Bool} {m : Nat} {power : Int} {number : Number}
    (h : float negative m power = .ok number) : ∃ f, number = .float f := by
  simp only [float, bind, Except.bind] at h
  split at h
  · exact absurd h (by simp)
  · exact ⟨_, (Except.ok.inj h).symm⟩

/-- A number with an exponent is no integer. -/
theorem exists_float_of_readExponent {negative : Bool} {m : Nat} {power : Int} {text : Bytes}
    {number : Number} (h : readExponent negative m power text = .ok (number, rest)) :
    ∃ f, number = .float f := by
  unfold readExponent at h
  split at h
  simp only [bind, Except.bind] at h
  split at h
  -- Of all the ways on, only a float succeeds.
  · exact absurd h (by simp [throw, throwThe, MonadExceptOf.throw])
  · split at h
    · split at h
      · exact absurd h (by simp [throw, throwThe, MonadExceptOf.throw])
      · exact ⟨_, (congrArg Prod.fst (Except.ok.inj h)).symm⟩
    · split at h
      · exact absurd h (by simp)
      · obtain ⟨f, hf⟩ := exists_float ‹_›
        exact ⟨f, (congrArg Prod.fst (Except.ok.inj h)).symm.trans hf⟩

/-- A number with a fraction is no integer. -/
theorem exists_float_of_readFraction {negative : Bool} {m : Nat} {power : Int} {text : Bytes}
    {number : Number} (h : readFraction negative m power text = .ok (number, rest)) :
    ∃ f, number = .float f := by
  simp only [readFraction, bind, Except.bind] at h
  split at h
  · exact absurd h (by simp [throw, throwThe, MonadExceptOf.throw])
  · split at h
    · exact exists_float_of_readExponent h
    · exact exists_float_of_readExponent h
    · split at h
      · exact absurd h (by simp)
      · obtain ⟨f, hf⟩ := exists_float ‹_›
        exact ⟨f, (congrArg Prod.fst (Except.ok.inj h)).symm.trans hf⟩

namespace Numeral

variable (n : Numeral)

/-- The digits of an integer are those of the whole part. -/
theorem integerDigits_magnitude (hrest : Goes rest) :
    integerDigits (n.magnitude ++ rest) = .ok n.whole.octets := by
  obtain ⟨hdigits, -⟩ := n.whole.split (n.digits_fractionBytes hrest.peek?.1)
  obtain ⟨d, ds, hds⟩ := List.exists_cons_of_ne_nil n.whole.ne_nil
  rw [magnitude, List.append_assoc]
  unfold integerDigits
  rw [hdigits, hds]
  dsimp only
  rw [if_neg]
  rintro ⟨hzero, hne⟩
  have hsingle := n.noLeadingZero (by rw [hds, hzero]; rfl)
  exact hne (List.cons.inj (hds.symm.trans hsingle)).2

/-- Behind its digits a numeral ends, or a point or the letter of an exponent follows. -/
theorem fractionBytes_cases :
    n.fractionBytes = [] ∨ ∃ c more, n.fractionBytes = octet c :: more ∧ c ∈ ['.', 'e', 'E'] := by
  rw [fractionBytes, exponentBytes]
  cases n.fraction with
  | some ds => exact .inr ⟨'.', _, rfl, by decide⟩
  | none =>
    cases n.exponent with
    | none => exact .inl rfl
    | some e => exact .inr ⟨e.mark, _, rfl, List.mem_cons_of_mem _ e.isMark⟩

/-- **A numeral that is read as an integer is read to its end.** -/
theorem eq_of_readNumber {negative : Bool} {i : Int} {behind : Bytes} (hrest : Goes rest)
    (h : readNumber negative (n.magnitude ++ rest) = .ok (.integer i, behind)) : behind = rest := by
  obtain ⟨-, c, hpeek, hc⟩ := hrest.peek?
  simp only [List.mem_cons, List.not_mem_nil, or_false, not_or] at hc
  have hdrop : (n.magnitude ++ rest).drop n.whole.octets.length = n.fractionBytes ++ rest := by
    rw [magnitude, List.append_assoc, List.drop_left]
  simp only [readNumber, n.integerDigits_magnitude hrest, bind, Except.bind, hdrop] at h
  rcases n.fractionBytes_cases with hnone | ⟨d, more, hsome, hd⟩
  · -- What is behind the digits is behind the numeral.
    rw [hnone, List.nil_append, hpeek] at h
    split at h
    · exact absurd (Option.some.inj ‹_›) hc.1
    · exact absurd (Option.some.inj ‹_›) hc.2.1
    · exact absurd (Option.some.inj ‹_›) hc.2.2
    · split at h
      · exact (congrArg Prod.snd (Except.ok.inj h)).symm
      · split at h
        · exact absurd h (by simp)
        · exact (congrArg Prod.snd (Except.ok.inj h)).symm
  · -- A fraction or an exponent makes it a floating-point number.
    rw [hsome] at h
    simp only [List.mem_cons, List.not_mem_nil, or_false] at hd
    rcases hd with rfl | rfl | rfl
    · obtain ⟨f, hf⟩ := exists_float_of_readFraction h
      exact absurd hf (by simp)
    · obtain ⟨f, hf⟩ := exists_float_of_readExponent h
      exact absurd hf (by simp)
    · obtain ⟨f, hf⟩ := exists_float_of_readExponent h
      exact absurd hf (by simp)

end Numeral

end Muster.Json
