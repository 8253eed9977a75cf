import Muster.Proofs.Json.Written

/-!
# Written numbers are read back

The octets of a numeral are those of its digits. A number that fits 64 bits is collected digit by
digit without dropping any (`significand_digits`), so it is read back as an integer.
-/

namespace Muster.Json

/-! ## The octets of a numeral -/

/-- An ASCII character takes one octet. -/
theorem utf8EncodeChar_ascii {c : Char} (h : c.toNat < 128) :
    String.utf8EncodeChar c = [octet c] := by
  have hval : c.val.toNat ≤ 0x7f := Nat.le_of_lt_succ h
  simp only [String.utf8EncodeChar]
  rw [if_pos hval]
  rfl

/-- The octets of a text are those of its parts. -/
theorem ofText_append (s t : String) :
    Bytes.ofText (s ++ t) = Bytes.ofText s ++ Bytes.ofText t := by
  simp [Bytes.ofText, String.toByteArray_append]

/-- The octets of an ASCII text are those of its characters. -/
theorem ofText_ascii {s : String} (h : ∀ c ∈ s.toList, c.toNat < 128) :
    Bytes.ofText s = s.toList.map octet := by
  -- Each character is its own octet.
  have hlist : ∀ cs : List Char, (∀ c ∈ cs, c.toNat < 128) →
      cs.utf8Encode.data.toList = cs.map octet := by
    intro cs hcs
    induction cs with
    | nil => simp
    | cons c cs ih =>
      have hc := utf8EncodeChar_ascii (hcs c List.mem_cons_self)
      rw [List.utf8Encode_cons, List.utf8Encode_singleton, hc, List.map_cons,
        ← ih fun d hd => hcs d (List.mem_cons_of_mem _ hd)]
      simp
  rw [Bytes.ofText, ← String.utf8Encode_toList]
  exact hlist s.toList h

/-- The codes of the digits. -/
theorem toNat_le_of_isDigit {c : Char} (h : c.isDigit = true) : 48 ≤ c.toNat ∧ c.toNat ≤ 57 :=
  Char.isDigit_iff_toNat.1 h

/-- A character below 256 has its code as octet. -/
theorem toNat_octet {c : Char} (h : c.toNat < 256) : (octet c).toNat = c.toNat := by
  show c.toNat % 256 = c.toNat
  exact Nat.mod_eq_of_lt h

/-- The octet of a digit is a digit of the same value. -/
theorem isDigit_octet {c : Char} (h : c.isDigit = true) : isDigit (octet c) = true := by
  obtain ⟨hlow, hhigh⟩ := toNat_le_of_isDigit h
  have hc : (octet c).toNat = c.toNat := toNat_octet (by omega)
  have hzero : (octet '0').toNat = 48 := rfl
  have hnine : (octet '9').toNat = 57 := rfl
  rw [isDigit, Bool.and_eq_true, decide_eq_true_eq, decide_eq_true_eq, UInt8.le_iff_toNat_le,
    UInt8.le_iff_toNat_le, hc, hzero, hnine]
  exact ⟨hlow, hhigh⟩

/-- The value of the octet of a digit. -/
theorem digitValue_octet {c : Char} (h : c.isDigit = true) :
    digitValue (octet c) = c.toNat - '0'.toNat := by
  obtain ⟨hlow, hhigh⟩ := toNat_le_of_isDigit h
  have hc : (octet c).toNat = c.toNat := toNat_octet (by omega)
  have hzero : (octet '0').toNat = 48 := rfl
  have hle : octet '0' ≤ octet c := by
    rw [UInt8.le_iff_toNat_le, hc, hzero]
    exact hlow
  rw [digitValue, UInt8.toNat_sub_of_le _ _ hle, hc]
  rfl

/-- A natural number is written in octets of digits. -/
theorem ofText_ofNat (n : Nat) :
    Bytes.ofText (Decimal.ofNat n) = (Decimal.ofNat n).toList.map octet := by
  refine ofText_ascii fun c hc => ?_
  have hdigit := toNat_le_of_isDigit (Decimal.isDigit_of_mem_ofNat hc)
  omega

/-! ## Collecting digits -/

/-- Digits of a number that fits are all collected. -/
theorem significand_digits {n : Nat} {ds : List Char} (hds : ∀ c ∈ ds, c.isDigit = true)
    (hfits : Nat.ofDigitChars 10 ds n ≤ maxSignificand) :
    significand n (ds.map octet) = (Nat.ofDigitChars 10 ds n, ds.length) := by
  induction ds generalizing n with
  | nil => rfl
  | cons c ds ih =>
    have hvalue := digitValue_octet (hds c List.mem_cons_self)
    rw [Nat.ofDigitChars_cons] at hfits
    have hnext : n * 10 + digitValue (octet c) = 10 * n + (c.toNat - '0'.toNat) := by
      rw [hvalue, Nat.mul_comm]
    -- The significand has room for the digit, since it has room for the whole number.
    have hle : n * 10 + digitValue (octet c) ≤ maxSignificand := by
      rw [hnext]
      exact Nat.le_trans (Decimal.le_ofDigitChars _ ds) hfits
    rw [List.map_cons, significand, if_pos hle, hnext,
      ih (fun d hd => hds d (List.mem_cons_of_mem _ hd)) hfits, Nat.ofDigitChars_cons]
    rfl

/-- What goes on behind a value is no part of a number. -/
theorem Goes.peek? {rest : Bytes} (h : Goes rest) :
    rest.takeWhile isDigit = [] ∧ ∃ c, peek? rest = some c ∧ c ∉ ['.', 'e', 'E'] := by
  obtain ⟨b, more, rfl, hb⟩ := h
  have hall : ∀ b ∈ separators, isDigit b = false ∧ Char.ofUInt8 b ∉ ['.', 'e', 'E'] := by
    decide +kernel
  obtain ⟨hdigit, hc⟩ := hall b hb
  exact ⟨List.takeWhile_cons_of_neg (by simp [hdigit]), Char.ofUInt8 b, rfl, hc⟩

/-- The digits in front of a text are those of the number that is written there. -/
theorem digits_ofNat (n : Nat) {rest : Bytes} (hrest : Goes rest) :
    digits ((Decimal.ofNat n).toList.map octet ++ rest) = (Decimal.ofNat n).toList.map octet := by
  rw [digits, List.takeWhile_append_of_pos, hrest.peek?.1, List.append_nil]
  intro b hb
  obtain ⟨c, hc, rfl⟩ := List.mem_map.1 hb
  exact isDigit_octet (Decimal.isDigit_of_mem_ofNat hc)

/-- A numeral has no leading zero. -/
theorem eq_nil_of_zero_cons {n : Nat} {c : Char} {ds : List Char}
    (h : (Decimal.ofNat n).toList = c :: ds) (hzero : octet c = octet '0') : ds = [] := by
  have hdigit : c.isDigit = true := Decimal.isDigit_of_mem_ofNat (h ▸ List.mem_cons_self)
  have hc : c = '0' := by
    have hlt := toNat_le_of_isDigit hdigit
    have hnat := toNat_octet (c := c) (by omega)
    rw [hzero] at hnat
    exact Char.toNat_inj.1 hnat.symm
  subst hc
  by_cases hn : n < 10
  · rw [Decimal.toList_ofNat, Nat.toDigits_of_lt_base hn] at h
    exact (List.cons.inj h).2.symm
  · exact absurd h (Decimal.ofNat_ne_zero_cons (by omega) ds)

/-- They are the whole of an integer: a number other than zero has no zero in front. -/
theorem integerDigits_ofNat (n : Nat) {rest : Bytes} (hrest : Goes rest) :
    integerDigits ((Decimal.ofNat n).toList.map octet ++ rest) =
      .ok ((Decimal.ofNat n).toList.map octet) := by
  rw [integerDigits, digits_ofNat n hrest]
  obtain ⟨c, ds, hcons⟩ := List.exists_cons_of_ne_nil (Decimal.ofNat_ne_nil n)
  rw [hcons, List.map_cons]
  dsimp only
  rw [if_neg]
  rintro ⟨hzero, hmore⟩
  rw [eq_nil_of_zero_cons hcons hzero] at hmore
  exact hmore rfl

/-- The numeral of a number within 64 bits is read as an integer. -/
theorem readNumber_ofNat (negative : Bool) {n : Nat} (hn : n ≤ maxSignificand) {rest : Bytes}
    (hrest : Goes rest) :
    readNumber negative ((Decimal.ofNat n).toList.map octet ++ rest) =
      .ok (integer negative n, rest) := by
  have hdigits : ∀ c ∈ (Decimal.ofNat n).toList, c.isDigit = true :=
    fun _ => Decimal.isDigit_of_mem_ofNat
  have hvalue := Decimal.value_ofNat n
  have hcollected := significand_digits hdigits (n := 0) (by rw [hvalue]; exact hn)
  rw [hvalue] at hcollected
  rw [readNumber, integerDigits_ofNat n hrest]
  simp only [Except.bind, bind, hcollected, List.length_map, Nat.sub_self]
  rw [List.drop_left' (List.length_map ..)]
  obtain ⟨c, hpeek, hc⟩ := hrest.peek?.2
  rw [hpeek]
  -- What comes behind the number is neither a fraction nor an exponent.
  simp only [List.mem_cons, List.not_mem_nil, or_false, not_or] at hc
  split
  · exact absurd (Option.some.inj ‹_›) hc.1
  · exact absurd (Option.some.inj ‹_›) hc.2.1
  · exact absurd (Option.some.inj ‹_›) hc.2.2
  · rfl

/-! ## Numbers of a range -/

/-- A digit is neither a blank nor a sign. -/
theorem isBlank_of_isDigit {b : UInt8} (h : isDigit b = true) :
    isBlank b = false ∧ b ≠ octet '-' := by
  refine ⟨?_, ?_⟩
  · rw [Bool.eq_false_iff]
    intro hblank
    simp only [isBlank, Bool.or_eq_true, beq_iff_eq] at hblank
    rcases hblank with ((rfl | rfl) | rfl) | rfl
    · exact absurd h (by decide)
    · exact absurd h (by decide)
    · exact absurd h (by decide)
    · exact absurd h (by decide)
  · rintro rfl
    exact absurd h (by decide)

/-- A number of a range within 64 bits is read back. -/
theorem readInteger_number {low high n : Int} (expected : String) (hlow : low ≤ n)
    (hhigh : n ≤ high) (hmin : -0x8000000000000000 ≤ n) (hmax : n ≤ 0xffffffffffffffff)
    {rest : Bytes} (hrest : Goes rest) :
    readInteger expected low high (number n ++ rest) = .ok (n, rest) := by
  have hmaxSignificand : maxSignificand = 0xffffffffffffffff := rfl
  cases n with
  | ofNat n =>
    -- The number is one of 64 bits, so it is not read as a float.
    have hfits : n ≤ maxSignificand := by
      rw [Int.ofNat_eq_natCast] at hmax
      omega
    have hread := readNumber_ofNat false hfits hrest
    have hne : (Decimal.ofNat n).toList ≠ [] := by
      rw [Decimal.toList_ofNat]
      exact Nat.toDigits_ne_nil
    obtain ⟨c, ds, hcons⟩ := List.exists_cons_of_ne_nil hne
    have hdigit : isDigit (octet c) = true :=
      isDigit_octet (Decimal.isDigit_of_mem_ofNat (hcons ▸ List.mem_cons_self))
    obtain ⟨hblank, hsign⟩ := isBlank_of_isDigit hdigit
    have hinteger : integer false n = .integer (Int.ofNat n) := rfl
    rw [number, Decimal.ofInt, ofText_ofNat, readInteger]
    rw [hcons, List.map_cons, List.cons_append] at hread ⊢
    rw [dropBlank_cons hblank]
    simp only [if_neg hsign, hdigit, if_true, hread, hinteger, Except.bind, bind]
    rw [if_pos ⟨hlow, hhigh⟩]
    rfl
  | negSucc n =>
    -- So is the magnitude of a negative one.
    have hfits : n + 1 ≤ 0x8000000000000000 := by omega
    have hread := readNumber_ofNat true (n := n + 1) (by omega) hrest
    have hbytes : number (Int.negSucc n) ++ rest =
        octet '-' :: ((Decimal.ofNat (n + 1)).toList.map octet ++ rest) := by
      rw [number, Decimal.ofInt, ofText_append, ofText_ofNat]
      rfl
    have hinteger : integer true (n + 1) = .integer (Int.negSucc n) := by
      rw [integer, if_neg (by decide), if_pos ⟨by omega, hfits⟩]
      rfl
    rw [hbytes, readInteger, dropBlank_cons (by decide)]
    simp only [if_true, hread, hinteger, Except.bind, bind]
    rw [if_pos ⟨hlow, hhigh⟩]
    rfl

/-- Numbers of 16 bits are read back. -/
theorem readsBack_uint16 (p : UInt16) : ReadsBack readUInt16 (number p.toNat) p := by
  intro rest hrest
  have hlt : p.toNat < 65536 := p.toNat_lt
  rw [readUInt16, readInteger_number "u16" (by omega) (by omega) (by omega) (by omega) hrest]
  simp only [Except.bind, bind, Int.toNat_natCast, UInt16.ofNat_toNat]
  rfl

/-- Numbers of 32 bits are read back. -/
theorem readsBack_int32 (n : Int32) : ReadsBack readInt32 (number n.toInt) n := by
  intro rest hrest
  have hlow := n.le_toInt
  have hhigh := n.toInt_lt
  rw [readInt32, readInteger_number "i32" (by omega) (by omega) (by omega) (by omega) hrest]
  simp only [Except.bind, bind, Int32.ofInt_toInt]
  rfl

end Muster.Json
