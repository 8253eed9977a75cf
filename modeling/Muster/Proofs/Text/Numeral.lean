import Muster.Text.Decimal
import Muster.Text.Hex

/-!
# Numerals

A numeral consists of digits only, and its digits have the value of the number; leading zeros
change neither. Whoever reads numerals, of whatever width, needs no more than this.
-/

namespace Muster

/-- Zeros in front of digits do not change their value. -/
theorem ofDigitChars_leftpad (width : Nat) (digits : List Char) :
    Nat.ofDigitChars 10 (digits.leftpad width '0') 0 = Nat.ofDigitChars 10 digits 0 := by
  rw [List.leftpad, Nat.ofDigitChars_append, Nat.ofDigitChars_replicate_zero, Nat.mul_zero]

/-- What is to be decided about the characters of a list is decided by going through the list, not
through all characters. -/
theorem forall_mem_of_all {p : Char → Prop} [DecidablePred p] {l : List Char}
    (h : l.all (fun c => p c) = true) : ∀ c ∈ l, p c := fun c hc =>
  of_decide_eq_true (List.all_eq_true.1 h c hc)

namespace Decimal

/-- A digit has the distance from zero as its value. -/
theorem digit?_of_isDigit {c : Char} (h : c.isDigit = true) :
    digit? c = some (c.toNat - '0'.toNat) := by
  rw [digit?, if_pos h]

/-- A natural number is written in digits of base ten. -/
theorem toList_ofNat (n : Nat) : (ofNat n).toList = Nat.toDigits 10 n := by
  rw [ofNat, String.toList_ofList]

/-- A padded number has zeros in front. -/
theorem toList_padded (width n : Nat) :
    (padded width n).toList = (Nat.toDigits 10 n).leftpad width '0' := by
  rw [padded, String.toList_ofList]

/-- A natural number is written in digits. -/
theorem isDigit_of_mem_ofNat {n : Nat} {c : Char} (h : c ∈ (ofNat n).toList) :
    c.isDigit = true := by
  rw [toList_ofNat] at h
  exact Nat.isDigit_of_mem_toDigits (by decide) (by decide) h

/-- So is a padded number. -/
theorem isDigit_of_mem_padded {width n : Nat} {c : Char} (h : c ∈ (padded width n).toList) :
    c.isDigit = true := by
  rw [toList_padded, List.leftpad, List.mem_append] at h
  rcases h with h | h
  · rw [List.eq_of_mem_replicate h]
    rfl
  · exact Nat.isDigit_of_mem_toDigits (by decide) (by decide) h

/-- The digits of a numeral have the value of its number. -/
theorem value_ofNat (n : Nat) : Nat.ofDigitChars 10 (ofNat n).toList 0 = n := by
  rw [toList_ofNat, Nat.ofDigitChars_ten_toDigits]

/-- A padded number has its own value. -/
theorem value_padded (width n : Nat) : Nat.ofDigitChars 10 (padded width n).toList 0 = n := by
  rw [toList_padded, ofDigitChars_leftpad, Nat.ofDigitChars_ten_toDigits]

/-- A padded number is not empty. -/
theorem padded_ne_nil (width n : Nat) : (padded width n).toList ≠ [] := by
  rw [toList_padded, List.leftpad]
  exact List.append_ne_nil_of_right_ne_nil _ Nat.toDigits_ne_nil

/-- A number that fits the width fills it exactly. -/
theorem length_padded {width n : Nat} (hwidth : 0 < width) (h : n < Nat.pow 10 width) :
    (padded width n).toList.length = width := by
  have hfits : (Nat.toDigits 10 n).length ≤ width :=
    (Nat.length_toDigits_le_iff (by decide) hwidth).2 h
  rw [toList_padded, List.length_leftpad]
  exact Nat.max_eq_left hfits

/-- A numeral begins with a zero only if it is that of zero. -/
theorem ofNat_ne_zero_cons {n : Nat} (hn : 10 ≤ n) (rest : List Char) :
    (ofNat n).toList ≠ '0' :: rest := by
  rw [toList_ofNat]
  induction n using Nat.strongRecOn generalizing rest with
  | ind n ih =>
    rw [Nat.toDigits_of_base_le (by decide) hn]
    -- The first digit is that of the number without its last digit, which is not zero.
    by_cases hsmall : n / 10 < 10
    · rw [Nat.toDigits_of_lt_base hsmall]
      intro h
      have hzero : (n / 10).digitChar = '0' := (List.cons.inj h).1
      rw [Nat.digitChar_eq_zero] at hzero
      omega
    · intro h
      obtain ⟨d, ds, hds⟩ :=
        List.exists_cons_of_ne_nil (Nat.toDigits_ne_nil (n := n / 10) (b := 10))
      rw [hds] at h
      obtain ⟨hd, -⟩ := List.cons.inj h
      refine ih (n / 10) (by omega) (by omega) ds ?_
      rw [hds, hd]

/-! ## Reading numerals -/

/-- A number with further digits behind it is no smaller. -/
theorem le_ofDigitChars (n : Nat) (ds : List Char) : n ≤ Nat.ofDigitChars 10 ds n := by
  induction ds generalizing n with
  | nil => exact Nat.le_refl n
  | cons c ds ih =>
    rw [Nat.ofDigitChars_cons]
    refine Nat.le_trans ?_ (ih _)
    omega

/-- Digits whose value is within the limit are read as that value. -/
theorem magnitude_digits {limit : Nat} {beyond : Fault} {n : Nat} {ds : List Char}
    (hds : ∀ c ∈ ds, c.isDigit = true) (hfits : Nat.ofDigitChars 10 ds n ≤ limit) :
    magnitude limit beyond n ds = .ok (Nat.ofDigitChars 10 ds n) := by
  induction ds generalizing n with
  | nil => rfl
  | cons c ds ih =>
    have hc := digit?_of_isDigit (hds c List.mem_cons_self)
    rw [Nat.ofDigitChars_cons] at hfits ⊢
    -- Every prefix of the digits is within the limit because the whole number is.
    have hle : n * 10 + (c.toNat - '0'.toNat) ≤ limit := by
      rw [Nat.mul_comm]
      exact Nat.le_trans (le_ofDigitChars _ ds) hfits
    rw [magnitude, hc]
    dsimp only
    rw [if_pos hle, Nat.mul_comm]
    exact ih (fun d hd => hds d (List.mem_cons_of_mem _ hd)) hfits

/-- A numeral within the limit is read as its number. -/
theorem magnitude_ofNat {limit n : Nat} (beyond : Fault) (hn : n ≤ limit) :
    magnitude limit beyond 0 (ofNat n).toList = .ok n := by
  have hvalue := value_ofNat n
  have hread : magnitude limit beyond 0 (ofNat n).toList =
      .ok (Nat.ofDigitChars 10 (ofNat n).toList 0) :=
    magnitude_digits (fun _ => isDigit_of_mem_ofNat) (hvalue.symm ▸ hn)
  rw [hread, hvalue]

/-- A written number is not empty. -/
theorem ofNat_ne_nil (n : Nat) : (ofNat n).toList ≠ [] := by
  rw [toList_ofNat]
  exact Nat.toDigits_ne_nil

/-- The digits in front of a text that goes on with none after a numeral are the numeral. -/
theorem takeWhile_ofNat (n : Nat) {rest : List Char} (hrest : rest.takeWhile Char.isDigit = []) :
    ((ofNat n).toList ++ rest).takeWhile Char.isDigit = (ofNat n).toList := by
  rw [List.takeWhile_append_of_pos fun _ => isDigit_of_mem_ofNat, hrest, List.append_nil]

/-- A text that does not begin with a digit loses nothing when digits are dropped. -/
theorem dropWhile_of_takeWhile {p : Char → Bool} {text : List Char}
    (h : text.takeWhile p = []) : text.dropWhile p = text := by
  have happend := List.takeWhile_append_dropWhile (p := p) (l := text)
  rwa [h, List.nil_append] at happend

/-- The digits of a number are dropped up to what follows them. -/
theorem dropWhile_ofNat (n : Nat) {rest : List Char} (hrest : rest.takeWhile Char.isDigit = []) :
    ((ofNat n).toList ++ rest).dropWhile Char.isDigit = rest := by
  rw [List.dropWhile_append_of_pos fun _ => isDigit_of_mem_ofNat, dropWhile_of_takeWhile hrest]

/-- A numeral within the limit is read in front of a text that does not go on with a digit. -/
theorem natUpTo?_ofNat {limit n : Nat} (hn : n ≤ limit) {rest : List Char}
    (hrest : rest.takeWhile Char.isDigit = []) :
    natUpTo? limit ((ofNat n).toList ++ rest) = some (n, rest) := by
  have hread := magnitude_ofNat .tooLarge hn
  rw [natUpTo?, takeWhile_ofNat n hrest, dropWhile_ofNat n hrest]
  split
  · rename_i hnil
    exact absurd hnil (ofNat_ne_nil n)
  · rw [hread]

/-- The numeral of a natural number has no sign. -/
theorem ofNat_ne_sign_cons (n : Nat) {c : Char} (hc : c.isDigit = false) (rest : List Char) :
    (ofNat n).toList ≠ c :: rest := by
  intro h
  have hdigit : c.isDigit = true := isDigit_of_mem_ofNat (h ▸ List.mem_cons_self)
  exact absurd (hc.symm.trans hdigit) (by decide)

/-- **A 32-bit integer is read back from its numeral.** -/
theorem int32?_ofInt (n : Int32) : int32? (ofInt n.toInt).toList = .ok n := by
  have hlow := n.le_toInt
  have hhigh := n.toInt_lt
  cases hn : n.toInt with
  | ofNat m =>
    rw [hn, Int.ofNat_eq_natCast] at hhigh
    have hread : magnitude 0x7fffffff .tooLarge 0 (ofNat m).toList = .ok m :=
      magnitude_ofNat .tooLarge (by omega)
    have hvalue : Int32.ofInt (m : Int) = n := by
      rw [← Int.ofNat_eq_natCast, ← hn, Int32.ofInt_toInt]
    -- A numeral is neither empty nor begins with a sign.
    rw [ofInt]
    unfold int32?
    split
    · rename_i h
      exact absurd h (ofNat_ne_nil m)
    · rename_i h
      exact absurd h (ofNat_ne_sign_cons m (by decide) _)
    · rename_i h
      exact absurd h (ofNat_ne_sign_cons m (by decide) _)
    · rename_i h
      exact absurd h (ofNat_ne_sign_cons m (by decide) _)
    · rename_i h
      exact absurd h (ofNat_ne_sign_cons m (by decide) _)
    · rw [hread]
      exact congrArg Except.ok hvalue
  | negSucc m =>
    rw [hn, Int.negSucc_eq] at hlow
    have hread : magnitude 0x80000000 .tooSmall 0 (ofNat (m + 1)).toList = .ok (m + 1) :=
      magnitude_ofNat .tooSmall (by omega)
    have hvalue : Int32.ofInt (-((m + 1 : Nat) : Int)) = n := by
      rw [Int.natCast_succ, ← Int.negSucc_eq, ← hn, Int32.ofInt_toInt]
    rw [ofInt, String.toList_append]
    show int32? ('-' :: (ofNat (m + 1)).toList) = _
    obtain ⟨d, ds, hcons⟩ := List.exists_cons_of_ne_nil (ofNat_ne_nil (m + 1))
    rw [hcons] at hread ⊢
    show (magnitude 0x80000000 .tooSmall 0 (d :: ds)).map (fun n => Int32.ofInt (-n)) = _
    rw [hread]
    exact congrArg Except.ok hvalue

end Decimal

namespace Hex

/-- A digit below sixteen has its own value. -/
theorem digit?_digitChar : ∀ d : Fin 16, digit? (Nat.digitChar d) = some d.val := by
  decide

/-- Another digit multiplies the value by sixteen and is added to it. -/
theorem value_append (ds : List Char) (d : Fin 16) :
    value (ds ++ [Nat.digitChar d]) = value ds * 16 + d.val := by
  rw [value, List.foldl_append, List.foldl_cons, List.foldl_nil, digit?_digitChar, Option.getD_some]
  rfl

/-- The digits of a numeral have the value of its number. -/
theorem value_toDigits (n : Nat) : value (Nat.toDigits 16 n) = n := by
  induction n using Nat.strongRecOn with
  | ind n ih =>
    by_cases hn : n < 16
    · have hvalue := value_append [] ⟨n, hn⟩
      rw [Nat.toDigits_of_lt_base hn]
      exact hvalue.trans (Nat.zero_add n)
    · have hlt : n / 16 < n := Nat.div_lt_self (by omega) (by decide)
      have hvalue := value_append (Nat.toDigits 16 (n / 16)) ⟨n % 16, Nat.mod_lt _ (by decide)⟩
      rw [Nat.toDigits_of_base_le (by decide) (by omega), hvalue, ih _ hlt]
      exact Nat.div_add_mod' n 16

/-- The digits that numerals are written with. -/
def digits : List Char :=
  "0123456789abcdef".toList

/-- A numeral of base sixteen or less is written with these digits. -/
theorem mem_digits_of_mem_toDigits {b n : Nat} {c : Char} (hb : 1 < b) (hb16 : b ≤ 16)
    (h : c ∈ Nat.toDigits b n) : c ∈ digits := by
  have hdigit : ∀ d : Fin 16, Nat.digitChar d ∈ digits := by decide
  induction n using Nat.strongRecOn with
  | ind n ih =>
    -- By strong induction, as the number without its last digit is smaller.
    by_cases hn : n < b
    · rw [Nat.toDigits_of_lt_base hn, List.mem_singleton] at h
      exact h ▸ hdigit ⟨n, by omega⟩
    · have hlt : n / b < n := Nat.div_lt_self (by omega) hb
      have hmod : n % b < b := Nat.mod_lt _ (by omega)
      rw [Nat.toDigits_of_base_le hb (by omega), List.mem_append, List.mem_singleton] at h
      rcases h with h | h
      · exact ih _ hlt h
      · exact h ▸ hdigit ⟨n % b, by omega⟩

/-- A hexadecimal numeral consists of digits. -/
theorem isDigit_of_mem_toDigits {n : Nat} {c : Char} (h : c ∈ Nat.toDigits 16 n) :
    isDigit c = true := by
  have hdigits : ∀ c ∈ digits, isDigit c = true := forall_mem_of_all (by decide)
  exact hdigits c (mem_digits_of_mem_toDigits (by decide) (by decide) h)

/-- What is no hexadecimal digit does not occur in a hexadecimal number. -/
theorem notMem_toDigits {c : Char} (hc : isDigit c = false) (n : Nat) : c ∉ Nat.toDigits 16 n := by
  intro h
  rw [isDigit_of_mem_toDigits h] at hc
  exact absurd hc (by decide)

/-- A decimal digit is a hexadecimal one. -/
theorem isDigit_of_isDigit {c : Char} (h : c.isDigit = true) : isDigit c = true := by
  rw [isDigit, digit?, if_pos h]
  rfl

end Hex

namespace Decimal

/-- Decimal digits are hexadecimal digits. -/
theorem mem_digits_of_mem_ofNat {n : Nat} {c : Char} (h : c ∈ (ofNat n).toList) :
    c ∈ Hex.digits := by
  rw [toList_ofNat] at h
  exact Hex.mem_digits_of_mem_toDigits (by decide) (by decide) h

/-- The numeral of an integer is written with digits behind an optional sign. -/
theorem mem_ofInt {n : Int} {c : Char} (h : c ∈ (ofInt n).toList) : c = '-' ∨ c ∈ Hex.digits := by
  have hsign : "-".toList = ['-'] := rfl
  cases n with
  | ofNat m => exact .inr (mem_digits_of_mem_ofNat h)
  | negSucc m =>
    rw [ofInt, String.toList_append, hsign, List.singleton_append, List.mem_cons] at h
    exact h.imp_right mem_digits_of_mem_ofNat

/-- A written integer is not empty. -/
theorem ofInt_ne_nil (n : Int) : (ofInt n).toList ≠ [] := by
  cases n with
  | ofNat m => exact ofNat_ne_nil m
  | negSucc m =>
    rw [ofInt, String.toList_append]
    exact List.append_ne_nil_of_right_ne_nil _ (ofNat_ne_nil _)

end Decimal

end Muster
