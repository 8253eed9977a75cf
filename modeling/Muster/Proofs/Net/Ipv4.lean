import Muster.Net.Ipv4
import Muster.Proofs.Text.Numeral

/-!
# IPv4 addresses are read back

A written octet has at most three digits and no leading zero, so it is one that the reader accepts
(`octet?_ofNat`). Behind the last octet may stand anything but a digit. A text whose leading digits
are not followed by a point is no IPv4 address (`read?_eq_none`); this is what lets a reader of
IPv6 addresses try for one in every place.
-/

namespace Muster.Net.Ipv4

/-- The numeral of an octet has at most three digits and no leading zero. -/
theorem isOctet_ofNat {n : Nat} (hn : n < 256) :
    (Decimal.ofNat n).toList.length ≤ 3 ∧
      ((Decimal.ofNat n).toList.head? = some '0' → (Decimal.ofNat n).toList.length = 1) := by
  refine ⟨?_, fun hzero => ?_⟩
  · rw [Decimal.toList_ofNat]
    exact (Nat.length_toDigits_le_iff (by decide) (by decide)).2 (by omega)
  · by_cases hsmall : n < 10
    · rw [Decimal.toList_ofNat, Nat.toDigits_of_lt_base hsmall]
      rfl
    · obtain ⟨rest, hrest⟩ := List.head?_eq_some_iff.1 hzero
      exact absurd hrest (Decimal.ofNat_ne_zero_cons (by omega) rest)

/-- A written octet is read back. -/
theorem octet?_ofNat (a : UInt8) {rest : List Char} (hrest : rest.takeWhile Char.isDigit = []) :
    octet? ((Decimal.ofNat a.toNat).toList ++ rest) = some (a, rest) := by
  have ha : a.toNat < 256 := a.toNat_lt
  have hread : Decimal.natUpTo? 255 ((Decimal.ofNat a.toNat).toList ++ rest) =
      some (a.toNat, rest) := Decimal.natUpTo?_ofNat (by omega) hrest
  rw [octet?, Decimal.takeWhile_ofNat _ hrest]
  dsimp only
  rw [if_pos (isOctet_ofNat ha), hread, Option.map_some, UInt8.ofNat_toNat]

/-- The characters of an address, with a text behind it. -/
theorem toList_toText_append (ip : Ipv4) (rest : List Char) :
    ip.toText.toList ++ rest =
      (Decimal.ofNat ip.a.toNat).toList ++ '.' :: ((Decimal.ofNat ip.b.toNat).toList ++
        '.' :: ((Decimal.ofNat ip.c.toNat).toList ++
          '.' :: ((Decimal.ofNat ip.d.toNat).toList ++ rest))) := by
  have hpoint : ".".toList = ['.'] := rfl
  simp only [toText, String.toList_append, hpoint, List.append_assoc, List.cons_append,
    List.nil_append]

/-- **A written IPv4 address is read back**, whatever stands behind it but a digit. -/
theorem read?_toText (ip : Ipv4) {rest : List Char} (hrest : rest.takeWhile Char.isDigit = []) :
    read? (ip.toText.toList ++ rest) = some (ip, rest) := by
  have hpoint : ∀ text, ('.' :: text).takeWhile Char.isDigit = [] :=
    fun _ => List.takeWhile_cons_of_neg (by decide)
  have hd := octet?_ofNat ip.d hrest
  have hc := octet?_ofNat ip.c (hpoint ((Decimal.ofNat ip.d.toNat).toList ++ rest))
  have hb := octet?_ofNat ip.b
    (hpoint ((Decimal.ofNat ip.c.toNat).toList ++
      '.' :: ((Decimal.ofNat ip.d.toNat).toList ++ rest)))
  rw [toList_toText_append, read?, octet?_ofNat ip.a (hpoint _)]
  simp only [Option.bind_eq_bind, Option.bind_some, Chars.expect?_cons, hb, hc, hd]
  rfl

/-- What an octet leaves is the text behind the leading digits. -/
theorem rest_of_octet? {text rest : List Char} {a : UInt8} (h : octet? text = some (a, rest)) :
    rest = text.dropWhile Char.isDigit := by
  unfold octet? Decimal.natUpTo? at h
  dsimp only at h
  split at h
  · split at h
    · exact absurd h (by simp)
    · split at h
      · simp only [Option.map_some, Option.some.injEq, Prod.mk.injEq] at h
        exact h.2.symm
      · exact absurd h (by simp)
  · exact absurd h (by simp)

/-- A text without a point behind its leading digits is no address. -/
theorem read?_eq_none {text : List Char} (h : (text.dropWhile Char.isDigit).head? ≠ some '.') :
    read? text = none := by
  cases hoctet : octet? text with
  | none =>
    rw [read?, hoctet]
    rfl
  | some first =>
    obtain ⟨a, rest⟩ := first
    -- Behind the first octet there is no point.
    have hexpect : Chars.expect? '.' rest = none := by
      rw [← rest_of_octet? hoctet] at h
      cases rest with
      | nil => rfl
      | cons c rest =>
        have hc : c ≠ '.' := fun hc => h (congrArg some hc)
        rw [Chars.expect?, if_neg hc]
    rw [read?, hoctet]
    simp only [Option.bind_eq_bind, Option.bind_some, hexpect, Option.bind_none]

/-! ## What an address is written with -/

/-- The text of an address consists of points and hexadecimal digits. -/
theorem mem_toText {ip : Ipv4} {c : Char} (h : c ∈ ip.toText.toList) :
    c = '.' ∨ c ∈ Hex.digits := by
  have hoctet : ∀ a : UInt8, c ∈ (Decimal.ofNat a.toNat).toList → c = '.' ∨ c ∈ Hex.digits :=
    fun _ hc => .inr (Decimal.mem_digits_of_mem_ofNat hc)
  rw [← List.append_nil ip.toText.toList, toList_toText_append] at h
  simp only [List.mem_append, List.mem_cons, List.not_mem_nil, or_false] at h
  rcases h with ha | hp | hb | hp | hc | hp | hd
  · exact hoctet _ ha
  · exact .inl hp
  · exact hoctet _ hb
  · exact .inl hp
  · exact hoctet _ hc
  · exact .inl hp
  · exact hoctet _ hd

/-- The text of an address is not empty. -/
theorem toText_ne_nil (ip : Ipv4) : ip.toText.toList ≠ [] := by
  rw [← List.append_nil ip.toText.toList, toList_toText_append]
  exact List.append_ne_nil_of_left_ne_nil (Decimal.ofNat_ne_nil _) _

end Muster.Net.Ipv4
