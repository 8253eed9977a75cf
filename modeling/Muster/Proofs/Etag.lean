import Muster.Etag
import Muster.Proofs.Text.Numeral

/-!
# Etags tell their counts apart

An etag shows its count in front of the only hyphen, so etags of different counts are different,
whatever their random numbers are, until the count wraps around. The etag of the initial version
has no hyphen and is none of them.
-/

namespace Muster

namespace Etag

/-- The text of an etag is its count in hexadecimal digits, a dash, and eight random digits. -/
theorem toList_render (count : Nat) (random : UInt32) :
    (render count random).toList =
      Nat.toDigits 16 count ++ '-' :: (Hex.padded 8 random.toNat).toList := by
  simp [render, Hex.ofNat, String.toList_append]

/-- The count of an etag stands in front of its first hyphen. -/
theorem takeWhile_render (count : Nat) (random : UInt32) :
    (render count random).toList.takeWhile (· ≠ '-') = Nat.toDigits 16 count := by
  rw [toList_render, List.takeWhile_append_of_pos, List.takeWhile_cons_of_neg, List.append_nil]
  · simp
  · intro c hc
    have hne : c ≠ '-' := by
      rintro rfl
      exact Hex.notMem_toDigits (by decide) count hc
    simpa using hne

/-- Etags of different counts are different, whatever their random numbers are. -/
theorem count_eq_of_render {count count' : Nat} {random random' : UInt32}
    (h : render count random = render count' random') : count = count' := by
  have hdigits : Nat.toDigits 16 count = Nat.toDigits 16 count' := by
    rw [← takeWhile_render count random, h, takeWhile_render]
  rw [← Hex.value_toDigits count, hdigits, Hex.value_toDigits]

/-- An etag is not one of the `limit - 1` etags before it. -/
theorem mint_ne_render (source : Source) {n : Nat} (hn : n < source.count)
    (hlimit : source.count < n + limit) (random : UInt32) :
    source.mint.1 ≠ render (n % limit) random := by
  intro h
  have hcount : source.count % limit = n % limit := count_eq_of_render h
  -- The counts differ by less than the limit, and not by nothing.
  unfold limit at hcount hlimit
  omega

/-- The etag of the initial version is never minted. -/
theorem render_ne_zero (count : Nat) (random : UInt32) : render count random ≠ "0" := by
  intro h
  have hmem : '-' ∈ (render count random).toList := by
    rw [toList_render]
    exact List.mem_append_right _ List.mem_cons_self
  rw [h] at hmem
  exact absurd hmem (by decide)

end Etag

end Muster
