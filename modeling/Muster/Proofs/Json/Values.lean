import Muster.Proofs.Json.Numerals
import Muster.Proofs.Json.Spelled

/-!
# The texts of JSON values

`IsValue` holds of the texts of values as JSON describes them: words, numerals, strings, and arrays
and objects nested in each other to any depth, with blanks anywhere between the tokens. What is
written of a string or a number is such a text.
-/

namespace Muster.Json

/-! ## Blanks -/

/-- Blanks between two tokens. -/
structure Blanks where
  /-- The octets. -/
  octets : Bytes
  /-- They are blank. -/
  areBlank : ∀ b ∈ octets, isBlank b = true

/-- Blanks in front of a text are dropped. -/
@[simp] theorem dropBlank_blanks (gap : Blanks) (text : Bytes) :
    dropBlank (gap.octets ++ text) = dropBlank text := by
  obtain ⟨octets, areBlank⟩ := gap
  show dropBlank (octets ++ text) = _
  induction octets with
  | nil => rfl
  | cons b octets ih =>
    rw [List.cons_append, dropBlank, List.dropWhile_cons_of_pos (areBlank b List.mem_cons_self)]
    exact ih fun c hc => areBlank c (List.mem_cons_of_mem _ hc)

/-- Nothing is left of blanks alone. -/
theorem dropBlank_of_blanks (gap : Blanks) : dropBlank gap.octets = [] := by
  have h := dropBlank_blanks gap []
  rwa [List.append_nil] at h

/-- A blank separates values. -/
theorem mem_separators_of_isBlank {b : UInt8} (h : isBlank b = true) : b ∈ separators := by
  simp only [isBlank, Bool.or_eq_true, beq_iff_eq] at h
  rcases h with ((rfl | rfl) | rfl) | rfl
  · decide
  · decide
  · decide
  · decide

/-- A text that goes on behind a value does so behind blanks as well. -/
theorem goes_blanks (gap : Blanks) {rest : Bytes} (h : Goes rest) : Goes (gap.octets ++ rest) := by
  obtain ⟨octets, areBlank⟩ := gap
  cases octets with
  | nil => exact h
  | cons b octets =>
    exact goes_cons (mem_separators_of_isBlank (areBlank b List.mem_cons_self)) (octets ++ rest)

/-! ## Arrays and objects -/

/-- A value among others, with the blanks around it. -/
structure Element where
  /-- The blanks in front of it. -/
  before : Blanks
  /-- The text of the value. -/
  value : Bytes
  /-- The blanks behind it. -/
  after : Blanks

/-- An element as it is written. -/
def Element.toBytes (e : Element) : Bytes :=
  e.before.octets ++ (e.value ++ e.after.octets)

/-- Whether octets may stand between the quotes of a string. -/
def IsInside (octets : Bytes) : Prop :=
  ∃ pieces : List Piece, octets = pieces.flatMap Piece.toBytes

/-- A member of an object, with the blanks around its parts. -/
structure Member where
  /-- The blanks in front of its name. -/
  before : Blanks
  /-- What stands between the quotes of its name. -/
  name : Bytes
  /-- It is the inside of a string. -/
  isInside : IsInside name
  /-- The blanks in front of the colon. -/
  afterName : Blanks
  /-- The value behind the colon. -/
  element : Element

namespace Member

/-- The text of the value of a member. -/
def value (m : Member) : Bytes :=
  m.element.value

/-- What stands in front of the value of a member. -/
def label (m : Member) : Bytes :=
  m.before.octets ++ octet '"' :: (m.name ++ octet '"' :: (m.afterName.octets ++ [octet ':']))

/-- A member as it is written. -/
def toBytes (m : Member) : Bytes :=
  m.label ++ m.element.toBytes

end Member

/-- An array as it is written. -/
def arrayText (gap : Blanks) (elements : List Element) : Bytes :=
  octet '[' :: (gap.octets ++ (commas (elements.map Element.toBytes) ++ [octet ']']))

/-- An object as it is written. -/
def objectText (gap : Blanks) (members : List Member) : Bytes :=
  octet '\x7b' :: (gap.octets ++ (commas (members.map Member.toBytes) ++ [octet '\x7d']))

/-! ## Values -/

/-- A word that is a value. -/
def IsWord (text : Bytes) : Prop :=
  text ∈ [['n', 'u', 'l', 'l'], ['t', 'r', 'u', 'e'], ['f', 'a', 'l', 's', 'e']].map (·.map octet)

/-- Whether a text is that of a value. -/
inductive IsValue : Bytes → Prop
  /-- A word. -/
  | word {text : Bytes} (isWord : IsWord text) : IsValue text
  /-- A number. -/
  | number (n : Numeral) : IsValue n.toBytes
  /-- A string. -/
  | string {inside : Bytes} (isInside : IsInside inside) :
    IsValue (octet '"' :: (inside ++ [octet '"']))
  /-- An array. -/
  | array (gap : Blanks) (elements : List Element)
    (areValues : ∀ e ∈ elements, IsValue e.value) : IsValue (arrayText gap elements)
  /-- An object. -/
  | object (gap : Blanks) (members : List Member)
    (areValues : ∀ m ∈ members, IsValue m.value) : IsValue (objectText gap members)

/-! ## Written values are values -/

/-- Pieces in a row are the inside of a string. -/
theorem isInside_flatMap {ι : Type} {f : ι → Bytes} {l : List ι} (h : ∀ i ∈ l, IsInside (f i)) :
    IsInside (l.flatMap f) := by
  induction l with
  | nil => exact ⟨[], rfl⟩
  | cons i l ih =>
    obtain ⟨first, hfirst⟩ := h i List.mem_cons_self
    obtain ⟨others, hothers⟩ := ih fun j hj => h j (List.mem_cons_of_mem _ hj)
    exact ⟨first ++ others, by rw [List.flatMap_cons, List.flatMap_append, hfirst, hothers]⟩

/-- Octets that stand for themselves may stand inside of a string. -/
theorem isInside_octets {octets : Bytes} (h : ∀ b ∈ octets, IsPlainOctet b) : IsInside octets := by
  have hself : octets.flatMap (fun b => [b]) = octets := by simp
  rw [← hself]
  exact isInside_flatMap fun b hb => ⟨[.plain b (h b hb)], rfl⟩

/-- However a string is spelled, it is one of which the end is found. -/
theorem isInside_spelled (text : List Spelling) : IsInside (spelled text) := by
  refine isInside_flatMap fun s _ => ?_
  cases s with
  | plain c isPlain => exact isInside_octets isPlain.octets
  | short e c isShort => exact ⟨[.short e c isShort], rfl⟩
  | code u isScalar => exact ⟨[.code u], by simp [Spelling.toBytes, Piece.toBytes]⟩
  | pair u v isPair => exact ⟨[.code u, .code v], by simp [Spelling.toBytes, Piece.toBytes]⟩

/-- What is written for a text may stand inside of a string. -/
theorem isInside_written (s : String) : IsInside ((Bytes.ofText s).flatMap escape) := by
  obtain ⟨text, hspelled, -⟩ := exists_spelled s
  rw [← hspelled]
  exact isInside_spelled text

/-- A written string is a value. -/
theorem isValue_string (s : String) : IsValue (Json.string s) := by
  have hstring := IsValue.string (isInside_written s)
  simpa [Json.string] using hstring

/-- The digits of a numeral that is written. -/
def digitsOfNat (n : Nat) : Digits where
  octets := (Decimal.ofNat n).toList.map octet
  ne_nil := by
    rw [ne_eq, List.map_eq_nil_iff]
    exact Decimal.ofNat_ne_nil n
  areDigits b hb := by
    obtain ⟨c, hc, rfl⟩ := List.mem_map.1 hb
    exact isDigit_octet (Decimal.isDigit_of_mem_ofNat hc)

/-- The numeral of a number. -/
def numeralOfNat (isNegative : Bool) (n : Nat) : Numeral where
  isNegative
  whole := digitsOfNat n
  noLeadingZero h := by
    obtain ⟨c, ds, hcons⟩ := List.exists_cons_of_ne_nil (Decimal.ofNat_ne_nil n)
    simp only [digitsOfNat, hcons, List.map_cons, List.head?_cons, Option.some.injEq] at h ⊢
    rw [eq_nil_of_zero_cons hcons h, h, List.map_nil]
  fraction := none
  exponent := none

/-- A written number is a value. -/
theorem isValue_number (n : Int) : IsValue (Json.number n) := by
  cases n with
  | ofNat n =>
    have hnumber := IsValue.number (numeralOfNat false n)
    have hbytes : (numeralOfNat false n).toBytes = Json.number (Int.ofNat n) := by
      rw [Json.number, Decimal.ofInt, ofText_ofNat]
      exact List.append_nil _
    rwa [hbytes] at hnumber
  -- A negative number has a sign in front of its magnitude.
  | negSucc n =>
    have hnumber := IsValue.number (numeralOfNat true (n + 1))
    have hbytes : (numeralOfNat true (n + 1)).toBytes = Json.number (Int.negSucc n) := by
      rw [Json.number, Decimal.ofInt, ofText_append, ofText_ofNat]
      exact congrArg (octet '-' :: ·) (List.append_nil _)
    rwa [hbytes] at hnumber

end Muster.Json
