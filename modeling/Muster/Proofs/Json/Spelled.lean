import Muster.Proofs.Json.Number

/-!
# Strings spelled in any way

A string can be written in many ways: a character by itself unless it is a quote, a backslash or a
control, by a short escape, by its code point or by the two halves of its surrogate pair. `Spelling`
is one way for one character. Whatever way is chosen for each, the string is read as what is meant
(`readString_spelled`), and the way it is written is one of them (`exists_spelled`).

Where nobody asks for what a string says, less is checked: a `Piece` is any octet that is no
control, or an escape with any four hexadecimal digits (`skipString_pieces`).
-/

namespace Muster.Json

/-! ## Spellings of characters -/

/-- The short escapes: the character behind the backslash, and what it stands for. -/
def shortEscapes : List (Char × Char) :=
  [('"', '"'), ('\\', '\\'), ('/', '/'), ('b', '\x08'), ('f', '\x0c'), ('n', '\n'), ('r', '\r'),
    ('t', '\t')]

/-- Whether a character may stand for itself in a string. -/
def IsPlain (c : Char) : Prop :=
  c ≠ '"' ∧ c ≠ '\\' ∧ 0x20 ≤ c.toNat

/-- A code unit written in four hexadecimal digits. -/
structure CodeUnit where
  /-- The digits. -/
  digits : UInt8 × UInt8 × UInt8 × UInt8
  /-- The code unit. -/
  value : Nat
  /-- It is the value of the digits. -/
  isValue : hex4? digits.1 digits.2.1 digits.2.2.1 digits.2.2.2 = some value

/-- The escape of a code unit. -/
def CodeUnit.toBytes (u : CodeUnit) : Bytes :=
  [octet '\\', octet 'u', u.digits.1, u.digits.2.1, u.digits.2.2.1, u.digits.2.2.2]

/-- A way to write a character in a string. -/
inductive Spelling
  /-- The character itself. -/
  | plain (c : Char) (isPlain : IsPlain c)
  /-- A short escape. -/
  | short (e c : Char) (isShort : (e, c) ∈ shortEscapes)
  /-- Its code point. -/
  | code (u : CodeUnit)
    (isScalar : isFirstSurrogate u.value = false ∧ isSecondSurrogate u.value = false)
  /-- The two halves of its surrogate pair. -/
  | pair (u v : CodeUnit)
    (isPair : isFirstSurrogate u.value = true ∧ isSecondSurrogate v.value = true)

/-- What is written. -/
def Spelling.toBytes : Spelling → Bytes
  | plain c _ => String.utf8EncodeChar c
  | short e _ _ => [octet '\\', octet e]
  | code u _ => u.toBytes
  | pair u v _ => u.toBytes ++ v.toBytes

/-- The character that is meant. -/
def Spelling.char : Spelling → Char
  | plain c _ => c
  | short _ c _ => c
  | code u _ => Char.ofNat u.value
  | pair u v _ => Char.ofNat ((u.value - 0xd800) * 0x400 + (v.value - 0xdc00) + 0x10000)

/-- A string spelled character by character, without its quotes. -/
def spelled (text : List Spelling) : Bytes :=
  text.flatMap Spelling.toBytes

/-- The string that is meant. -/
def meant (text : List Spelling) : String :=
  String.ofList (text.map Spelling.char)

/-! ## What is spelled is read -/

/-- An octet that may stand for itself in a string. -/
def IsPlainOctet (b : UInt8) : Prop :=
  b ≠ octet '"' ∧ b ≠ octet '\\' ∧ ¬ b < 0x20

/-- An octet of a character that takes several of them is no ASCII character. -/
theorem isPlainOctet_ofNat {n : Nat} (hlow : 128 ≤ n) (hhigh : n < 256) :
    IsPlainOctet (UInt8.ofNat n) := by
  have hnat : (UInt8.ofNat n).toNat = n := UInt8.toNat_ofNat_of_lt hhigh
  have hquote : (octet '"').toNat = 34 := rfl
  have hback : (octet '\\').toNat = 92 := rfl
  have hspace : (0x20 : UInt8).toNat = 32 := rfl
  refine ⟨fun heq => ?_, fun heq => ?_, fun hlt => ?_⟩
  · rw [heq] at hnat
    omega
  · rw [heq] at hnat
    omega
  · rw [UInt8.lt_iff_toNat_lt] at hlt
    omega

/-- The octets of a plain character are plain. -/
theorem IsPlain.octets {c : Char} (h : IsPlain c) :
    ∀ b ∈ String.utf8EncodeChar c, IsPlainOctet b := by
  obtain ⟨hquote, hback, hspace⟩ := h
  by_cases hascii : c.toNat < 128
  · rw [utf8EncodeChar_ascii hascii]
    intro b hb
    obtain rfl := List.mem_singleton.1 hb
    have hnat : (octet c).toNat = c.toNat := toNat_octet (by omega)
    refine ⟨fun heq => hquote ?_, fun heq => hback ?_, fun hlt => ?_⟩
    · rw [heq] at hnat
      exact Char.toNat_inj.1 hnat.symm
    · rw [heq] at hnat
      exact Char.toNat_inj.1 hnat.symm
    · rw [UInt8.lt_iff_toNat_lt, hnat] at hlt
      exact absurd hlt (Nat.not_lt.2 hspace)
  · -- Beyond ASCII every octet is 128 or more, however many there are.
    have hval : 128 ≤ c.val.toNat := Nat.le_of_not_lt hascii
    rw [String.utf8EncodeChar.eq_1]
    generalize c.val.toNat = v at hval
    rw [if_neg (by omega)]
    split
    · simp only [List.forall_mem_cons, List.not_mem_nil, false_implies, implies_true, and_true]
      exact ⟨isPlainOctet_ofNat (by omega) (by omega), isPlainOctet_ofNat (by omega) (by omega)⟩
    · split
      · simp only [List.forall_mem_cons, List.not_mem_nil, false_implies, implies_true, and_true]
        exact ⟨isPlainOctet_ofNat (by omega) (by omega), isPlainOctet_ofNat (by omega) (by omega),
          isPlainOctet_ofNat (by omega) (by omega)⟩
      · simp only [List.forall_mem_cons, List.not_mem_nil, false_implies, implies_true, and_true]
        exact ⟨isPlainOctet_ofNat (by omega) (by omega), isPlainOctet_ofNat (by omega) (by omega),
          isPlainOctet_ofNat (by omega) (by omega), isPlainOctet_ofNat (by omega) (by omega)⟩

/-- Octets that stand for themselves are read as they are. -/
theorem readInside_plains {bs : Bytes} (h : ∀ b ∈ bs, IsPlainOctet b) (seen rest : Bytes) :
    readInside seen (bs ++ rest) = readInside (bs.reverse ++ seen) rest := by
  induction bs generalizing seen with
  | nil => rfl
  | cons b bs ih =>
    obtain ⟨hquote, hback, hcontrol⟩ := h b List.mem_cons_self
    rw [List.cons_append, readInside_plain hquote hback hcontrol,
      ih fun c hc => h c (List.mem_cons_of_mem _ hc), List.reverse_cons, List.append_assoc]
    rfl

/-- The table of short escapes is the one that is read by. -/
theorem shortEscape?_of_mem : ∀ p ∈ shortEscapes, shortEscape? (octet p.1) = some (octet p.2) ∧
    octet p.1 ≠ octet 'u' ∧ p.2.toNat < 128 := by
  decide

/-- A code unit that is no surrogate is read as its character. -/
theorem readInside_code {u : CodeUnit}
    (h : isFirstSurrogate u.value = false ∧ isSecondSurrogate u.value = false) (seen rest : Bytes) :
    readInside seen (u.toBytes ++ rest) = readInside (reversedUtf8 u.value ++ seen) rest := by
  have hne : octet '\\' ≠ octet '"' := by decide
  rw [CodeUnit.toBytes, List.cons_append, readInside.eq_def]
  dsimp only [List.cons_append, List.nil_append]
  rw [if_neg hne, if_pos rfl, if_pos rfl, u.isValue]
  dsimp only
  rw [h.1, h.2]
  rfl

/-- A pair of surrogates is read as the character that they encode together. -/
theorem readInside_pair {u v : CodeUnit}
    (h : isFirstSurrogate u.value = true ∧ isSecondSurrogate v.value = true) (seen rest : Bytes) :
    readInside seen (u.toBytes ++ v.toBytes ++ rest) = readInside
      (reversedUtf8 ((u.value - 0xd800) * 0x400 + (v.value - 0xdc00) + 0x10000) ++ seen) rest := by
  have hne : octet '\\' ≠ octet '"' := by decide
  -- That it is a second half is ruled out before it is taken for a first one.
  have hsecond : isSecondSurrogate u.value = false := by
    have hfirst := h.1
    simp only [isFirstSurrogate, isSecondSurrogate, Bool.and_eq_true, decide_eq_true_eq,
      Bool.and_eq_false_iff, decide_eq_false_iff_not] at hfirst ⊢
    omega
  rw [CodeUnit.toBytes, CodeUnit.toBytes, List.cons_append, List.cons_append, readInside.eq_def]
  dsimp only [List.cons_append, List.nil_append]
  rw [if_neg hne, if_pos rfl, if_pos rfl, u.isValue]
  dsimp only
  rw [h.1, hsecond]
  simp only [Bool.false_eq_true, if_false, if_true, v.isValue, h.2]

/-- A character is read however it is written. -/
theorem readInside_spelling (s : Spelling) (seen rest : Bytes) :
    readInside seen (s.toBytes ++ rest) =
      readInside ((String.utf8EncodeChar s.char).reverse ++ seen) rest := by
  cases s with
  | plain c isPlain => exact readInside_plains isPlain.octets seen rest
  | short e c isShort =>
    obtain ⟨hescape, hu, hascii⟩ := shortEscape?_of_mem (e, c) isShort
    rw [Spelling.char, utf8EncodeChar_ascii hascii]
    exact readInside_short hescape hu seen rest
  | code u isScalar => exact readInside_code isScalar seen rest
  | pair u v isPair => exact readInside_pair isPair seen rest

/-- A spelled string is read up to its closing quote as the characters that are meant. -/
theorem readInside_spelled (text : List Spelling) (seen rest : Bytes) :
    readInside seen (spelled text ++ octet '"' :: rest) =
      .ok (seen.reverse ++ (text.map Spelling.char).flatMap String.utf8EncodeChar, rest) := by
  induction text generalizing seen with
  | nil =>
    rw [spelled, List.flatMap_nil, List.nil_append, readInside_quote, List.map_nil,
      List.flatMap_nil, List.append_nil]
  | cons s text ih =>
    rw [spelled, List.flatMap_cons, List.append_assoc, readInside_spelling]
    refine (ih _).trans ?_
    rw [List.reverse_append, List.reverse_reverse, List.map_cons, List.flatMap_cons,
      List.append_assoc]

/-- The octets of a string are those of its characters. -/
theorem ofText_ofList (cs : List Char) :
    Bytes.ofText (String.ofList cs) = cs.flatMap String.utf8EncodeChar := by
  simp [Bytes.ofText, String.ofList, List.utf8Encode]

/-- **A string is read however it is spelled.** -/
theorem readString_spelled (text : List Spelling) (rest : Bytes) :
    readString (spelled text ++ octet '"' :: rest) = .ok (meant text, rest) := by
  rw [readString, readInside_spelled, List.reverse_nil, List.nil_append, ← ofText_ofList]
  simp only [Except.bind, bind, Bytes.text?_ofText]
  rfl

/-! ## What is written is spelled -/

/-- The escape that is written for a control. -/
def controlUnit (b : UInt8) (h : b.toNat < 32) : CodeUnit where
  digits := (octet '0', octet '0', octet (Nat.digitChar (b.toNat / 16)),
    octet (Nat.digitChar (b.toNat % 16)))
  value := b.toNat
  isValue := (control_escape ⟨b.toNat, h⟩).1

/-- A plain octet is written as it is. -/
theorem escape_of_isPlainOctet {b : UInt8} (h : IsPlainOctet b) : escape b = [b] := by
  obtain ⟨hquote, hback, hcontrol⟩ := h
  -- It is none of the controls with an escape of their own.
  have hne : ∀ c : Char, octet c < 0x20 → Char.ofUInt8 b ≠ c := by
    intro c hc heq
    rw [eq_octet_of_ofUInt8 heq] at hcontrol
    exact hcontrol hc
  unfold escape
  split
  · exact absurd (eq_octet_of_ofUInt8 ‹_›) hquote
  · exact absurd (eq_octet_of_ofUInt8 ‹_›) hback
  · exact absurd ‹_› (hne '\x08' (by decide))
  · exact absurd ‹_› (hne '\x0c' (by decide))
  · exact absurd ‹_› (hne '\n' (by decide))
  · exact absurd ‹_› (hne '\r' (by decide))
  · exact absurd ‹_› (hne '\t' (by decide))
  · exact if_neg hcontrol

/-- Octets that stand for themselves are not escaped. -/
theorem flatMap_escape {bs : Bytes} (hbs : ∀ b ∈ bs, IsPlainOctet b) : bs.flatMap escape = bs := by
  induction bs with
  | nil => rfl
  | cons b bs ih =>
    rw [List.flatMap_cons, escape_of_isPlainOctet (hbs b List.mem_cons_self),
      ih fun d hd => hbs d (List.mem_cons_of_mem _ hd)]
    rfl

/-- A character that may not stand for itself is written as one of its escapes. -/
theorem exists_escape {c : Char} (h : c = '"' ∨ c = '\\' ∨ c.toNat < 32) :
    ∃ s : Spelling, s.char = c ∧ s.toBytes = escape (octet c) := by
  have hascii : c.toNat < 128 := by
    rcases h with rfl | rfl | hlow
    · decide
    · decide
    · omega
  have hnat : (octet c).toNat = c.toNat := toNat_octet (by omega)
  have hself : Char.ofUInt8 (octet c) = c := by
    apply Char.toNat_inj.1
    exact hnat
  unfold escape
  rw [hself]
  split
  · exact ⟨.short '"' '"' (by decide), rfl, rfl⟩
  · exact ⟨.short '\\' '\\' (by decide), rfl, rfl⟩
  · exact ⟨.short 'b' '\x08' (by decide), rfl, rfl⟩
  · exact ⟨.short 'f' '\x0c' (by decide), rfl, rfl⟩
  · exact ⟨.short 'n' '\n' (by decide), rfl, rfl⟩
  · exact ⟨.short 'r' '\r' (by decide), rfl, rfl⟩
  · exact ⟨.short 't' '\t' (by decide), rfl, rfl⟩
  -- What is left are the controls without a short escape.
  · rename_i hquote hback _ _ _ _ _
    have hlt : (octet c).toNat < 32 := by
      rcases h with rfl | rfl | hlow
      · exact absurd rfl hquote
      · exact absurd rfl hback
      · omega
    have hcontrol : octet c < 0x20 := UInt8.lt_iff_toNat_lt.2 hlt
    obtain ⟨-, hsecond, hfirst, -⟩ := control_escape ⟨(octet c).toNat, hlt⟩
    refine ⟨.code (controlUnit (octet c) hlt) ⟨hfirst, hsecond⟩, ?_, (if_pos hcontrol).symm⟩
    show Char.ofNat (octet c).toNat = c
    rw [hnat, Char.ofNat_toNat]

/-- Every character has the spelling in which it is written. -/
theorem exists_spelling (c : Char) :
    ∃ s : Spelling, s.char = c ∧ s.toBytes = (String.utf8EncodeChar c).flatMap escape := by
  by_cases hplain : IsPlain c
  · exact ⟨.plain c hplain, rfl, (flatMap_escape hplain.octets).symm⟩
  -- A character that does not stand for itself is one of three kinds.
  · have hlow : c = '"' ∨ c = '\\' ∨ c.toNat < 32 := by
      by_cases hquote : c = '"'
      · exact .inl hquote
      · by_cases hback : c = '\\'
        · exact .inr (.inl hback)
        · exact .inr (.inr (Nat.lt_of_not_le fun hspace => hplain ⟨hquote, hback, hspace⟩))
    have hascii : c.toNat < 128 := by
      rcases hlow with rfl | rfl | hlow
      · decide
      · decide
      · omega
    rw [utf8EncodeChar_ascii hascii, List.flatMap_singleton]
    exact exists_escape hlow

/-- **Every string can be spelled**, for one as it is written. -/
theorem exists_spelled (s : String) :
    ∃ text, spelled text = (Bytes.ofText s).flatMap escape ∧ meant text = s := by
  -- Character by character, so the induction is on the list of them.
  have hlist : ∀ cs : List Char, ∃ text : List Spelling, text.map Spelling.char = cs ∧
      spelled text = (cs.flatMap String.utf8EncodeChar).flatMap escape := by
    intro cs
    induction cs with
    | nil => exact ⟨[], rfl, rfl⟩
    | cons c cs ih =>
      obtain ⟨text, hchars, hspelled⟩ := ih
      obtain ⟨s, hchar, hbytes⟩ := exists_spelling c
      refine ⟨s :: text, by rw [List.map_cons, hchar, hchars], ?_⟩
      rw [List.flatMap_cons, List.flatMap_append, ← hbytes, ← hspelled]
      rfl
  obtain ⟨text, hchars, hspelled⟩ := hlist s.toList
  refine ⟨text, ?_, by rw [meant, hchars, String.ofList_toList]⟩
  rw [hspelled, ← ofText_ofList, String.ofList_toList]

/-! ## Strings that nobody asks for -/

/-- A piece of the inside of a string of which only the end is looked for. -/
inductive Piece
  /-- An octet that stands for itself. -/
  | plain (b : UInt8) (isPlain : IsPlainOctet b)
  /-- A short escape. -/
  | short (e c : Char) (isShort : (e, c) ∈ shortEscapes)
  /-- Any code unit. -/
  | code (u : CodeUnit)

/-- What is written. -/
def Piece.toBytes : Piece → Bytes
  | plain b _ => [b]
  | short e _ _ => [octet '\\', octet e]
  | code u => u.toBytes

/-- The string ends at its closing quote. -/
theorem skipString_quote (rest : Bytes) : skipString (octet '"' :: rest) = .ok rest := by
  rw [skipString.eq_def]
  dsimp only
  rw [if_pos rfl]

/-- An octet that stands for itself is skipped. -/
theorem skipString_plain {b : UInt8} (h : IsPlainOctet b) (rest : Bytes) :
    skipString (b :: rest) = skipString rest := by
  obtain ⟨hquote, hback, hcontrol⟩ := h
  rw [skipString.eq_def]
  dsimp only
  rw [if_neg hquote, if_neg hback, if_neg hcontrol]

/-- A short escape is skipped, even if the character behind the backslash is a quote. -/
theorem skipString_short {e c : UInt8} (h : shortEscape? e = some c) (hu : e ≠ octet 'u')
    (rest : Bytes) : skipString (octet '\\' :: e :: rest) = skipString rest := by
  have hne : octet '\\' ≠ octet '"' := by decide
  rw [skipString.eq_def]
  dsimp only
  rw [if_neg hne, if_pos rfl, if_neg hu, h]
  rfl

/-- A code unit is skipped, whatever it stands for. -/
theorem skipString_code (u : CodeUnit) (rest : Bytes) :
    skipString (u.toBytes ++ rest) = skipString rest := by
  have hne : octet '\\' ≠ octet '"' := by decide
  rw [CodeUnit.toBytes, List.cons_append, skipString.eq_def]
  dsimp only [List.cons_append, List.nil_append]
  rw [if_neg hne, if_pos rfl, if_pos rfl, u.isValue]
  rfl

/-- Every piece of a string is skipped. -/
theorem skipString_piece (p : Piece) (rest : Bytes) :
    skipString (p.toBytes ++ rest) = skipString rest := by
  cases p with
  | plain b isPlain => exact skipString_plain isPlain rest
  | short e c isShort =>
    obtain ⟨hescape, hu, -⟩ := shortEscape?_of_mem (e, c) isShort
    exact skipString_short hescape hu rest
  | code u => exact skipString_code u rest

/-- The end of a string is found. -/
theorem skipString_pieces (ps : List Piece) (rest : Bytes) :
    skipString (ps.flatMap Piece.toBytes ++ octet '"' :: rest) = .ok rest := by
  induction ps with
  | nil => exact skipString_quote rest
  | cons p ps ih => rw [List.flatMap_cons, List.append_assoc, skipString_piece, ih]

end Muster.Json
