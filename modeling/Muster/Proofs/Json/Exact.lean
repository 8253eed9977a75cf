import Muster.Proofs.Json.Skipped

/-!
# Reading a value takes the value

A reader of values is exact (`IsExact`): if it succeeds on a text that has a value in front, it has
taken that value and nothing else, even where the value is not one that a writer would have written.
-/

namespace Muster.Json

variable {α β : Type} {text rest behind : Bytes}

/-- What succeeds step by step succeeds at its first step. -/
theorem exists_of_bind {ε : Type} {x : Except ε α} {f : α → Except ε β} {b : β}
    (h : x >>= f = .ok b) : ∃ a, x = .ok a ∧ f a = .ok b := by
  cases x with
  | error fault => cases h
  | ok a => exact ⟨a, rfl, h⟩

/-- A reader does not see the blanks in front of a text. -/
def IgnoresBlanks (read : Bytes → β) : Prop :=
  ∀ (gap : Blanks) (text : Bytes), read (gap.octets ++ text) = read text

/-- A reader that succeeds on a text with a value in front has taken the value. -/
def IsExact (read : Bytes → Except Fault (α × Bytes)) : Prop :=
  ∀ ⦃value rest behind : Bytes⦄ ⦃a : α⦄, IsValue value → Goes rest →
    read (value ++ rest) = .ok (a, behind) → behind = rest

/-! ## Kinds of values -/

/-- The first octet of a value tells its kind. -/
theorem IsValue.cases_head {b : UInt8} {more : Bytes} (h : IsValue (b :: more)) :
    (b = octet '"' ∧ ∃ inside, IsInside inside ∧ more = inside ++ [octet '"']) ∨
      (b = octet '[' ∧ ∃ gap elements, (∀ e ∈ elements, IsValue e.value) ∧
        b :: more = arrayText gap elements) ∨
      (b = octet '\x7b' ∧ ∃ gap members, (∀ m ∈ members, IsValue m.value) ∧
        b :: more = objectText gap members) ∨
      ((b = octet '-' ∨ isDigit b = true) ∧ ∃ n : Numeral, b :: more = n.toBytes) ∨
      IsWord (b :: more) := by
  -- The text is a list with a head, but the values are not given as such, so it is named first.
  generalize htext : b :: more = value at h
  cases h with
  | word isWord => exact .inr (.inr (.inr (.inr isWord)))
  | number n =>
    obtain ⟨c, _, hbytes, hc⟩ := n.head
    obtain rfl := (List.cons.inj (htext.trans hbytes)).1
    exact .inr (.inr (.inr (.inl ⟨hc, n, rfl⟩)))
  | string isInside =>
    obtain ⟨rfl, rfl⟩ := List.cons.inj htext
    exact .inl ⟨rfl, _, isInside, rfl⟩
  | array gap elements areValues =>
    exact .inr (.inl ⟨(List.cons.inj htext).1, gap, elements, areValues, rfl⟩)
  | object gap members areValues =>
    exact .inr (.inr (.inl ⟨(List.cons.inj htext).1, gap, members, areValues, rfl⟩))

variable {b : UInt8} {more : Bytes}

/-- A word begins with one of three letters. -/
theorem IsWord.head (h : IsWord (b :: more)) : b ∈ ['n', 't', 'f'].map octet := by
  simp only [IsWord, List.map_cons, List.map_nil, List.mem_cons, List.not_mem_nil, or_false,
    List.cons.injEq] at h
  rcases h with ⟨rfl, -⟩ | ⟨rfl, -⟩ | ⟨rfl, -⟩
  · decide
  · decide
  · decide

/-- A value that begins with a quote is a string. -/
theorem IsValue.of_quote (h : IsValue (octet '"' :: more)) :
    ∃ inside, IsInside inside ∧ more = inside ++ [octet '"'] := by
  rcases h.cases_head with ⟨-, hstring⟩ | ⟨hb, -⟩ | ⟨hb, -⟩ | ⟨hb | hb, -⟩ | hword
  · exact hstring
  · exact absurd hb (by decide)
  · exact absurd hb (by decide)
  · exact absurd hb (by decide)
  · exact absurd hb (by decide)
  · exact absurd hword.head (by decide)

/-- A value that begins with a bracket is an array. -/
theorem IsValue.of_bracket (h : IsValue (octet '[' :: more)) :
    ∃ gap elements, (∀ e ∈ elements, IsValue e.value) ∧
      octet '[' :: more = arrayText gap elements := by
  rcases h.cases_head with ⟨hb, -⟩ | ⟨-, harray⟩ | ⟨hb, -⟩ | ⟨hb | hb, -⟩ | hword
  · exact absurd hb (by decide)
  · exact harray
  · exact absurd hb (by decide)
  · exact absurd hb (by decide)
  · exact absurd hb (by decide)
  · exact absurd hword.head (by decide)

/-- A value that begins with a brace is an object. -/
theorem IsValue.of_brace (h : IsValue (octet '\x7b' :: more)) :
    ∃ gap members, (∀ m ∈ members, IsValue m.value) ∧
      octet '\x7b' :: more = objectText gap members := by
  rcases h.cases_head with ⟨hb, -⟩ | ⟨hb, -⟩ | ⟨-, hobject⟩ | ⟨hb | hb, -⟩ | hword
  · exact absurd hb (by decide)
  · exact absurd hb (by decide)
  · exact hobject
  · exact absurd hb (by decide)
  · exact absurd hb (by decide)
  · exact absurd hword.head (by decide)

/-- A value that begins with a sign or a digit is a numeral. -/
theorem IsValue.of_number (h : IsValue (b :: more))
    (hb : b = octet '-' ∨ isDigit b = true) : ∃ n : Numeral, b :: more = n.toBytes := by
  have hnot : ∀ c ∈ ['"', '[', '\x7b', 'n', 't', 'f'].map octet,
      ¬ (c = octet '-' ∨ isDigit c = true) := by
    decide +kernel
  rcases h.cases_head with ⟨rfl, -⟩ | ⟨rfl, -⟩ | ⟨rfl, -⟩ | ⟨-, hnumber⟩ | hword
  · exact absurd hb (hnot _ (by decide))
  · exact absurd hb (hnot _ (by decide))
  · exact absurd hb (hnot _ (by decide))
  · exact hnumber
  · exact absurd hb (hnot b (List.mem_append_right (['"', '[', '\x7b'].map octet) hword.head))

/-- The only value that begins with an `n` is the word for nothing. -/
theorem IsValue.of_n (h : IsValue (octet 'n' :: more)) : more = ['u', 'l', 'l'].map octet := by
  rcases h.cases_head with ⟨hb, -⟩ | ⟨hb, -⟩ | ⟨hb, -⟩ | ⟨hb | hb, -⟩ | hword
  · exact absurd hb (by decide)
  · exact absurd hb (by decide)
  · exact absurd hb (by decide)
  · exact absurd hb (by decide)
  · exact absurd hb (by decide)
  · simp only [IsWord, List.map_cons, List.map_nil, List.mem_cons, List.not_mem_nil, or_false,
      List.cons.injEq] at hword
    rcases hword with ⟨-, h⟩ | ⟨hb, -⟩ | ⟨hb, -⟩
    · exact h
    · exact absurd hb (by decide)
    · exact absurd hb (by decide)

/-- What is made of a value does not see blanks either. -/
theorem IgnoresBlanks.map {γ : Type} {read : Bytes → β} (h : IgnoresBlanks read) (f : β → γ) :
    IgnoresBlanks fun text => f (read text) :=
  fun gap text => congrArg f (h gap text)

/-- A reader whose value is turned into another is as exact. -/
theorem IsExact.map {read : Bytes → Except Fault (α × Bytes)} (h : IsExact read) (f : α → β) :
    IsExact fun text => (read text).map fun p => (f p.1, p.2) := by
  intro value rest behind b hvalue hrest hread
  dsimp only at hread
  cases hp : read (value ++ rest) with
  | error fault =>
    rw [hp] at hread
    exact absurd hread (by simp [Except.map])
  | ok p =>
    rw [hp] at hread
    have hbehind : p.2 = behind := (Prod.mk.inj (Except.ok.inj hread)).2
    rw [← hbehind]
    exact h hvalue hrest hp

/-! ## Strings -/

/-- A text that is read as the inside of a string ends where skipping it does. -/
theorem skipString_of_readInside {seen inside : Bytes}
    (h : readInside seen text = .ok (inside, rest)) : skipString text = .ok rest := by
  -- The branches that go on or come to the end have cases of their own; all others refuse the text.
  fun_induction readInside seen text with
  | case2 seen rest' =>
    obtain rfl := (Prod.mk.inj (Except.ok.inj h)).2
    exact skipString_quote rest'
  | case9 seen a b c d n hex _ _ a' b' c' d' rest' n' hex' _ _ _ ih =>
    have hfirst := skipString_code ⟨(a, b, c, d), n, hex⟩
      (CodeUnit.toBytes ⟨(a', b', c', d'), n', hex'⟩ ++ rest')
    have hsecond := skipString_code ⟨(a', b', c', d'), n', hex'⟩ rest'
    exact hfirst.trans (hsecond.trans (ih h))
  | case14 seen a b c d rest' n hex _ _ _ ih =>
    rw [← ih h]
    exact skipString_code ⟨(a, b, c, d), n, hex⟩ rest'
  | case16 seen e rest' hu c hescape _ ih => rw [skipString_short hescape hu, ih h]
  | case19 seen b rest' hquote hback hcontrol ih =>
    rw [skipString_plain ⟨hquote, hback, hcontrol⟩, ih h]
  | _ => exact absurd h (by simp)

/-- A string that is read is read to its end. -/
theorem eq_of_readString {inside : Bytes} {s : String} (h : IsInside inside)
    (hread : readString (inside ++ octet '"' :: rest) = .ok (s, behind)) : behind = rest := by
  rw [readString] at hread
  obtain ⟨⟨octets, after⟩, hinside, hread⟩ := exists_of_bind hread
  have hskip := skipString_of_readInside hinside
  rw [skipString_inside h] at hskip
  dsimp only at hread
  split at hread
  · obtain rfl := (Prod.mk.inj (Except.ok.inj hread)).2
    exact (Except.ok.inj hskip).symm
  · cases hread

/-- Blanks in front of a string do not matter. -/
theorem readText_blanks (expected : String) : IgnoresBlanks (readText expected) := by
  intro gap text
  rw [readText, dropBlank_blanks, ← readText]

/-- A string is read exactly. -/
theorem isExact_text (expected : String) : IsExact (readText expected) := by
  intro value rest behind s hvalue _ h
  obtain ⟨b, more, rfl, -⟩ := hvalue.head
  rw [readText, hvalue.dropBlank_append] at h
  dsimp only [List.cons_append] at h
  by_cases hb : b = octet '"'
  · subst hb
    obtain ⟨inside, hinside, rfl⟩ := hvalue.of_quote
    rw [if_pos rfl, List.append_assoc] at h
    exact eq_of_readString hinside h
  · rw [if_neg hb] at h
    exact absurd h (by simp)

/-- Blanks in front of a timestamp do not matter. -/
theorem readTimestamp_blanks : IgnoresBlanks readTimestamp := by
  intro gap text
  rw [readTimestamp, readText_blanks, ← readTimestamp]

/-- A timestamp is read exactly. -/
theorem isExact_timestamp : IsExact readTimestamp := by
  intro value rest behind t hvalue hrest h
  rw [readTimestamp] at h
  obtain ⟨⟨text, after⟩, hread, h⟩ := exists_of_bind h
  have hafter := isExact_text _ hvalue hrest hread
  dsimp only at h
  split at h
  · rw [← hafter]
    exact (Prod.mk.inj (Except.ok.inj h)).2.symm
  · cases h

/-! ## Numbers -/

/-- Behind its sign a negative numeral is its magnitude. -/
theorem Numeral.eq_magnitude_of_sign {n : Numeral} (h : octet '-' :: more = n.toBytes) :
    more = n.magnitude := by
  rw [toBytes] at h
  split at h
  · exact (List.cons.inj h).2
  · obtain ⟨d, ds, hds, hdigit⟩ := n.whole.head
    rw [magnitude, hds] at h
    rw [← (List.cons.inj h).1] at hdigit
    exact absurd hdigit (by decide)

/-- A numeral that does not begin with a sign is its magnitude. -/
theorem Numeral.eq_magnitude_of_digit {n : Numeral} (h : b :: more = n.toBytes)
    (hb : b ≠ octet '-') : b :: more = n.magnitude := by
  rw [toBytes] at h
  split at h
  · exact absurd (List.cons.inj h).1 hb
  · exact h

/-- Blanks in front of an integer do not matter. -/
theorem readInteger_blanks (expected : String) (low high : Int) :
    IgnoresBlanks (readInteger expected low high) := by
  intro gap text
  rw [readInteger, dropBlank_blanks, ← readInteger]

/-- An integer is read behind its sign or from its first digit. -/
theorem of_readInteger {expected : String} {low high i : Int} {b : UInt8} {more : Bytes}
    (htext : dropBlank text = b :: more)
    (h : readInteger expected low high text = .ok (i, behind)) :
    (b = octet '-' ∧ readNumber true more = .ok (.integer i, behind)) ∨
      (b ≠ octet '-' ∧ isDigit b = true ∧
        readNumber false (b :: more) = .ok (.integer i, behind)) := by
  rw [readInteger, htext] at h
  dsimp only at h
  by_cases hsign : b = octet '-'
  -- Behind a sign the magnitude is read, and what it comes to is in range.
  · rw [if_pos hsign] at h
    obtain ⟨⟨number, after⟩, hnumber, h⟩ := exists_of_bind h
    cases number with
    | float f => cases h
    | integer j =>
      dsimp only at h
      split at h
      · obtain ⟨rfl, rfl⟩ := Prod.mk.inj (Except.ok.inj h)
        exact .inl ⟨hsign, hnumber⟩
      · cases h
  · rw [if_neg hsign] at h
    -- Without a sign the text has to begin with a digit.
    by_cases hdigit : isDigit b = true
    · rw [if_pos hdigit] at h
      obtain ⟨⟨number, after⟩, hnumber, h⟩ := exists_of_bind h
      cases number with
      | float f => cases h
      | integer j =>
        dsimp only at h
        split at h
        · obtain ⟨rfl, rfl⟩ := Prod.mk.inj (Except.ok.inj h)
          exact .inr ⟨hsign, hdigit, hnumber⟩
        · cases h
    · rw [if_neg hdigit] at h
      cases h

/-- An integer is read exactly: one with a fraction or an exponent is not taken for an integer. -/
theorem isExact_integer (expected : String) (low high : Int) :
    IsExact (readInteger expected low high) := by
  intro value rest behind i hvalue hrest h
  obtain ⟨b, more, rfl, -⟩ := hvalue.head
  have htext : dropBlank (b :: more ++ rest) = b :: (more ++ rest) := hvalue.dropBlank_append rest
  obtain ⟨hsign, hnumber⟩ | ⟨hsign, hdigit, hnumber⟩ := of_readInteger htext h
  · obtain ⟨n, hn⟩ := hvalue.of_number (.inl hsign)
    subst hsign
    rw [n.eq_magnitude_of_sign hn] at hnumber
    exact n.eq_of_readNumber hrest hnumber
  · obtain ⟨n, hn⟩ := hvalue.of_number (.inr hdigit)
    rw [← List.cons_append, n.eq_magnitude_of_digit hn hsign] at hnumber
    exact n.eq_of_readNumber hrest hnumber

/-- Blanks in front of a number of 16 bits do not matter. -/
theorem readUInt16_blanks : IgnoresBlanks readUInt16 := by
  intro gap text
  rw [readUInt16, readInteger_blanks, ← readUInt16]

/-- A number of 16 bits is read exactly. -/
theorem isExact_uint16 : IsExact readUInt16 := by
  intro value rest behind p hvalue hrest h
  rw [readUInt16] at h
  obtain ⟨⟨n, after⟩, hread, h⟩ := exists_of_bind h
  rw [← isExact_integer _ _ _ hvalue hrest hread]
  exact (Prod.mk.inj (Except.ok.inj h)).2.symm

/-! ## Names of a type -/

/-- A name that is read ends where its string ends. -/
theorem eq_of_readName {named? : String → Option α} {names : List String} {inside : Bytes} {a : α}
    (h : IsInside inside)
    (hread : readName named? names (inside ++ octet '"' :: rest) = .ok (a, behind)) :
    behind = rest := by
  rw [readName] at hread
  obtain ⟨⟨s, after⟩, hstring, hread⟩ := exists_of_bind hread
  have hafter := eq_of_readString h hstring
  dsimp only at hread
  split at hread
  · rw [← hafter]
    exact (Prod.mk.inj (Except.ok.inj hread)).2.symm
  · cases hread

/-- A value that is read as the word for nothing is that word. -/
theorem eq_of_readNull {value : Bytes} (hvalue : IsValue value)
    (h : readNull (value ++ rest) = .ok behind) : behind = rest := by
  obtain ⟨b, more, rfl, -⟩ := hvalue.head
  rw [readNull, hvalue.dropBlank_append] at h
  dsimp only [List.cons_append] at h
  by_cases hb : b = octet 'n'
  · subst hb
    rw [if_pos rfl, hvalue.of_n, dropWord_append] at h
    exact (Except.ok.inj h).symm
  · rw [if_neg hb] at h
    exact absurd h (by simp)

/-- Blanks in front of a colon do not matter. -/
theorem readColon_blanks (gap : Blanks) (text : Bytes) :
    readColon (gap.octets ++ octet ':' :: text) = .ok text := by
  rw [readColon, dropBlank_blanks, dropBlank_cons (by decide)]
  exact if_pos rfl

/-- Blanks in front of the word for nothing do not matter. -/
theorem readNull_blanks : IgnoresBlanks readNull := by
  intro gap text
  rw [readNull, dropBlank_blanks, ← readNull]

/-- A member in front of a text, split at its name. -/
theorem Member.toBytes_append (m : Member) (text : Bytes) :
    m.toBytes ++ text = m.before.octets ++ octet '"' :: (m.name ++ octet '"' ::
      (m.afterName.octets ++ octet ':' :: (m.element.toBytes ++ text))) := by
  simp [toBytes, label]

/-- The parts of an element, with a text behind them. -/
theorem Element.toBytes_append (e : Element) (text : Bytes) :
    e.toBytes ++ text = e.before.octets ++ (e.value ++ (e.after.octets ++ text)) := by
  simp [toBytes]

/-- Blanks in front of a choice do not matter. -/
theorem readChoice_blanks (named? : String → Option α) (names : List String) :
    IgnoresBlanks (readChoice named? names) := by
  intro gap text
  rw [readChoice, dropBlank_blanks, ← readChoice]

/-- A choice that is read from an object has the end of the object behind the first member. -/
theorem dropBlank_of_readChoice {named? : String → Option α} {names : List String} {a : α}
    {gap : Blanks} {m : Member} {tail : Bytes} (hvalue : IsValue m.value)
    (h : readChoice named? names (octet '\x7b' :: (gap.octets ++ (m.toBytes ++ tail))) =
      .ok (a, behind)) : dropBlank tail = octet '\x7d' :: behind := by
  rw [readChoice, dropBlank_cons (by decide)] at h
  -- One after the other: the brace, the name, the colon, the word for nothing.
  dsimp only at h
  rw [show Char.ofUInt8 (octet '\x7b') = '\x7b' from rfl, m.toBytes_append,
    m.element.toBytes_append, dropBlank_blanks, dropBlank_blanks, dropBlank_cons (by decide)] at h
  dsimp only at h
  rw [show Char.ofUInt8 (octet '"') = '"' from rfl] at h
  simp only at h
  obtain ⟨⟨chosen, after⟩, hname, h⟩ := exists_of_bind h
  rw [eq_of_readName m.isInside hname] at h
  obtain ⟨after, hcolon, h⟩ := exists_of_bind h
  rw [readColon_blanks] at hcolon
  obtain rfl := Except.ok.inj hcolon
  obtain ⟨after, hnull, h⟩ := exists_of_bind h
  rw [readNull_blanks] at hnull
  rw [eq_of_readNull hvalue hnull, dropBlank_blanks] at h
  -- What is left has to close the object.
  cases htail : dropBlank tail with
  | nil =>
    rw [htail] at h
    cases h
  | cons b more =>
    rw [htail] at h
    dsimp only at h
    by_cases hb : b = octet '\x7d'
    · rw [if_pos hb] at h
      rw [hb, (Prod.mk.inj (Except.ok.inj h)).2]
    · rw [if_neg hb] at h
      cases h

/-- An object without members is no choice. -/
theorem not_readChoice_empty {named? : String → Option α} {names : List String} {gap : Blanks}
    {tail : Bytes} : readChoice named? names
      (octet '\x7b' :: (gap.octets ++ octet '\x7d' :: tail)) = .error .expectedValue := by
  rw [readChoice, dropBlank_cons (by decide)]
  dsimp only
  rw [show Char.ofUInt8 (octet '\x7b') = '\x7b' from rfl, dropBlank_blanks,
    dropBlank_cons (by decide)]
  dsimp only
  rw [show Char.ofUInt8 (octet '\x7d') = '\x7d' from rfl]
  rfl

/-- A choice is read exactly, be it a string or an object with one member. -/
theorem isExact_choice (named? : String → Option α) (names : List String) :
    IsExact (readChoice named? names) := by
  intro value rest behind a hvalue hrest h
  obtain ⟨b, more, rfl, -⟩ := hvalue.head
  have hchoice := h
  rw [readChoice, hvalue.dropBlank_append] at h
  dsimp only [List.cons_append] at h
  split at h
  · rename_i hb
    obtain rfl := eq_octet_of_ofUInt8 hb
    obtain ⟨inside, hinside, rfl⟩ := hvalue.of_quote
    rw [List.append_assoc] at h
    exact eq_of_readName hinside h
  · rename_i hb
    obtain rfl := eq_octet_of_ofUInt8 hb
    obtain ⟨gap, members, areValues, htext⟩ := hvalue.of_brace
    rw [htext] at hchoice
    cases members with
    | nil =>
      rw [show objectText gap [] ++ rest = octet '\x7b' :: (gap.octets ++ octet '\x7d' :: rest) by
        simp [objectText, commas], not_readChoice_empty] at hchoice
      cases hchoice
    | cons m members =>
      rw [show objectText gap (m :: members) ++ rest = octet '\x7b' :: (gap.octets ++ (m.toBytes ++
        (commaTail (members.map Member.toBytes) ++ octet '\x7d' :: rest))) by
          simp [objectText, commas_cons]] at hchoice
      -- A second member would stand where the end of the object has to be.
      have hend := dropBlank_of_readChoice (areValues m List.mem_cons_self) hchoice
      cases members with
      | nil =>
        rw [List.map_nil, show commaTail [] = [] from rfl, List.nil_append,
          dropBlank_cons (by decide)] at hend
        exact (List.cons.inj hend).2.symm
      | cons n members =>
        rw [List.map_cons, commaTail_cons, List.cons_append, dropBlank_cons (by decide)] at hend
        exact absurd (List.cons.inj hend).1 (by decide)
  · cases h

end Muster.Json
