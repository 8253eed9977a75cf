import Muster.Proofs.Json.Values

/-!
# Values are skipped

A value is skipped token by token, with the brackets that are open in a list. `IsSkipped` says that
some number of steps leads from the front of a value to the text behind it, whatever brackets are
open around it. Inside a bracket such runs are put together entry by entry up to its end
(`closes_tail`), so by induction every value is skipped (`IsValue.isSkipped`). It takes no more
steps than the value has octets, which is why the text may bound the steps.
-/

namespace Muster.Json

variable {text next rest : Bytes} {bracket : Bracket} {outer : List Bracket}

/-! ## Strings and words -/

/-- The inside of a string is skipped to its closing quote. -/
theorem skipString_inside {inside : Bytes} (h : IsInside inside) (rest : Bytes) :
    skipString (inside ++ octet '"' :: rest) = .ok rest := by
  obtain ⟨pieces, rfl⟩ := h
  exact skipString_pieces pieces rest

/-- A word that is expected is taken off the front. -/
theorem dropWord_append (word : List Char) (rest : Bytes) :
    dropWord word (word.map octet ++ rest) = .ok rest := by
  induction word with
  | nil => rfl
  | cons c word ih =>
    rw [List.map_cons, List.cons_append, dropWord, if_pos rfl]
    exact ih

/-! ## The front of a value -/

/-- The first of some digits. -/
theorem Digits.head (ds : Digits) : ∃ d more, ds.octets = d :: more ∧ isDigit d = true := by
  obtain ⟨d, more, hds⟩ := List.exists_cons_of_ne_nil ds.ne_nil
  exact ⟨d, more, hds, ds.areDigits d (hds ▸ List.mem_cons_self)⟩

/-- What separates values is not a digit. -/
theorem isDigit_of_mem_separators : ∀ b ∈ separators, isDigit b = false := by
  decide +kernel

/-- A numeral begins with a sign or a digit. -/
theorem Numeral.head (n : Numeral) :
    ∃ b more, n.toBytes = b :: more ∧ (b = octet '-' ∨ isDigit b = true) := by
  obtain ⟨d, more, hds, hdigit⟩ := n.whole.head
  rw [toBytes, magnitude, hds]
  cases n.isNegative with
  | false => exact ⟨d, _, rfl, .inr hdigit⟩
  | true => exact ⟨octet '-', _, rfl, .inl rfl⟩

/-- A value begins with an octet that separates no values. -/
theorem IsValue.head {value : Bytes} (h : IsValue value) :
    ∃ b more, value = b :: more ∧ b ∉ separators := by
  cases h with
  -- Three words, and each begins with a letter.
  | word isWord =>
    simp only [IsWord, List.map_cons, List.map_nil, List.mem_cons, List.not_mem_nil, or_false]
      at isWord
    rcases isWord with rfl | rfl | rfl
    · exact ⟨octet 'n', _, rfl, by decide⟩
    · exact ⟨octet 't', _, rfl, by decide⟩
    · exact ⟨octet 'f', _, rfl, by decide⟩
  | number n =>
    obtain ⟨b, more, hbytes, hb⟩ := n.head
    refine ⟨b, more, hbytes, fun hmem => ?_⟩
    rcases hb with rfl | hdigit
    · exact absurd hmem (by decide)
    · rw [isDigit_of_mem_separators b hmem] at hdigit
      exact absurd hdigit (by decide)
  | string _ => exact ⟨octet '"', _, rfl, by decide⟩
  | array gap elements _ => exact ⟨octet '[', _, rfl, by decide⟩
  | object gap members _ => exact ⟨octet '\x7b', _, rfl, by decide⟩

/-- A value is not empty. -/
theorem IsValue.ne_nil {value : Bytes} (h : IsValue value) : value ≠ [] := by
  obtain ⟨b, more, rfl, -⟩ := h.head
  exact List.cons_ne_nil b more

/-- No blank is in front of a value. -/
theorem IsValue.dropBlank_append {value : Bytes} (h : IsValue value) (rest : Bytes) :
    dropBlank (value ++ rest) = value ++ rest := by
  obtain ⟨b, more, rfl, hb⟩ := h.head
  refine dropBlank_cons ?_ (more ++ rest)
  rw [Bool.eq_false_iff]
  exact fun hblank => hb (mem_separators_of_isBlank hblank)

/-! ## Steps -/

/-- Goes on behind a value inside of brackets. -/
def skipOn (bound : Bytes) (outer : List Bracket) (text : Bytes) : Except Fault Bytes := do
  match ← closeBrackets outer text with
  | ([], rest) => return rest
  | (.array :: outer, rest) => skipWithin bound (.array :: outer) rest
  | (.object :: outer, rest) => skipWithin bound (.object :: outer) (← skipName rest)

/-- The value in front of a text that follows a bracket or a comma: in an object its name comes
first. -/
def Bracket.enter : Bracket → Bytes → Except Fault Bytes
  | .array, text => .ok text
  | .object, text => skipName text

/-- Blanks are dropped at once. -/
theorem dropBlank_dropBlank (text : Bytes) : dropBlank (dropBlank text) = dropBlank text := by
  induction text with
  | nil => rfl
  | cons b text ih =>
    cases hb : isBlank b with
    | true =>
      have hdrop : dropBlank (b :: text) = dropBlank text := List.dropWhile_cons_of_pos hb
      rw [hdrop, ih]
    | false => rw [dropBlank_cons hb, dropBlank_cons hb]

/-- A token is skipped regardless of the blanks in front. -/
theorem skipToken_congr (h : dropBlank text = dropBlank next) :
    skipToken text = skipToken next := by
  rw [skipToken, h, ← skipToken]

/-- So is the name of a member. -/
theorem skipName_congr (h : dropBlank text = dropBlank next) : skipName text = skipName next := by
  rw [skipName, h, ← skipName]

/-- So are values inside of brackets. -/
theorem skipWithin_congr (h : dropBlank text = dropBlank next) (bound : Bytes) :
    skipWithin bound outer text = skipWithin bound outer next := by
  cases bound with
  | nil => rfl
  | cons b bound => rw [skipWithin, skipToken_congr h, ← skipWithin]

/-- A value without brackets is a single step. -/
theorem skipWithin_token (h : skipToken text = .ok (none, rest)) (b : UInt8) (bound : Bytes) :
    skipWithin (b :: bound) outer text = skipOn bound outer rest := by
  rw [skipWithin, h]
  rfl

/-- An empty bracket is a single step. -/
theorem skipWithin_empty (h : skipToken text = .ok (some bracket, next))
    (hclose : dropBlank next = octet bracket.close :: rest) (b : UInt8) (bound : Bytes) :
    skipWithin (b :: bound) outer text = skipOn bound outer rest := by
  have hafter : afterToken (some bracket) outer next = closeBrackets outer rest := by
    rw [afterToken, hclose]
    exact if_pos rfl
  rw [skipWithin, h]
  simp only [bind, Except.bind]
  rw [hafter]
  rfl

/-- A bracket is opened. -/
theorem skipWithin_opens {b : UInt8} {more inside inner : Bytes}
    (h : skipToken text = .ok (some bracket, next)) (hnext : dropBlank next = dropBlank inside)
    (hinside : dropBlank inside = b :: more) (hb : b ≠ octet bracket.close)
    (henter : bracket.enter inside = .ok inner) (c : UInt8) (bound : Bytes) :
    skipWithin (c :: bound) outer text = skipWithin bound (bracket :: outer) inner := by
  have hafter : afterToken (some bracket) outer next = .ok (bracket :: outer, b :: more) := by
    rw [afterToken, hnext, hinside]
    exact if_neg hb
  -- The step drops the blanks in front of what is inside, and nothing behind it sees them.
  have hdrop : dropBlank (b :: more) = dropBlank inside := by rw [← hinside, dropBlank_dropBlank]
  rw [skipWithin, h]
  simp only [bind, Except.bind]
  rw [hafter]
  cases bracket with
  | array =>
    obtain rfl := Except.ok.inj henter
    exact skipWithin_congr hdrop bound
  | object =>
    rw [Bracket.enter, ← skipName_congr hdrop] at henter
    dsimp only
    rw [henter]

/-- A comma leads to the next value in a bracket. -/
theorem skipOn_comma {inner : Bytes} (h : dropBlank text = octet ',' :: next)
    (henter : bracket.enter next = .ok inner) (bound : Bytes) :
    skipOn bound (bracket :: outer) text = skipWithin bound (bracket :: outer) inner := by
  have hclose : closeBrackets (bracket :: outer) text = .ok (bracket :: outer, next) := by
    rw [closeBrackets, h]
    exact if_pos rfl
  rw [skipOn, hclose]
  cases bracket with
  | array =>
    obtain rfl := Except.ok.inj henter
    rfl
  | object =>
    -- In an object the name is skipped as well.
    rw [Bracket.enter] at henter
    simp only [bind, Except.bind]
    rw [henter]

/-- Behind the end of a bracket it goes on outside. -/
theorem skipOn_close (h : dropBlank text = octet bracket.close :: rest) (bound : Bytes) :
    skipOn bound (bracket :: outer) text = skipOn bound outer rest := by
  have hclose : closeBrackets (bracket :: outer) text = closeBrackets outer rest := by
    rw [closeBrackets, h]
    dsimp only
    rw [if_neg (by cases bracket <;> decide), if_pos rfl]
  rw [skipOn, hclose, ← skipOn]

/-! ## Runs -/

/-- Some number of steps leads from the front of a value to the text behind it. -/
def IsSkipped (value : Bytes) : Prop :=
  ∃ n, n ≤ value.length ∧ ∀ rest, Goes rest → ∀ bound outer, n ≤ bound.length →
    skipWithin bound outer (value ++ rest) = skipOn (bound.drop n) outer rest

/-- An element stands behind what leads to it in a bracket. -/
structure IsEntry (bracket : Bracket) (lead : Bytes) (e : Element) : Prop where
  /-- What leads to it is passed over. -/
  enters : ∀ text, bracket.enter (lead ++ text) = .ok text
  /-- It is not taken for the end of the bracket. -/
  begins : ∀ text, ∃ b more, dropBlank (lead ++ (e.toBytes ++ text)) = b :: more ∧
    b ≠ octet bracket.close

/-- An entry as it is written. -/
def entryText (p : Bytes × Element) : Bytes :=
  p.1 ++ p.2.toBytes

/-- Behind an entry comes a blank, a comma or the closing bracket. -/
theorem goes_entries (bracket : Bracket) (gap : Blanks) (pieces : List Bytes) (rest : Bytes) :
    Goes (gap.octets ++ (commaTail pieces ++ octet bracket.close :: rest)) :=
  goes_blanks gap (goes_commaTail pieces (by cases bracket <;> decide) rest)

/-- The element in front of a text is skipped inside of brackets. -/
theorem skipWithin_element {e : Element} {n : Nat} (hgoes : Goes (e.after.octets ++ rest))
    (hskip : ∀ rest, Goes rest → ∀ bound outer, n ≤ bound.length →
      skipWithin bound outer (e.value ++ rest) = skipOn (bound.drop n) outer rest)
    {bound : Bytes} (hn : n ≤ bound.length) :
    skipWithin bound outer (e.toBytes ++ rest) =
      skipOn (bound.drop n) outer (e.after.octets ++ rest) := by
  have hbytes : e.toBytes ++ rest = e.before.octets ++ (e.value ++ (e.after.octets ++ rest)) := by
    simp only [Element.toBytes, List.append_assoc]
  rw [hbytes, skipWithin_congr (dropBlank_blanks e.before _) bound]
  exact hskip _ hgoes bound outer hn

/-- A closing bracket is not a blank. -/
theorem isBlank_close (bracket : Bracket) : isBlank (octet bracket.close) = false := by
  cases bracket with
  | array => decide
  | object => decide

/-- Behind a value inside of a bracket, the other entries are skipped up to the end of the
bracket. -/
theorem closes_tail {entries : List (Bytes × Element)}
    (hentry : ∀ p ∈ entries, IsEntry bracket p.1 p.2)
    (hskips : ∀ p ∈ entries, IsSkipped p.2.value) :
    ∃ n, n ≤ (commaTail (entries.map entryText)).length ∧ ∀ (gap : Blanks) rest bound outer,
      n ≤ bound.length → skipOn bound (bracket :: outer)
        (gap.octets ++ (commaTail (entries.map entryText) ++ octet bracket.close :: rest)) =
          skipOn (bound.drop n) outer rest := by
  induction entries with
  | nil =>
    refine ⟨0, Nat.le_refl _, fun gap rest bound outer _ => ?_⟩
    refine skipOn_close ?_ bound
    rw [dropBlank_blanks]
    exact dropBlank_cons (isBlank_close bracket) rest
  | cons p entries ih =>
    obtain ⟨n, hn, hskip⟩ := hskips p List.mem_cons_self
    obtain ⟨m, hm, hcloses⟩ := ih (fun q hq => hentry q (List.mem_cons_of_mem _ hq))
      (fun q hq => hskips q (List.mem_cons_of_mem _ hq))
    -- The steps of the first entry are followed by those that are left up to the end.
    refine ⟨n + m, ?_, fun gap rest bound outer hbound => ?_⟩
    · rw [List.map_cons, commaTail_cons]
      simp only [entryText, Element.toBytes, List.length_cons, List.length_append]
      omega
    · have htext : commaTail ((p :: entries).map entryText) ++ octet bracket.close :: rest =
          octet ',' :: (p.1 ++ (p.2.toBytes ++
            (commaTail (entries.map entryText) ++ octet bracket.close :: rest))) := by
        simp only [List.map_cons, commaTail_cons, entryText, List.cons_append, List.append_assoc]
      have hcomma : dropBlank (gap.octets ++ (octet ',' :: (p.1 ++ (p.2.toBytes ++
          (commaTail (entries.map entryText) ++ octet bracket.close :: rest))))) =
            octet ',' :: (p.1 ++ (p.2.toBytes ++
              (commaTail (entries.map entryText) ++ octet bracket.close :: rest))) := by
        rw [dropBlank_blanks, dropBlank_cons (by decide)]
      rw [htext, skipOn_comma hcomma ((hentry p List.mem_cons_self).enters _),
        skipWithin_element (goes_entries bracket _ _ rest) hskip (by omega),
        hcloses _ _ _ _ (by rw [List.length_drop]; omega), List.drop_drop]

/-- A bracket with its entries is skipped. -/
theorem isSkipped_bracket (bracket : Bracket) (open? : UInt8) (gap : Blanks)
    (entries : List (Bytes × Element))
    (hopen : ∀ text, skipToken (open? :: text) = .ok (some bracket, text))
    (hentry : ∀ p ∈ entries, IsEntry bracket p.1 p.2)
    (hskips : ∀ p ∈ entries, IsSkipped p.2.value) :
    IsSkipped (open? :: (gap.octets ++
      (commas (entries.map entryText) ++ [octet bracket.close]))) := by
  cases entries with
  | nil =>
    refine ⟨1, by simp, fun rest _ bound outer hbound => ?_⟩
    cases bound with
    | nil => exact absurd hbound (by simp)
    | cons b bound =>
      refine skipWithin_empty (hopen _) ?_ b bound
      show dropBlank (gap.octets ++ [octet bracket.close] ++ rest) = _
      rw [List.append_assoc, dropBlank_blanks]
      exact dropBlank_cons (isBlank_close bracket) rest
  | cons p entries =>
    obtain ⟨n, hn, hskip⟩ := hskips p List.mem_cons_self
    obtain ⟨m, hm, hcloses⟩ := closes_tail (fun q hq => hentry q (List.mem_cons_of_mem _ hq))
      (fun q hq => hskips q (List.mem_cons_of_mem _ hq))
    -- One more step opens the bracket; its octet pays for it.
    refine ⟨n + m + 1, ?_, fun rest _ bound outer hbound => ?_⟩
    · rw [List.map_cons, commas_cons]
      simp only [entryText, Element.toBytes, List.length_cons, List.length_append] at hm ⊢
      omega
    · cases bound with
      | nil => exact absurd hbound (by simp)
      | cons b bound =>
        rw [List.length_cons] at hbound
        obtain ⟨henters, hbegins⟩ := hentry p List.mem_cons_self
        obtain ⟨c, more, hc, hne⟩ :=
          hbegins (commaTail (entries.map entryText) ++ octet bracket.close :: rest)
        have htext : gap.octets ++ (commas ((p :: entries).map entryText) ++
            [octet bracket.close]) ++ rest = gap.octets ++ (p.1 ++ (p.2.toBytes ++
              (commaTail (entries.map entryText) ++ octet bracket.close :: rest))) := by
          simp [commas_cons, entryText]
        rw [List.cons_append, htext,
          skipWithin_opens (hopen _) (dropBlank_blanks gap _) hc hne (henters _) b bound,
          skipWithin_element (goes_entries bracket _ _ rest) hskip (by omega),
          hcloses _ _ _ _ (by rw [List.length_drop]; omega), List.drop_drop]
        rfl

/-! ## Values -/

/-- A value that is a single token is skipped. -/
theorem isSkipped_token {value : Bytes} (hne : value ≠ [])
    (h : ∀ rest, Goes rest → skipToken (value ++ rest) = .ok (none, rest)) : IsSkipped value := by
  refine ⟨1, List.length_pos_iff.2 hne, fun rest hrest bound outer hbound => ?_⟩
  cases bound with
  | nil => exact absurd hbound (by simp)
  | cons b bound => exact skipWithin_token (h rest hrest) b bound

/-- A word is a single token. -/
theorem skipToken_word {word : Bytes} (h : IsWord word) (rest : Bytes) :
    skipToken (word ++ rest) = .ok (none, rest) := by
  simp only [IsWord, List.map_cons, List.map_nil, List.mem_cons, List.not_mem_nil, or_false] at h
  -- All that follows the first letter is expected as it is.
  rcases h with rfl | rfl | rfl
  · show (do return (none, ← dropWord ['u', 'l', 'l'] (['u', 'l', 'l'].map octet ++ rest))) = _
    rw [dropWord_append]
    rfl
  · show (do return (none, ← dropWord ['r', 'u', 'e'] (['r', 'u', 'e'].map octet ++ rest))) = _
    rw [dropWord_append]
    rfl
  · show (do return (none, ←
      dropWord ['a', 'l', 's', 'e'] (['a', 'l', 's', 'e'].map octet ++ rest))) = _
    rw [dropWord_append]
    rfl

/-- A numeral is a single token. -/
theorem skipToken_number (n : Numeral) (hrest : Goes rest) :
    skipToken (n.toBytes ++ rest) = .ok (none, rest) := by
  have hskip := n.skipNumber_magnitude hrest
  rw [Numeral.toBytes]
  cases n.isNegative with
  | true =>
    show (do return (none, ← skipNumber (n.magnitude ++ rest))) = _
    rw [hskip]
    rfl
  | false =>
    obtain ⟨d, more, hds, hdigit⟩ := n.whole.head
    have htext : n.magnitude ++ rest = d :: (more ++ (n.fractionBytes ++ rest)) := by
      simp [Numeral.magnitude, hds]
    rw [if_neg (by decide)]
    rw [htext] at hskip ⊢
    rw [skipToken, dropBlank_cons (isBlank_of_isDigit hdigit).1]
    dsimp only
    -- No other token begins with a digit.
    split
    · exact absurd ‹_› (ofUInt8_ne_of_isDigit hdigit (by decide))
    · exact absurd ‹_› (ofUInt8_ne_of_isDigit hdigit (by decide))
    · exact absurd ‹_› (ofUInt8_ne_of_isDigit hdigit (by decide))
    · exact absurd ‹_› (ofUInt8_ne_of_isDigit hdigit (by decide))
    · exact absurd ‹_› (ofUInt8_ne_of_isDigit hdigit (by decide))
    · exact absurd ‹_› (ofUInt8_ne_of_isDigit hdigit (by decide))
    · exact absurd ‹_› (ofUInt8_ne_of_isDigit hdigit (by decide))
    · rw [if_pos hdigit, hskip]
      rfl

/-- An element of an array stands behind nothing. -/
theorem isEntry_element {e : Element} (h : IsValue e.value) : IsEntry .array [] e where
  enters _ := rfl
  begins text := by
    obtain ⟨b, more, hvalue, hb⟩ := h.head
    refine ⟨b, more ++ (e.after.octets ++ text), ?_, ?_⟩
    · have hdrop := h.dropBlank_append (e.after.octets ++ text)
      rw [List.nil_append, Element.toBytes, List.append_assoc, dropBlank_blanks, List.append_assoc,
        hdrop, hvalue]
      rfl
    · rintro rfl
      exact hb (by decide)

/-- The name of a member and its colon are passed over. -/
theorem skipName_label (m : Member) (text : Bytes) : skipName (m.label ++ text) = .ok text := by
  have hlabel : m.label ++ text = m.before.octets ++ (octet '"' :: (m.name ++ (octet '"' ::
      (m.afterName.octets ++ (octet ':' :: text))))) := by
    simp [Member.label]
  rw [hlabel, skipName, dropBlank_blanks, dropBlank_cons (by decide)]
  dsimp only
  rw [if_neg (by simp), skipString_inside m.isInside]
  simp only [bind, Except.bind, dropBlank_blanks]
  rw [dropBlank_cons (by decide)]
  rfl

/-- The value of a member stands behind its name and the colon. -/
theorem isEntry_member (m : Member) : IsEntry .object m.label m.element where
  enters text := skipName_label m text
  begins text := by
    refine ⟨octet '"', m.name ++ octet '"' :: (m.afterName.octets ++
      octet ':' :: (m.element.toBytes ++ text)), ?_, by decide⟩
    simp only [Member.label, List.append_assoc, dropBlank_blanks, List.cons_append]
    rw [dropBlank_cons (by decide)]
    rfl

/-- **Every value is skipped**, however its brackets are nested. -/
theorem IsValue.isSkipped {value : Bytes} (h : IsValue value) : IsSkipped value := by
  induction h with
  | word isWord =>
    exact isSkipped_token (IsValue.word isWord).ne_nil fun rest _ => skipToken_word isWord rest
  | number n =>
    exact isSkipped_token (IsValue.number n).ne_nil fun rest hrest => skipToken_number n hrest
  | string isInside =>
    refine isSkipped_token (List.cons_ne_nil _ _) fun rest _ => ?_
    -- The opening quote has been read, and the rest is skipped to the closing one.
    show (do return (none, ← skipString (_ ++ [octet '"'] ++ rest))) = _
    rw [List.append_assoc, List.singleton_append, skipString_inside isInside]
    rfl
  -- The elements of an array are entries with nothing in front of them.
  | array gap elements areValues ih =>
    have hskipped := isSkipped_bracket .array (octet '[') gap (elements.map fun e => ([], e))
      (fun _ => rfl)
      (List.forall_mem_map.2 fun e he => isEntry_element (areValues e he))
      (List.forall_mem_map.2 ih)
    rwa [List.map_map] at hskipped
  -- The members of an object are entries behind their names.
  | object gap members areValues ih =>
    have hskipped := isSkipped_bracket .object (octet '\x7b') gap
      (members.map fun m => (m.label, m.element)) (fun _ => rfl)
      (List.forall_mem_map.2 fun m _ => isEntry_member m) (List.forall_mem_map.2 ih)
    rwa [List.map_map] at hskipped

/-- A value behind blanks is skipped. -/
theorem IsValue.skipValue {value : Bytes} (h : IsValue value) (gap : Blanks) (hrest : Goes rest) :
    skipValue (gap.octets ++ (value ++ rest)) = .ok rest := by
  obtain ⟨n, hn, hskip⟩ := h.isSkipped
  rw [Json.skipValue, skipWithin_congr (dropBlank_blanks gap _),
    hskip rest hrest _ [] (by simp only [List.length_append]; omega)]
  rfl

end Muster.Json
