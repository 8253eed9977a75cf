import Muster.Proofs.Json.Exact

/-!
# Arrays and objects laid out in any way

An array or an object that is read may have blanks between any two of its tokens, and the members of
an object may come in any order and among members of other names. What its members do to a draft is
told by `Taken`, member by member: one whose name is that of a field has to find the field unset and
sets it, any other leaves the draft as it is. An object is read if its members are taken
(`readMembers_of_taken`), and it is read in no other case (`taken_of_readMembers`), so reading an
array or an object is exact as well.
-/

namespace Muster.Json

variable {α δ : Type} {rest behind : Bytes}

/-! ## What is left of an array or an object -/

/-- The text inside of a bracket, up to its end and what stands behind it, where some pieces are
left: in front of all of them or behind another one. -/
def left (bracket : Bracket) (first : Bool) (gap : Blanks) (pieces : List Bytes) (rest : Bytes) :
    Bytes :=
  gap.octets ++ ((if first then commas pieces else commaTail pieces) ++ octet bracket.close :: rest)

section Left

variable {bracket : Bracket} {first : Bool} {gap : Blanks} {pieces : List Bytes}

/-- Where no piece is left, the closing bracket comes next. -/
theorem dropBlank_left_nil : dropBlank (left bracket first gap [] rest) =
    octet bracket.close :: rest := by
  rw [left, dropBlank_blanks]
  cases first with
  | false => exact dropBlank_cons (isBlank_close bracket) rest
  | true => exact dropBlank_cons (isBlank_close bracket) rest

/-- In front of all pieces the first one comes next. -/
theorem dropBlank_left_first (piece : Bytes) :
    dropBlank (left bracket true gap (piece :: pieces) rest) =
      dropBlank (piece ++ (commaTail pieces ++ octet bracket.close :: rest)) := by
  rw [left, dropBlank_blanks, if_pos rfl, commas_cons, List.append_assoc]

/-- Behind a piece a comma and the next piece come next. -/
theorem dropBlank_left_comma (piece : Bytes) :
    dropBlank (left bracket false gap (piece :: pieces) rest) =
      octet ',' :: (piece ++ (commaTail pieces ++ octet bracket.close :: rest)) := by
  rw [left, dropBlank_blanks, if_neg (by decide), commaTail_cons, List.cons_append,
    dropBlank_cons (by decide), List.append_assoc]

/-- What is left behind a piece is a place where a value may end. -/
theorem goes_left (bracket : Bracket) (gap : Blanks) (pieces : List Bytes) (rest : Bytes) :
    Goes (left bracket false gap pieces rest) :=
  goes_entries bracket gap pieces rest

/-- The text bounds the number of pieces. -/
theorem length_left (bracket : Bracket) (first : Bool) (gap : Blanks) (rest : Bytes)
    (h : ∀ piece ∈ pieces, piece ≠ []) :
    pieces.length < (left bracket first gap pieces rest).length := by
  -- A comma stands in front of each piece but the first, and the first is not empty.
  have hlength : pieces.length ≤ (if first then commas pieces else commaTail pieces).length := by
    cases first with
    | false => exact length_le_commaTail pieces
    | true =>
      cases pieces with
      | nil => exact Nat.le_refl 0
      | cons piece pieces =>
        have hpiece := List.length_pos_iff.2 (h piece List.mem_cons_self)
        have htail := length_le_commaTail pieces
        rw [if_pos rfl, commas_cons, List.length_append, List.length_cons]
        omega
  rw [left]
  simp only [List.length_append, List.length_cons]
  omega

end Left

/-- Behind its bracket an array is all of its elements. -/
theorem arrayText_append (gap : Blanks) (elements : List Element) (rest : Bytes) :
    arrayText gap elements ++ rest =
      octet '[' :: left .array true gap (elements.map Element.toBytes) rest := by
  simp [arrayText, left, Bracket.close]

/-- Behind its brace an object is all of its members. -/
theorem objectText_append (gap : Blanks) (members : List Member) (rest : Bytes) :
    objectText gap members ++ rest =
      octet '\x7b' :: left .object true gap (members.map Member.toBytes) rest := by
  simp [objectText, left, Bracket.close]

/-! ## Elements -/

section Elements

variable {first : Bool} {gap : Blanks} {e : Element} {elements : List Element}

/-- Where no element is left, none is found. -/
theorem nextElement_none :
    nextElement first (left .array first gap [] rest) = .ok none := by
  rw [nextElement, dropBlank_left_nil]
  exact if_pos rfl

/-- In front of an element that is followed by others, its value comes next. -/
theorem dropBlank_element (h : IsValue e.value) (bracket : Bracket) (pieces : List Bytes)
    (rest : Bytes) :
    dropBlank (e.toBytes ++ (commaTail pieces ++ octet bracket.close :: rest)) =
      e.value ++ left bracket false e.after pieces rest := by
  rw [e.toBytes_append, dropBlank_blanks, h.dropBlank_append]
  rfl

/-- The next element stands in front, with the blanks before it gone. -/
theorem nextElement_left (h : IsValue e.value) :
    nextElement first (left .array first gap ((e :: elements).map Element.toBytes) rest) =
      .ok (some (e.value ++ left .array false e.after (elements.map Element.toBytes) rest)) := by
  have hdrop := dropBlank_element h .array (elements.map Element.toBytes) rest
  obtain ⟨b, more, hvalue, hb⟩ := h.head
  -- A value does not begin with the closing bracket, which would end the array.
  have hclose : b ≠ octet ']' := by
    rintro rfl
    exact hb (by decide)
  rw [hvalue] at hdrop ⊢
  rw [List.map_cons, nextElement]
  cases first with
  | true =>
    rw [dropBlank_left_first, hdrop]
    exact (if_neg hclose).trans (if_pos rfl)
  | false =>
    rw [dropBlank_left_comma]
    dsimp only
    rw [hdrop]
    exact if_neg hclose

/-- An array ends where no element is left. -/
theorem endArray_left : endArray (left .array first gap [] rest) = .ok rest := by
  rw [endArray, dropBlank_left_nil]
  exact if_pos rfl

/-- An array does not end where an element is left. -/
theorem endArray_element (h : IsValue e.value) :
    endArray (left .array first gap ((e :: elements).map Element.toBytes) rest) ≠ .ok behind := by
  have hdrop := dropBlank_element h .array (elements.map Element.toBytes) rest
  obtain ⟨b, more, hvalue, hb⟩ := h.head
  -- So the array does not end here: it goes on with a value, or with a comma.
  have hclose : b ≠ octet ']' := by
    rintro rfl
    exact hb (by decide)
  rw [hvalue] at hdrop
  intro hend
  rw [List.map_cons, endArray] at hend
  cases first with
  | true =>
    rw [dropBlank_left_first, hdrop] at hend
    dsimp only [List.cons_append] at hend
    rw [if_neg hclose] at hend
    split at hend
    · cases hend
    · cases hend
  | false =>
    rw [dropBlank_left_comma] at hend
    dsimp only at hend
    rw [if_neg (by decide)] at hend
    split at hend
    · cases hend
    · cases hend

variable {read : Bytes → Except Fault (α × Bytes)} {bound : Bytes} {as : List α}

/-- The elements of an array are read. -/
theorem readElements_left (first : Bool) (gap : Blanks) {entries : List (Element × α)}
    (h : ∀ p ∈ entries, IsValue p.1.value ∧ ReadsBack read p.1.value p.2)
    (hbound : entries.length < bound.length) :
    readElements read bound first
      (left .array first gap ((entries.map Prod.fst).map Element.toBytes) rest) =
        .ok (entries.map Prod.snd, rest) := by
  induction entries generalizing bound first gap with
  | nil =>
    -- There are fewer elements than the bound has octets.
    cases bound with
    | nil => exact absurd hbound (by simp)
    | cons b bound =>
      rw [readElements, List.map_nil, List.map_nil, nextElement_none]
      simp only [bind, Except.bind, endArray_left]
      rfl
  | cons p entries ih =>
    cases bound with
    | nil => exact absurd hbound (by simp)
    | cons b bound =>
      -- The element is read, and the others are read behind it.
      obtain ⟨hvalue, hreads⟩ := h p List.mem_cons_self
      have hread := hreads _ (goes_left .array p.1.after
        ((entries.map Prod.fst).map Element.toBytes) rest)
      have hrest := ih false p.1.after (fun q hq => h q (List.mem_cons_of_mem _ hq))
        (Nat.lt_of_succ_lt_succ hbound)
      rw [List.map_cons, readElements, nextElement_left hvalue]
      simp only [bind, Except.bind, hread, hrest]
      rfl

/-- A reader takes a value wherever one goes on behind it. -/
def Accepts (read : Bytes → Except Fault (α × Bytes)) (value : Bytes) (a : α) : Prop :=
  ∃ rest, Goes rest ∧ read (value ++ rest) = .ok (a, rest)

/-- What an exact reader takes once, it takes wherever the value stands. -/
theorem IsExact.accepts {value : Bytes} {a : α} (hexact : IsExact read) (hvalue : IsValue value)
    (hrest : Goes rest) (h : read (value ++ rest) = .ok (a, behind)) :
    behind = rest ∧ Accepts read value a := by
  obtain rfl := hexact hvalue hrest h
  exact ⟨rfl, behind, hrest, h⟩

/-- If the elements of an array are read, all of them are. -/
theorem accepts_of_readElements (hexact : IsExact read) (hvalues : ∀ e ∈ elements, IsValue e.value)
    (h : readElements read bound first
      (left .array first gap (elements.map Element.toBytes) rest) = .ok (as, behind)) :
    behind = rest ∧ ∀ e ∈ elements, ∃ a, Accepts read e.value a := by
  induction elements generalizing bound first gap as behind with
  | nil =>
    cases bound with
    | nil => cases h
    | cons b bound =>
      rw [readElements, List.map_nil, nextElement_none] at h
      obtain ⟨after, hend, h⟩ := exists_of_bind (x := endArray _) h
      rw [endArray_left] at hend
      obtain rfl := Except.ok.inj hend
      exact ⟨(Prod.mk.inj (Except.ok.inj h)).2.symm, fun e he => absurd he (by simp)⟩
  | cons e elements ih =>
    cases bound with
    | nil => cases h
    | cons b bound =>
      rw [readElements, nextElement_left (hvalues e List.mem_cons_self)] at h
      -- Exactness tells where the others begin, though it is not known what was read.
      obtain ⟨⟨a, after⟩, hread, h⟩ := exists_of_bind (x := read _) h
      obtain ⟨rfl, haccepts⟩ := hexact.accepts (hvalues e List.mem_cons_self) (goes_left ..) hread
      obtain ⟨⟨others, after⟩, hrest, hall⟩ := exists_of_bind h
      obtain ⟨hafter, hothers⟩ := ih (fun f hf => hvalues f (List.mem_cons_of_mem _ hf)) hrest
      refine ⟨(Prod.mk.inj (Except.ok.inj hall)).2.symm.trans hafter, fun f hf => ?_⟩
      rcases List.mem_cons.1 hf with rfl | hf
      · exact ⟨a, haccepts⟩
      · exact hothers f hf

/-- The reader of an array goes through its elements. -/
theorem readArray_arrayText (gap : Blanks) (elements : List Element) (rest : Bytes) :
    readArray read (arrayText gap elements ++ rest) =
      readElements read (left .array true gap (elements.map Element.toBytes) rest) true
        (left .array true gap (elements.map Element.toBytes) rest) := by
  rw [arrayText_append, readArray, dropBlank_cons (by decide)]
  exact if_pos rfl

/-- Blanks in front of an array do not matter. -/
theorem readArray_blanks : IgnoresBlanks (readArray read) := by
  intro gap text
  rw [readArray, dropBlank_blanks, ← readArray]

/-- An element is not empty. -/
theorem Element.toBytes_ne_nil (h : IsValue e.value) : e.toBytes ≠ [] := by
  simp [Element.toBytes, h.ne_nil]

/-- An array is read if its elements are. -/
theorem readsBack_arrayText {entries : List (Element × α)}
    (h : ∀ p ∈ entries, IsValue p.1.value ∧ ReadsBack read p.1.value p.2) (gap : Blanks) :
    ReadsBack (readArray read) (arrayText gap (entries.map Prod.fst)) (entries.map Prod.snd) := by
  intro rest _
  rw [readArray_arrayText]
  refine readElements_left true gap h ?_
  have hlength := length_left .array true gap rest
    (List.forall_mem_map.2 (List.forall_mem_map.2 fun p hp => Element.toBytes_ne_nil (h p hp).1))
  rwa [List.length_map, List.length_map] at hlength

/-- If an array is read, all of its elements are. -/
theorem accepts_of_readArray (hexact : IsExact read) (hvalues : ∀ e ∈ elements, IsValue e.value)
    (h : readArray read (arrayText gap elements ++ rest) = .ok (as, behind)) :
    behind = rest ∧ ∀ e ∈ elements, ∃ a, Accepts read e.value a := by
  rw [readArray_arrayText] at h
  exact accepts_of_readElements hexact hvalues h

/-- An array of what is read exactly is read exactly. -/
theorem isExact_array (hexact : IsExact read) : IsExact (readArray read) := by
  intro value rest behind as hvalue _ h
  obtain ⟨b, more, rfl, -⟩ := hvalue.head
  by_cases hb : b = octet '['
  · subst hb
    obtain ⟨gap, elements, hvalues, htext⟩ := hvalue.of_bracket
    rw [htext] at h
    exact (accepts_of_readArray hexact hvalues h).1
  · rw [readArray, hvalue.dropBlank_append] at h
    dsimp only [List.cons_append] at h
    rw [if_neg hb] at h
    cases h

end Elements

/-! ## Members -/

/-- The name of a member says a text, in one spelling or another. -/
def Member.IsNamed (m : Member) (s : String) : Prop :=
  ∃ title : List Spelling, m.name = spelled title ∧ s = meant title

/-- The name of a member is read as a text. -/
def Member.IsReadAs (m : Member) (s : String) : Prop :=
  ∃ rest, readString (m.name ++ octet '"' :: rest) = .ok (s, rest)

/-- The name of a member is read as what it says. -/
theorem Member.IsNamed.readString {m : Member} {s : String} (h : m.IsNamed s) (rest : Bytes) :
    readString (m.name ++ octet '"' :: rest) = .ok (s, rest) := by
  obtain ⟨title, hname, rfl⟩ := h
  rw [hname]
  exact readString_spelled title rest

/-- A name says one text only. -/
theorem Member.IsNamed.eq_of_isReadAs {m : Member} {s s' : String} (h : m.IsNamed s)
    (h' : m.IsReadAs s') : s' = s := by
  obtain ⟨rest, hread⟩ := h'
  rw [h.readString rest] at hread
  exact (Prod.mk.inj (Except.ok.inj hread)).1.symm

section Members

variable {first : Bool} {gap : Blanks} {m : Member} {members : List Member}

/-- Where no member is left, none is found. -/
theorem nextMember_none :
    Shape.nextMember first (left .object first gap [] rest) = .ok none := by
  rw [Shape.nextMember, dropBlank_left_nil]
  exact if_pos rfl

/-- What stands behind the opening quote of the name of a member, with other members left. -/
def behindQuote (m : Member) (pieces : List Bytes) (rest : Bytes) : Bytes :=
  m.name ++ octet '"' :: (m.afterName.octets ++ octet ':' ::
    (m.element.before.octets ++ (m.value ++ left .object false m.element.after pieces rest)))

/-- In front of a member that is followed by others, the quote of its name comes next. -/
theorem dropBlank_member (m : Member) (pieces : List Bytes) (rest : Bytes) :
    dropBlank (m.toBytes ++ (commaTail pieces ++ octet Bracket.object.close :: rest)) =
      octet '"' :: behindQuote m pieces rest := by
  rw [m.toBytes_append, m.element.toBytes_append, dropBlank_blanks, dropBlank_cons (by decide)]
  rfl

/-- The next member is found at its name. -/
theorem nextMember_left :
    Shape.nextMember first (left .object first gap ((m :: members).map Member.toBytes) rest) =
      .ok (some (behindQuote m (members.map Member.toBytes) rest)) := by
  have hdrop := dropBlank_member m (members.map Member.toBytes) rest
  rw [List.map_cons, Shape.nextMember]
  cases first with
  -- The quote of the name comes at once, or behind a comma.
  | true =>
    rw [dropBlank_left_first, hdrop]
    rfl
  | false =>
    rw [dropBlank_left_comma]
    dsimp only
    rw [hdrop]
    rfl

/-- What a member does to a draft: one whose name is that of a field finds the field unset and is
taken into the draft, any other leaves the draft as it is. -/
def TakenOne (takes : Field δ → δ → Bytes → δ → Prop) (fields : List (Field δ)) (name : String)
    (value : Bytes) (draft next : δ) : Prop :=
  match fields.find? (·.name == name) with
  | some field => field.isSet draft = false ∧ takes field draft value next
  | none => next = draft

/-- What the members of an object do to a draft, one after the other. -/
def Taken (takes : Field δ → δ → Bytes → δ → Prop) (fields : List (Field δ)) :
    List (String × Member) → δ → δ → Prop
  | [], draft, final => draft = final
  | (name, m) :: members, draft, final =>
    ∃ next, TakenOne takes fields name m.value draft next ∧ Taken takes fields members next final

/-- A value is read into a draft wherever it stands. -/
def Reads (field : Field δ) (draft : δ) (value : Bytes) (next : δ) : Prop :=
  ReadsBack (field.read draft) value next

/-- A value is read into a draft somewhere. -/
def Admits (field : Field δ) (draft : δ) (value : Bytes) (next : δ) : Prop :=
  Accepts (field.read draft) value next

/-- Fields that are read exactly and regardless of blanks. -/
structure AreExact (fields : List (Field δ)) : Prop where
  /-- Blanks in front of a value are not seen. -/
  ignoresBlanks : ∀ field ∈ fields, ∀ draft, IgnoresBlanks (field.read draft)
  /-- A value that is read is read to its end. -/
  isExact : ∀ field ∈ fields, ∀ draft, IsExact (field.read draft)

variable {fields : List (Field δ)} {draft next final : δ} {name : String}

/-- A member is read behind its name as what it does says. -/
theorem readMember_of_takenOne (hfields : AreExact fields) (hvalue : IsValue m.value)
    (h : TakenOne Reads fields name m.value draft next) (hrest : Goes rest) :
    Shape.readMember fields draft name (m.afterName.octets ++ octet ':' ::
      (m.element.before.octets ++ (m.value ++ rest))) = .ok (next, rest) := by
  rw [Shape.readMember, readColon_blanks]
  rw [TakenOne] at h
  cases hfind : fields.find? (·.name == name) with
  -- A member of a known name is read into the draft, for the first time.
  | some field =>
    rw [hfind] at h
    obtain ⟨hset, hreads⟩ := h
    have hblanks := hfields.ignoresBlanks field (List.mem_of_find?_eq_some hfind) draft
    simp only [hset, Bool.false_eq_true, if_false, bind, Except.bind]
    rw [hblanks]
    exact hreads rest hrest
  -- Any other member is skipped, whatever its value is.
  | none =>
    rw [hfind] at h
    obtain rfl : next = draft := h
    simp only [bind, Except.bind, hvalue.skipValue m.element.before hrest]
    rfl

/-- A member that is read behind its name does what it can. -/
theorem takenOne_of_readMember (hfields : AreExact fields) (hvalue : IsValue m.value)
    (hrest : Goes rest)
    (h : Shape.readMember fields draft name (m.afterName.octets ++ octet ':' ::
      (m.element.before.octets ++ (m.value ++ rest))) = .ok (next, behind)) :
    behind = rest ∧ TakenOne Admits fields name m.value draft next := by
  rw [Shape.readMember, readColon_blanks] at h
  rw [TakenOne]
  cases hfind : fields.find? (·.name == name) with
  | some field =>
    rw [hfind] at h
    have hmem := List.mem_of_find?_eq_some hfind
    -- A field that the draft holds already is refused.
    cases hset : field.isSet draft with
    | true =>
      dsimp only at h
      rw [if_pos hset] at h
      cases h
    | false =>
      simp only [hset, Bool.false_eq_true, if_false, bind, Except.bind] at h
      rw [hfields.ignoresBlanks field hmem draft] at h
      obtain ⟨hbehind, haccepts⟩ :=
        IsExact.accepts (hfields.isExact field hmem draft) hvalue hrest h
      exact ⟨hbehind, hset, haccepts⟩
  -- A value of an unknown name is skipped, and the draft stays.
  | none =>
    rw [hfind] at h
    simp only [bind, Except.bind, hvalue.skipValue m.element.before hrest] at h
    obtain ⟨hdraft, hbehind⟩ := Prod.mk.inj (Except.ok.inj h)
    exact ⟨hbehind.symm, hdraft.symm⟩

/-- **An object is read if its members are taken.** -/
theorem readMembers_of_taken (first : Bool) (gap : Blanks) (hfields : AreExact fields)
    {named : List (String × Member)}
    (hnamed : ∀ p ∈ named, p.2.IsNamed p.1) (hvalues : ∀ p ∈ named, IsValue p.2.value)
    {bound : Bytes} (hbound : named.length < bound.length)
    (h : Taken Reads fields named draft final) :
    Shape.readMembers fields bound first draft
      (left .object first gap ((named.map Prod.snd).map Member.toBytes) rest) =
        .ok (final, rest) := by
  -- Behind each member the text is again one of which members are left, but not the first.
  induction named generalizing bound first gap draft with
  | nil =>
    cases bound with
    | nil => exact absurd hbound (by simp)
    | cons b bound =>
      obtain rfl : draft = final := h
      rw [Shape.readMembers, List.map_nil, List.map_nil, nextMember_none]
      simp only [bind, Except.bind, dropBlank_left_nil]
      rfl
  | cons p named ih =>
    obtain ⟨name, m⟩ := p
    cases bound with
    | nil => exact absurd hbound (by simp)
    | cons b bound =>
      obtain ⟨next, hone, hothers⟩ := h
      have hname := (hnamed (name, m) List.mem_cons_self).readString (m.afterName.octets ++
        octet ':' :: (m.element.before.octets ++ (m.value ++ left .object false m.element.after
          ((named.map Prod.snd).map Member.toBytes) rest)))
      have hmember := readMember_of_takenOne hfields (hvalues (name, m) List.mem_cons_self) hone
        (goes_left .object m.element.after ((named.map Prod.snd).map Member.toBytes) rest)
      have hrest := ih false m.element.after (fun q hq => hnamed q (List.mem_cons_of_mem _ hq))
        (fun q hq => hvalues q (List.mem_cons_of_mem _ hq)) (Nat.lt_of_succ_lt_succ hbound) hothers
      rw [List.map_cons, Shape.readMembers, nextMember_left]
      simp only [bind, Except.bind, behindQuote]
      rw [hname]
      dsimp only
      rw [hmember]
      exact hrest

/-- **An object is read only if its members are taken**, and then it is read to its end. -/
theorem taken_of_readMembers (hfields : AreExact fields) {bound : Bytes}
    (hvalues : ∀ m ∈ members, IsValue m.value)
    (h : Shape.readMembers fields bound first draft
      (left .object first gap (members.map Member.toBytes) rest) = .ok (final, behind)) :
    behind = rest ∧ ∃ named : List (String × Member), named.map Prod.snd = members ∧
      (∀ p ∈ named, p.2.IsReadAs p.1) ∧ Taken Admits fields named draft final := by
  induction members generalizing bound first gap draft with
  | nil =>
    cases bound with
    | nil => cases h
    | cons b bound =>
      rw [Shape.readMembers, List.map_nil, nextMember_none] at h
      simp only [bind, Except.bind, dropBlank_left_nil] at h
      obtain ⟨hdraft, hbehind⟩ := Prod.mk.inj (Except.ok.inj h)
      exact ⟨hbehind.symm, [], rfl, fun p hp => absurd hp (by simp), hdraft⟩
  | cons m members ih =>
    cases bound with
    | nil => cases h
    | cons b bound =>
      rw [Shape.readMembers, nextMember_left] at h
      obtain ⟨⟨name, after⟩, hname, hmember⟩ := exists_of_bind (x := readString _) h
      rw [behindQuote] at hname
      -- The name was read to its end.
      obtain rfl := eq_of_readString m.isInside hname
      obtain ⟨⟨next, after⟩, hread, hothers⟩ := exists_of_bind hmember
      obtain ⟨rfl, hone⟩ :=
        takenOne_of_readMember hfields (hvalues m List.mem_cons_self) (goes_left ..) hread
      obtain ⟨hbehind, named, hmembers, hreads, htaken⟩ :=
        ih (fun n hn => hvalues n (List.mem_cons_of_mem _ hn)) hothers
      refine ⟨hbehind, (name, m) :: named, by rw [List.map_cons, hmembers], ?_, next, hone, htaken⟩
      exact List.forall_mem_cons.2 ⟨⟨_, hname⟩, hreads⟩

end Members

end Muster.Json
