import Muster.Proofs.Json.Shapes

/-!
# What the members of an object decide

A `Layout` is the text of an object whose members have names that are spelled in some way. Whether
it is read as a structure, and as which, is decided by its members alone, not by their order, by the
blanks between its tokens or by members of other names.

Drafts are given by the names that have been seen (`Remembers`), so that the order in which they
were seen does not matter. An object that holds the members of a structure is read as the structure
(`Shape.read_layout`); one that is read holds every field that is needed and no field twice
(`Shape.holds_of_read`).
-/

namespace Muster.Json

variable {α δ : Type} {rest behind : Bytes}

/-- The text of an object, with the names that its members say. -/
structure Layout where
  /-- The blanks in front of the first member. -/
  gap : Blanks
  /-- The members, each with its name. -/
  members : List (String × Member)
  /-- The members have these names. -/
  areNamed : ∀ p ∈ members, p.2.IsNamed p.1

namespace Layout

/-- The text. -/
def toBytes (l : Layout) : Bytes :=
  objectText l.gap (l.members.map Prod.snd)

/-- The names of the members. -/
def names (l : Layout) : List String :=
  Json.names l.members

/-- The values of the members are those of JSON. -/
def AreValues (l : Layout) : Prop :=
  ∀ p ∈ l.members, IsValue p.2.value

/-- Members of known names have values that are written for them, the others any values. -/
def Holds (l : Layout) (known : List String) (writes : String → Bytes → Prop) : Prop :=
  ∀ p ∈ l.members, (p.1 ∈ known → writes p.1 p.2.value) ∧ (p.1 ∉ known → IsValue p.2.value)

/-- If what is written for the known names are values, then the members have values. -/
theorem Holds.areValues {l : Layout} {known : List String} {writes : String → Bytes → Prop}
    (h : l.Holds known writes) (hwrites : ∀ name value, writes name value → IsValue value) :
    l.AreValues := by
  intro p hp
  by_cases hknown : p.1 ∈ known
  · exact hwrites p.1 p.2.value ((h p hp).1 hknown)
  · exact (h p hp).2 hknown

/-- An object whose members have values is a value. -/
theorem isValue {l : Layout} (h : l.AreValues) : IsValue l.toBytes :=
  .object l.gap _ (List.forall_mem_map.2 h)

/-- An object is refused for what it lacks or repeats: a member of a name that is required, or two
of a name that is known. -/
def IsAmiss (l : Layout) (required known : List String) : Prop :=
  (∃ name ∈ required, name ∉ l.names) ∨ ∃ name ∈ known, 1 < l.names.count name

end Layout

/-! ## Arrays and objects as they are written -/

/-- No blanks. -/
def noBlanks : Blanks :=
  ⟨[], fun _ h => absurd h (by simp)⟩

/-- An element as it is written. -/
def Element.written (value : Bytes) : Element :=
  ⟨noBlanks, value, noBlanks⟩

/-- Without blanks an array is laid out as it is written. -/
theorem arrayText_written (values : List Bytes) :
    arrayText noBlanks (values.map Element.written) = array values := by
  have helements : (values.map Element.written).map Element.toBytes = values := by
    rw [List.map_map]
    exact List.map_id'' (fun value => List.append_nil value) values
  rw [arrayText, helements]
  rfl

/-- A member as it is written. -/
def Member.written (name : String) (value : Bytes) : Member where
  before := noBlanks
  name := (Bytes.ofText name).flatMap escape
  isInside := isInside_written name
  afterName := noBlanks
  element := .written value

/-- An object as it is written. -/
def Layout.written (members : List (String × Bytes)) : Layout where
  gap := noBlanks
  members := members.map fun m => (m.1, Member.written m.1 m.2)
  areNamed := List.forall_mem_map.2 fun m _ => by
    obtain ⟨text, hspelled, hmeant⟩ := exists_spelled m.1
    exact ⟨text, hspelled.symm, hmeant.symm⟩

/-- Without blanks an object is laid out as it is written. -/
theorem Layout.toBytes_written (members : List (String × Bytes)) :
    (Layout.written members).toBytes = object members := by
  have hmember : ∀ m : String × Bytes, (Member.written m.1 m.2).toBytes = member m.1 m.2 := by
    intro m
    simp [Member.toBytes, Member.label, Member.written, Element.toBytes, Element.written, noBlanks,
      member, string]
  have hmembers : ((Layout.written members).members.map Prod.snd).map Member.toBytes =
      members.map fun m => member m.1 m.2 := by
    simp only [Layout.written, List.map_map]
    exact List.map_congr_left fun m _ => hmember m
  rw [toBytes, objectText, hmembers]
  simp [Layout.written, noBlanks, object]

/-- The names of a written object are those of its members. -/
theorem Layout.names_written (members : List (String × Bytes)) :
    (Layout.written members).names = members.map Prod.fst := by
  simp [Layout.written, Layout.names, Json.names]

/-- A written object holds what its members are written for. -/
theorem Layout.holds_written {members : List (String × Bytes)} {known : List String}
    {writes : String → Bytes → Prop}
    (h : ∀ m ∈ members, (m.1 ∈ known → writes m.1 m.2) ∧ (m.1 ∉ known → IsValue m.2)) :
    (Layout.written members).Holds known writes :=
  List.forall_mem_map.2 h

/-- Names that are said are the only ones that can be read. -/
theorem eq_of_isNamed {named said : List (String × Member)}
    (h : named.map Prod.snd = said.map Prod.snd) (hreads : ∀ p ∈ named, p.2.IsReadAs p.1)
    (hnamed : ∀ p ∈ said, p.2.IsNamed p.1) : named = said := by
  induction named generalizing said with
  | nil => exact (List.map_eq_nil_iff.1 h.symm).symm
  | cons p named ih =>
    -- The members are the same, and each has one name only.
    cases said with
    | nil => exact absurd h (by simp)
    | cons q said =>
      obtain ⟨hmember, hothers⟩ := List.cons.inj h
      have hread := hreads p List.mem_cons_self
      rw [hmember] at hread
      have hname := (hnamed q List.mem_cons_self).eq_of_isReadAs hread
      rw [Prod.ext hname hmember, ih hothers (fun r hr => hreads r (List.mem_cons_of_mem _ hr))
        (fun r hr => hnamed r (List.mem_cons_of_mem _ hr))]

/-! ## Drafts given by the names that have been seen -/

/-- Drafts that hold the fields of the names that have been seen. -/
structure Remembers (fields : List (Field δ)) (writes : String → Bytes → Prop)
    (drafts : List String → δ) : Prop where
  /-- A field is set if its name has been seen. -/
  isSet : ∀ field ∈ fields, ∀ seen, field.isSet (drafts seen) = seen.contains field.name
  /-- What is written for a field is read into the draft. -/
  reads : ∀ field ∈ fields, ∀ seen value, writes field.name value →
    Reads field (drafts seen) value (drafts (field.name :: seen))
  /-- Other names leave no trace. -/
  others : ∀ name, name ∉ fields.map Field.name → ∀ seen, drafts (name :: seen) = drafts seen

section Drafts

variable {fields : List (Field δ)} {writes : String → Bytes → Prop} {drafts : List String → δ}

/-- Members that hold what is written for them are taken one after the other. -/
theorem Remembers.taken (h : Remembers fields writes drafts) {named : List (String × Member)}
    (seen : List String)
    (hwrites : ∀ p ∈ named, p.1 ∈ fields.map Field.name → writes p.1 p.2.value)
    (hcount : ∀ field ∈ fields, (names named).count field.name + seen.count field.name ≤ 1) :
    Taken Reads fields named (drafts seen) (drafts ((names named).reverse ++ seen)) := by
  induction named generalizing seen with
  | nil => rfl
  | cons p named ih =>
    have hrest := ih (p.1 :: seen) (fun q hq => hwrites q (List.mem_cons_of_mem _ hq))
      fun field hfield => by
        have hle := hcount field hfield
        rw [names, List.map_cons, List.count_cons] at hle
        rw [List.count_cons]
        show (named.map Prod.fst).count field.name + _ ≤ 1
        omega
    have hnames : (names (p :: named)).reverse ++ seen = (names named).reverse ++ p.1 :: seen := by
      simp [names]
    rw [hnames]
    refine ⟨drafts (p.1 :: seen), ?_, hrest⟩
    rw [TakenOne]
    cases hfind : fields.find? (·.name == p.1) with
    | some field =>
      have hfield := List.mem_of_find?_eq_some hfind
      have hname : field.name = p.1 := by simpa using List.find?_some hfind
      have hmem : p.1 ∈ fields.map Field.name := hname ▸ List.mem_map_of_mem hfield
      have hread := h.reads field hfield seen p.2.value
      rw [hname] at hread
      refine ⟨?_, hread (hwrites p List.mem_cons_self hmem)⟩
      -- The name has not been seen, because it stands here.
      have hle := hcount field hfield
      rw [names, List.map_cons, List.count_cons, hname, beq_self_eq_true, if_pos rfl] at hle
      have hzero : seen.count field.name = 0 := by
        rw [hname]
        omega
      rw [h.isSet field hfield seen]
      simpa using List.count_eq_zero.1 hzero
    | none =>
      refine h.others p.1 (fun hmem => ?_) seen
      obtain ⟨field, hfield, hname⟩ := List.mem_map.1 hmem
      exact name_ne_of_find?_eq_none hfind hfield hname

end Drafts

/-! ## Objects that are read and objects that are refused -/

/-- A structure whose fields can be told apart, in its text and in its drafts. -/
structure Shape.IsRegular (shape : Shape δ α) : Prop where
  /-- The fields are read exactly. -/
  areExact : AreExact shape.fields
  /-- Reading a field sets it and no other. -/
  areApart : AreApart shape.fields
  /-- The names of the fields are different. -/
  nodup : (shape.fields.map Field.name).Nodup
  /-- At first no field is set. -/
  blank : ∀ field ∈ shape.fields, field.isSet shape.blank = false

namespace Shape.IsRegular

variable {shape : Shape δ α} {a : α} {l : Layout}

/-- **An object with what is written for the fields is read**, in whatever order it comes and
whatever else is in the object. -/
theorem read_layout (hshape : shape.IsRegular) {writes : String → Bytes → Prop}
    (hwrites : ∀ name value, writes name value → IsValue value) {drafts : List String → δ}
    (hremembers : Remembers shape.fields writes drafts) (hblank : drafts [] = shape.blank)
    (hholds : l.Holds (shape.fields.map Field.name) writes)
    (hcount : ∀ field ∈ shape.fields, l.names.count field.name ≤ 1)
    (hfinish : shape.finish (drafts l.names.reverse) = .ok a) (rest : Bytes) :
    shape.read (l.toBytes ++ rest) = .ok (a, rest) := by
  have htaken := hremembers.taken [] (fun p hp => (hholds p hp).1) hcount
  rw [hblank, List.append_nil] at htaken
  exact Shape.read_of_taken hshape.areExact l.areNamed (hholds.areValues hwrites) htaken hfinish
    l.gap rest

/-- **An object that is read holds no field twice**; which fields it holds is what the draft is
finished by, and each of them admits the value that it has. -/
theorem holds_of_read (hshape : shape.IsRegular) (hvalues : l.AreValues)
    (h : shape.read (l.toBytes ++ rest) = .ok (a, behind)) :
    ∃ final, shape.finish final = .ok a ∧
      (∀ field ∈ shape.fields, field.isSet final = l.names.contains field.name) ∧
      (∀ field ∈ shape.fields, l.names.count field.name ≤ 1) ∧
      ∀ p ∈ l.members, ∀ field ∈ shape.fields, field.name = p.1 →
        ∃ before after, Admits field before p.2.value after := by
  obtain ⟨-, named, final, hmembers, hreads, htaken, hfinish⟩ :=
    Shape.taken_of_read hshape.areExact (List.forall_mem_map.2 hvalues) h
  -- The names that were read are those that the layout gives.
  obtain rfl : named = l.members := eq_of_isNamed hmembers hreads l.areNamed
  refine ⟨final, hfinish, fun field hfield => ?_, fun field hfield => ?_, ?_⟩
  · rw [htaken.isSet hshape.areApart hfield, hshape.blank field hfield, Bool.or_false]
    rfl
  · have hle := htaken.count_le hshape.nodup hshape.areApart hfield
    rw [hshape.blank field hfield] at hle
    exact hle
  · exact fun p hp field hfield hname => htaken.admits hshape.nodup hp hfield hname

/-- **Nothing is amiss with an object that is read**: whatever a draft needs in order to be finished
is there, and no field is there twice. -/
theorem not_isAmiss_of_read (hshape : shape.IsRegular) (required : List String)
    (hknown : ∀ name ∈ required, name ∈ shape.fields.map Field.name)
    (hrequired : ∀ final a, shape.finish final = .ok a → ∀ field ∈ shape.fields,
      field.name ∈ required → field.isSet final = true)
    (hvalues : l.AreValues) (h : shape.read (l.toBytes ++ rest) = .ok (a, behind)) :
    ¬ l.IsAmiss required (shape.fields.map Field.name) := by
  obtain ⟨final, hfinish, hset, hcount, -⟩ := hshape.holds_of_read hvalues h
  -- The draft holds what is required, and holds nothing twice.
  rintro (⟨name, hname, hlacks⟩ | ⟨name, hname, htwice⟩)
  · obtain ⟨field, hfield, rfl⟩ := List.mem_map.1 (hknown name hname)
    have hcontains := hrequired final a hfinish field hfield hname
    rw [hset field hfield, List.contains_iff_mem] at hcontains
    exact hlacks hcontains
  · obtain ⟨field, hfield, rfl⟩ := List.mem_map.1 hname
    exact absurd (hcount field hfield) (Nat.not_le.2 htwice)

end Shape.IsRegular

/-! ## Whole texts -/

section Whole

variable {read : Bytes → Except Fault (α × Bytes)} {a : α} {text : Bytes}

/-- Blanks in front of a whole text do not matter. -/
theorem readAll_blanks (h : IgnoresBlanks read) : IgnoresBlanks (readAll read) := by
  intro gap text
  rw [readAll, h gap text, ← readAll]

/-- A text is read as a whole if only blanks are left of it. -/
theorem readAll_of_read {after : Blanks}
    (h : read (text ++ after.octets) = .ok (a, after.octets)) :
    readAll read (text ++ after.octets) = .ok a := by
  rw [readAll, h]
  simp only [bind, Except.bind, dropBlank_of_blanks]
  rfl

/-- A text is refused as a whole if nothing is read from its front. -/
theorem exists_fault_of_read (text : Bytes) (h : ∀ a behind, read text ≠ .ok (a, behind)) :
    ∃ fault, readAll read text = .error fault := by
  cases hread : read text with
  | error fault =>
    refine ⟨fault, ?_⟩
    rw [readAll, hread]
    rfl
  | ok p => exact absurd hread (h p.1 p.2)

end Whole

end Muster.Json
