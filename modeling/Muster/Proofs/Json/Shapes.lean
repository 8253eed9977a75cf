import Muster.Proofs.Json.LaidOut

/-!
# Structures are read from objects laid out in any way

An object is read as a structure if its members fill a draft that can be finished, whatever their
order (`Shape.read_of_taken`), and in no other case (`Shape.taken_of_read`). Which members were
there can be told from the draft: a field is set if and only if a member had its name
(`Taken.isSet`), and no two members had (`Taken.count_le`).
-/

namespace Muster.Json

variable {α δ : Type} {rest behind : Bytes}

/-! ## Arrays of fields -/

section Fields

variable {fields : List (Field δ)} {draft final : δ} {first : Bool} {gap : Blanks}
variable {elements : List Element}

/-- The fields of a structure that are read from an array are its elements, up to its end. -/
theorem eq_of_readFields (hfields : AreExact fields) {tooShort : Nat → Fault} (count : Nat)
    {after : Bytes} (hvalues : ∀ e ∈ elements, IsValue e.value)
    (h : Shape.readFields tooShort fields count draft
      (left .array (count == 0) gap (elements.map Element.toBytes) rest) = .ok (final, after))
    (hend : endArray after = .ok behind) : behind = rest := by
  induction fields generalizing count draft gap elements with
  | nil =>
    obtain rfl := (Prod.mk.inj (Except.ok.inj h)).2
    cases elements with
    | nil =>
      rw [List.map_nil, endArray_left] at hend
      exact (Except.ok.inj hend).symm
    | cons e elements => exact absurd hend (endArray_element (hvalues e List.mem_cons_self))
  | cons field fields ih =>
    have hothers : AreExact fields :=
      ⟨fun f hf => hfields.ignoresBlanks f (List.mem_cons_of_mem _ hf),
        fun f hf => hfields.isExact f (List.mem_cons_of_mem _ hf)⟩
    cases elements with
    | nil =>
      rw [Shape.readFields, List.map_nil, nextElement_none] at h
      simp only [bind, Except.bind] at h
      split at h
      · -- Nothing is left, before the first element or behind one.
        have hnone : left .array (count == 0) gap [] rest =
            left .array (count + 1 == 0) gap ([].map Element.toBytes) rest := by
          cases count with
          | zero => rfl
          | succ count => rfl
        rw [hnone] at h
        exact ih hothers (count + 1) hvalues h
      · cases h
    | cons e elements =>
      have hvalue := hvalues e List.mem_cons_self
      rw [Shape.readFields, nextElement_left hvalue] at h
      obtain ⟨⟨next, behindValue⟩, hread, hrest⟩ := exists_of_bind (x := field.read draft _) h
      obtain rfl := hfields.isExact field List.mem_cons_self draft hvalue (goes_left ..) hread
      exact ih hothers (count + 1) (fun f hf => hvalues f (List.mem_cons_of_mem _ hf)) hrest

end Fields

namespace Shape

variable {shape : Shape δ α} {gap : Blanks} {a : α} {final : δ}

/-- Blanks in front of a structure do not matter. -/
theorem read_blanks : IgnoresBlanks shape.read := by
  intro gap text
  rw [read, dropBlank_blanks, ← read]

/-- An object is read as a structure through its members. -/
theorem read_objectText (gap : Blanks) (members : List Member) (rest : Bytes) :
    shape.read (objectText gap members ++ rest) = (do
      let (draft, rest) ← readMembers shape.fields
        (left .object true gap (members.map Member.toBytes) rest) true shape.blank
        (left .object true gap (members.map Member.toBytes) rest)
      return (← read.finished shape draft, rest)) := by
  rw [objectText_append, read, dropBlank_cons (by decide)]
  rfl

/-- A draft is finished with what its shape makes of it. -/
theorem finished_eq_ok {draft : δ} :
    read.finished shape draft = .ok a ↔ shape.finish draft = .ok a := by
  rw [read.finished]
  cases shape.finish draft with
  | ok b => exact ⟨fun h => congrArg Except.ok (Except.ok.inj h),
      fun h => congrArg Except.ok (Except.ok.inj h)⟩
  | error name =>
    constructor
    · intro h
      cases h
    · intro h
      cases h

/-- **An object is read as a structure if its members fill a draft that can be finished.** -/
theorem read_of_taken (hfields : AreExact shape.fields) {named : List (String × Member)}
    (hnamed : ∀ p ∈ named, p.2.IsNamed p.1) (hvalues : ∀ p ∈ named, IsValue p.2.value)
    (htaken : Taken Reads shape.fields named shape.blank final)
    (hfinish : shape.finish final = .ok a) (gap : Blanks) (rest : Bytes) :
    shape.read (objectText gap (named.map Prod.snd) ++ rest) = .ok (a, rest) := by
  have hne : ∀ m ∈ named.map Prod.snd, m.toBytes ≠ [] := fun m _ => by
    simp [Member.toBytes, Member.label]
  have hlength := length_left .object true gap rest (List.forall_mem_map.2 hne)
  rw [List.length_map, List.length_map] at hlength
  rw [read_objectText, readMembers_of_taken true gap hfields hnamed hvalues hlength htaken]
  simp only [bind, Except.bind, finished_eq_ok.2 hfinish]
  rfl

/-- **An object is read as a structure only if its members fill such a draft**, and then it is read
to its end. -/
theorem taken_of_read (hfields : AreExact shape.fields) {members : List Member}
    (hvalues : ∀ m ∈ members, IsValue m.value)
    (h : shape.read (objectText gap members ++ rest) = .ok (a, behind)) :
    behind = rest ∧ ∃ (named : List (String × Member)) (final : δ),
      named.map Prod.snd = members ∧ (∀ p ∈ named, p.2.IsReadAs p.1) ∧
        Taken Admits shape.fields named shape.blank final ∧ shape.finish final = .ok a := by
  rw [read_objectText] at h
  obtain ⟨⟨final, after⟩, hmembers, h⟩ := exists_of_bind h
  obtain ⟨b, hfinished, h⟩ := exists_of_bind (x := read.finished shape final) h
  obtain ⟨hafter, named, hnamed, hreads, htaken⟩ := taken_of_readMembers hfields hvalues hmembers
  obtain ⟨rfl, hbehind⟩ := Prod.mk.inj (Except.ok.inj h)
  exact ⟨hbehind.symm.trans hafter, named, final, hnamed, hreads, htaken,
    finished_eq_ok.1 hfinished⟩

/-- Reading a structure is exact if reading its fields is. -/
theorem isExact_read (hfields : AreExact shape.fields) : IsExact shape.read := by
  intro value rest behind a hvalue _ h
  obtain ⟨b, more, rfl, -⟩ := hvalue.head
  have hread := h
  rw [read, hvalue.dropBlank_append] at hread
  dsimp only [List.cons_append] at hread
  split at hread
  · -- A structure may also be read from the array of its fields.
    rename_i hb
    obtain rfl := eq_octet_of_ofUInt8 hb
    obtain ⟨gap, elements, hvalues, htext⟩ := hvalue.of_bracket
    have hleft : more ++ rest = left .array true gap (elements.map Element.toBytes) rest := by
      have happend := arrayText_append gap elements rest
      rw [← htext] at happend
      exact (List.cons.inj happend).2
    rw [hleft] at hread
    obtain ⟨⟨final, after⟩, hfilled, hrest⟩ := exists_of_bind hread
    obtain ⟨c, -, hrest⟩ := exists_of_bind (x := read.finished shape final) hrest
    obtain ⟨behindEnd, hend, hrest⟩ := exists_of_bind hrest
    obtain ⟨-, rfl⟩ := Prod.mk.inj (Except.ok.inj hrest)
    exact eq_of_readFields hfields 0 hvalues hfilled hend
  · rename_i hb
    obtain rfl := eq_octet_of_ofUInt8 hb
    obtain ⟨gap, members, hvalues, htext⟩ := hvalue.of_brace
    rw [htext] at h
    exact (taken_of_read hfields hvalues h).1
  · cases hread

end Shape

/-! ## What a draft tells about the members -/

/-- Reading a field sets it and no other. -/
def AreApart (fields : List (Field δ)) : Prop :=
  ∀ field ∈ fields, ∀ draft text next rest, field.read draft text = .ok (next, rest) →
    ∀ other ∈ fields, other.isSet next = (other.name == field.name || other.isSet draft)

/-- The names of members. -/
def names (named : List (String × Member)) : List String :=
  named.map Prod.fst

section Taken

variable {fields : List (Field δ)} {named : List (String × Member)} {draft next final : δ}

/-- The field of a name is the one that the name finds. -/
theorem find?_eq_some_of_nodup (hnodup : (fields.map Field.name).Nodup) {field : Field δ}
    (hfield : field ∈ fields) {name : String} (hname : field.name = name) :
    fields.find? (·.name == name) = some field := by
  subst hname
  exact isFoundIn_self hnodup field hfield

/-- A name that is not found is that of no field. -/
theorem name_ne_of_find?_eq_none {name : String} (h : fields.find? (·.name == name) = none)
    {field : Field δ} (hfield : field ∈ fields) : field.name ≠ name := by
  have hnot := List.find?_eq_none.1 h field hfield
  simpa using hnot

/-- A member sets the field of its name. -/
theorem TakenOne.isSet (hapart : AreApart fields) {name : String} {value : Bytes}
    (h : TakenOne Admits fields name value draft next) {field : Field δ} (hfield : field ∈ fields) :
    field.isSet next = (field.name == name || field.isSet draft) := by
  rw [TakenOne] at h
  cases hfind : fields.find? (·.name == name) with
  | some found =>
    rw [hfind] at h
    obtain ⟨-, rest, -, hread⟩ := h
    -- The field that was found is the one of that name, and reading it sets no other.
    have hname : found.name = name := by simpa using List.find?_some hfind
    rw [← hname]
    exact hapart found (List.mem_of_find?_eq_some hfind) draft _ next rest hread field hfield
  | none =>
    rw [hfind] at h
    obtain rfl : next = draft := h
    rw [beq_eq_false_iff_ne.2 (name_ne_of_find?_eq_none hfind hfield), Bool.false_or]

/-- **A field is set in the end if and only if a member had its name**, unless it was set before. -/
theorem Taken.isSet (hapart : AreApart fields) (h : Taken Admits fields named draft final)
    {field : Field δ} (hfield : field ∈ fields) :
    field.isSet final = ((names named).contains field.name || field.isSet draft) := by
  induction named generalizing draft with
  | nil =>
    obtain rfl : draft = final := h
    rfl
  | cons p named ih =>
    obtain ⟨next, hone, hothers⟩ := h
    rw [ih hothers, hone.isSet hapart hfield, names, names, List.map_cons, List.contains_cons,
      Bool.or_left_comm, Bool.or_assoc]

/-- **No two members had the name of a field**, and none had if the field was set before. -/
theorem Taken.count_le (hnodup : (fields.map Field.name).Nodup) (hapart : AreApart fields)
    (h : Taken Admits fields named draft final) {field : Field δ} (hfield : field ∈ fields) :
    (names named).count field.name + (field.isSet draft).toNat ≤ 1 := by
  induction named generalizing draft with
  | nil =>
    have hle := Bool.toNat_le (field.isSet draft)
    simpa [names] using hle
  | cons p named ih =>
    obtain ⟨next, hone, hothers⟩ := h
    have hrest := ih hothers
    rw [hone.isSet hapart hfield] at hrest
    rw [names, List.map_cons, List.count_cons]
    by_cases hname : field.name = p.1
    · -- The member found the field unset and sets it, so no other has its name.
      have hset : field.isSet draft = false := by
        rw [TakenOne, find?_eq_some_of_nodup hnodup hfield hname] at hone
        exact hone.1
      rw [hname, beq_self_eq_true, Bool.true_or, Bool.toNat_true, ← hname] at hrest
      rw [hset, hname, beq_self_eq_true, if_pos rfl, ← hname]
      exact hrest
    · rw [beq_eq_false_iff_ne.2 hname, Bool.false_or] at hrest
      rw [beq_eq_false_iff_ne.2 (Ne.symm hname), if_neg (by decide)]
      exact hrest

/-- Every member with the name of a field is admitted by it. -/
theorem Taken.admits (hnodup : (fields.map Field.name).Nodup)
    (h : Taken Admits fields named draft final) {p : String × Member} (hp : p ∈ named)
    {field : Field δ} (hfield : field ∈ fields) (hname : field.name = p.1) :
    ∃ before after, Admits field before p.2.value after := by
  induction named generalizing draft with
  | nil => exact absurd hp (by simp)
  | cons q named ih =>
    obtain ⟨next, hone, hothers⟩ := h
    rcases List.mem_cons.1 hp with rfl | hp
    · rw [TakenOne, find?_eq_some_of_nodup hnodup hfield hname] at hone
      exact ⟨draft, next, hone.2⟩
    · exact ih hothers hp

end Taken

end Muster.Json
