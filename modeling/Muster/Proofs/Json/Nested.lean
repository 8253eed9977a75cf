import Muster.Proofs.Json.Number

/-!
# Written arrays and objects are read back

Both are pieces with commas between them. Behind the first piece every piece has its comma in front
of it, which is what the induction runs over.
-/

namespace Muster.Json

variable {α δ : Type}

/-- Pieces that each have a comma in front. -/
def commaTail (pieces : List Bytes) : Bytes :=
  pieces.flatMap (octet ',' :: ·)

/-- The first of some pieces with commas in front. -/
theorem commaTail_cons (piece : Bytes) (pieces : List Bytes) :
    commaTail (piece :: pieces) = octet ',' :: (piece ++ commaTail pieces) :=
  rfl

/-- Pieces with commas between them are the first one and the others with commas in front. -/
theorem commas_cons (piece : Bytes) (pieces : List Bytes) :
    commas (piece :: pieces) = piece ++ commaTail pieces := by
  induction pieces generalizing piece with
  | nil => rw [commas, commaTail, List.flatMap_nil, List.append_nil]
  | cons next pieces ih => rw [commas, ih, commaTail_cons]; simp

/-- The rest of the pieces and the closing bracket go on behind a value. -/
theorem goes_commaTail (pieces : List Bytes) {close : UInt8}
    (h : close ∈ separators) (rest : Bytes) : Goes (commaTail pieces ++ close :: rest) := by
  cases pieces with
  | nil => exact goes_cons h rest
  | cons piece pieces => exact goes_cons List.mem_cons_self _

/-! ## Arrays -/

/-- A value that begins with a brace, as every object does. -/
def IsBraced (written : Bytes) : Prop :=
  ∃ more, written = octet '\x7b' :: more

/-- A written object begins with a brace. -/
theorem isBraced_object (members : List (String × Bytes)) : IsBraced (object members) :=
  ⟨_, rfl⟩

/-- At the closing bracket no element is found. -/
theorem nextElement_end (first : Bool) (rest : Bytes) :
    nextElement first (octet ']' :: rest) = .ok none := by
  rw [nextElement, dropBlank_cons (by decide)]
  simp only [if_true]
  rfl

/-- An array ends at its closing bracket. -/
theorem endArray_end (rest : Bytes) : endArray (octet ']' :: rest) = .ok rest := by
  rw [endArray, dropBlank_cons (by decide)]
  simp only [if_true]

/-- The first element has no comma in front. -/
theorem nextElement_first {written : Bytes} (h : IsBraced written) (rest : Bytes) :
    nextElement true (written ++ rest) = .ok (some (written ++ rest)) := by
  obtain ⟨more, rfl⟩ := h
  rw [List.cons_append, nextElement, dropBlank_cons (by decide)]
  rfl

/-- Every other element has a comma in front. -/
theorem nextElement_comma {written : Bytes} (h : IsBraced written) (rest : Bytes) :
    nextElement false (octet ',' :: (written ++ rest)) = .ok (some (written ++ rest)) := by
  obtain ⟨more, rfl⟩ := h
  rw [List.cons_append, nextElement, dropBlank_cons (by decide)]
  dsimp only
  rw [dropBlank_cons (by decide)]
  rfl

/-- There are at least as many octets as pieces. -/
theorem length_le_commaTail (pieces : List Bytes) : pieces.length ≤ (commaTail pieces).length := by
  induction pieces with
  | nil => exact Nat.le_refl 0
  | cons piece pieces ih =>
    rw [commaTail_cons]
    simp only [List.length_cons, List.length_append]
    omega

/-- Behind an element of an array comes a comma or the closing bracket. -/
theorem goes_array (pieces : List Bytes) (rest : Bytes) :
    Goes (commaTail pieces ++ octet ']' :: rest) :=
  goes_commaTail pieces (by decide) rest

section Arrays

variable {read : Bytes → Except Fault (α × Bytes)} {write : α → Bytes}

/-- The elements behind the first are read back up to the end of the array. -/
theorem readElements_tail {as : List α}
    (h : ∀ a ∈ as, IsBraced (write a) ∧ ReadsBack read (write a) a) {bound : Bytes}
    (hbound : as.length < bound.length) (rest : Bytes) :
    readElements read bound false (commaTail (as.map write) ++ octet ']' :: rest) =
      .ok (as, rest) := by
  induction as generalizing bound with
  | nil =>
    cases bound with
    | nil => exact absurd hbound (by simp)
    | cons _ bound =>
      show readElements read (_ :: bound) false (octet ']' :: rest) = _
      rw [readElements, nextElement_end]
      simp only [Except.bind, bind, endArray_end]
      rfl
  | cons a as ih =>
    cases bound with
    | nil => exact absurd hbound (by simp)
    | cons _ bound =>
      -- The element is read, and the others are read behind its comma.
      obtain ⟨hbraced, hreads⟩ := h a List.mem_cons_self
      have hread := hreads _ (goes_array (as.map write) rest)
      have hrest := ih (fun b hb => h b (List.mem_cons_of_mem _ hb)) (Nat.lt_of_succ_lt_succ hbound)
      rw [List.map_cons, commaTail_cons, List.cons_append, List.append_assoc, readElements,
        nextElement_comma hbraced]
      simp only [Except.bind, bind, hread, hrest]
      rfl

/-- An array is read back if its elements are. -/
theorem readsBack_array {as : List α}
    (h : ∀ a ∈ as, IsBraced (write a) ∧ ReadsBack read (write a) a) :
    ReadsBack (readArray read) (array (as.map write)) as := by
  intro rest _
  have harray : array (as.map write) ++ rest =
      octet '[' :: (commas (as.map write) ++ octet ']' :: rest) := by
    simp [array]
  rw [harray, readArray, dropBlank_cons (by decide)]
  simp only [if_true]
  cases as with
  | nil =>
    show readElements read (octet ']' :: rest) true (octet ']' :: rest) = _
    rw [readElements, nextElement_end]
    simp only [Except.bind, bind, endArray_end]
    rfl
  | cons a as =>
    obtain ⟨hbraced, hreads⟩ := h a List.mem_cons_self
    have hread := hreads _ (goes_array (as.map write) rest)
    have hfirst := nextElement_first hbraced (commaTail (as.map write) ++ octet ']' :: rest)
    -- The text bounds the number of elements: it holds the first and a comma for each other.
    have hlength : as.length ≤ (commaTail (as.map write)).length := by
      have hle := length_le_commaTail (as.map write)
      rwa [List.length_map] at hle
    obtain ⟨more, hmore⟩ := hbraced
    have hbound : as.length < (more ++ (commaTail (as.map write) ++ octet ']' :: rest)).length := by
      simp only [List.length_append, List.length_cons]
      omega
    have hrest := readElements_tail (fun b hb => h b (List.mem_cons_of_mem _ hb)) hbound rest
    rw [List.map_cons, commas_cons, List.append_assoc]
    rw [hmore, List.cons_append] at hread hfirst ⊢
    rw [readElements, hfirst]
    simp only [Except.bind, bind, hread, hrest]
    rfl

end Arrays

/-! ## Objects -/

/-- The written members are those of the fields in order; each field is not held by the draft yet
and is read back into the draft that the others fill on. -/
def Fills : List (Field δ) → List (String × Bytes) → δ → δ → Prop
  | field :: fields, (name, value) :: members, draft, filled =>
    field.name = name ∧ field.isSet draft = false ∧
      ∃ next, ReadsBack (field.read draft) value next ∧ Fills fields members next filled
  | [], [], draft, filled => draft = filled
  | _, _, _, _ => False

section Objects

variable {fields : List (Field δ)} {draft filled : δ}

/-- The names of the fields tell them apart. -/
def IsFoundIn (fields all : List (Field δ)) : Prop :=
  ∀ field ∈ fields, all.find? (·.name == field.name) = some field

/-- Fields with different names are told apart by them. -/
theorem isFoundIn_self (h : (fields.map Field.name).Nodup) : IsFoundIn fields fields := by
  induction fields with
  | nil => exact fun field hfield => absurd hfield (by simp)
  | cons first fields ih =>
    obtain ⟨hfirst, hnodup⟩ := List.nodup_cons.1 h
    intro field hfield
    rcases List.mem_cons.1 hfield with rfl | hfield
    · exact List.find?_cons_of_pos (by simp)
    · have hne : first.name ≠ field.name := fun heq =>
        hfirst (heq ▸ List.mem_map_of_mem hfield)
      rw [List.find?_cons_of_neg (by simpa using hne)]
      exact ih hnodup field hfield

/-- Members as they stand behind the first: each with a comma in front. -/
def memberTail (members : List (String × Bytes)) : Bytes :=
  commaTail (members.map fun m => member m.1 m.2)

/-- The parts of a written member, with a text behind them. -/
theorem member_append (name : String) (value rest : Bytes) :
    member name value ++ rest =
      octet '"' :: ((Bytes.ofText name).flatMap escape ++ octet '"' ::
        octet ':' :: (value ++ rest)) := by
  rw [member, List.append_assoc, string_append]
  rfl

/-- At the closing brace no member is found. -/
theorem nextMember_end (first : Bool) (rest : Bytes) :
    Shape.nextMember first (octet '}' :: rest) = .ok none := by
  rw [Shape.nextMember, dropBlank_cons (by decide)]
  simp only [if_true]
  rfl

/-- The first member has no comma in front. -/
theorem nextMember_first (text : Bytes) :
    Shape.nextMember true (octet '"' :: text) = .ok (some text) := by
  rw [Shape.nextMember, dropBlank_cons (by decide)]
  rfl

/-- Every other member has a comma in front. -/
theorem nextMember_comma (text : Bytes) :
    Shape.nextMember false (octet ',' :: octet '"' :: text) = .ok (some text) := by
  rw [Shape.nextMember, dropBlank_cons (by decide)]
  dsimp only
  rw [dropBlank_cons (by decide)]
  rfl

/-- A colon is taken off the front. -/
theorem readColon_cons (text : Bytes) : readColon (octet ':' :: text) = .ok text := by
  rw [readColon, dropBlank_cons (by decide)]
  simp only [if_true]

/-- A member that finds its field fills it. -/
theorem readMember_field {field : Field δ} {next : δ} {name : String} {value rest : Bytes}
    (hfind : fields.find? (·.name == name) = some field) (hset : field.isSet draft = false)
    (hread : ReadsBack (field.read draft) value next) (hrest : Goes rest) :
    Shape.readMember fields draft name (octet ':' :: (value ++ rest)) = .ok (next, rest) := by
  rw [Shape.readMember, hfind]
  simp only [hset, Bool.false_eq_true, if_false, readColon_cons, Except.bind, bind]
  exact hread rest hrest

/-- The members behind the first are read back up to the end of the object. -/
theorem readMembers_tail {all : List (Field δ)} {members : List (String × Bytes)}
    (h : Fills fields members draft filled) (hfound : IsFoundIn fields all) {bound : Bytes}
    (hbound : members.length < bound.length) (rest : Bytes) :
    Shape.readMembers all bound false draft (memberTail members ++ octet '\x7d' :: rest) =
      .ok (filled, rest) := by
  induction fields, members, draft, filled using Fills.induct generalizing bound with
  | case1 field fields name value members draft filled ih =>
    cases bound with
    | nil => exact absurd hbound (by simp)
    | cons _ bound =>
      -- A comma, the first member, and the members behind it.
      obtain ⟨rfl, hset, next, hread, hfills⟩ := h
      have hgoes : Goes (memberTail members ++ octet '\x7d' :: rest) :=
        goes_commaTail _ (by decide) rest
      have hmember := readMember_field (hfound field List.mem_cons_self) hset hread hgoes
      have hrest := ih next hfills (fun f hf => hfound f (List.mem_cons_of_mem _ hf))
        (Nat.lt_of_succ_lt_succ hbound)
      have htext : memberTail ((field.name, value) :: members) ++ octet '\x7d' :: rest =
          octet ',' ::
            (member field.name value ++ (memberTail members ++ octet '\x7d' :: rest)) := by
        rw [memberTail, List.map_cons, commaTail_cons, List.cons_append, List.append_assoc]
        rfl
      rw [htext, member_append, Shape.readMembers, nextMember_comma]
      simp only [Except.bind, bind, readString_escape, hmember, hrest]
  | case2 draft filled =>
    cases bound with
    | nil => exact absurd hbound (by simp)
    | cons _ bound =>
      -- No member is left, so the object ends.
      obtain rfl : draft = filled := h
      show Shape.readMembers all (_ :: bound) false draft (octet '\x7d' :: rest) = _
      rw [Shape.readMembers, nextMember_end, dropBlank_cons (by decide)]
      rfl
  | case3 => exact absurd h (by simp [Fills])

/-- All members of an object are read back. The text in front of which they stand bounds their
number: it holds the first and a comma for each other. -/
theorem readMembers_object {all : List (Field δ)} {members : List (String × Bytes)}
    (h : Fills fields members draft filled) (hfound : IsFoundIn fields all) {text rest : Bytes}
    (htext : text = commas (members.map fun m => member m.1 m.2) ++ octet '\x7d' :: rest) :
    Shape.readMembers all text true draft text = .ok (filled, rest) := by
  cases members with
  | nil =>
    cases fields with
    | cons field fields => exact absurd h (by simp [Fills])
    | nil =>
      -- The object is empty.
      obtain rfl : draft = filled := h
      have hend : text = octet '\x7d' :: rest := htext
      rw [hend, Shape.readMembers, nextMember_end, dropBlank_cons (by decide)]
      rfl
  | cons m members =>
    obtain ⟨name, value⟩ := m
    cases fields with
    | nil => exact absurd h (by simp [Fills])
    | cons field fields =>
      obtain ⟨rfl, hset, next, hread, hfills⟩ := h
      have hgoes : Goes (memberTail members ++ octet '\x7d' :: rest) :=
        goes_commaTail _ (by decide) rest
      have hmember := readMember_field (hfound field List.mem_cons_self) hset hread hgoes
      rw [List.map_cons, commas_cons, List.append_assoc, member_append] at htext
      have hlength : members.length ≤ (memberTail members).length := by
        have hle := length_le_commaTail (members.map fun m => member m.1 m.2)
        rwa [List.length_map] at hle
      -- The first member has no comma in front; the others are read as a tail.
      rw [htext, Shape.readMembers, nextMember_first]
      simp only [Except.bind, bind, readString_escape]
      show (Shape.readMember all draft field.name (octet ':' ::
        (value ++ (memberTail members ++ octet '\x7d' :: rest))) >>= fun p => _) = _
      rw [hmember]
      refine readMembers_tail hfills (fun f hf => hfound f (List.mem_cons_of_mem _ hf)) ?_ rest
      show members.length < (_ ++ octet '"' :: octet ':' ::
        (value ++ (memberTail members ++ octet '\x7d' :: rest))).length
      simp only [List.length_append, List.length_cons]
      omega

/-- A structure is read back from an object whose members fill a complete draft, whatever stands
behind it. -/
theorem read_object {shape : Shape δ α} {members : List (String × Bytes)} {a : α}
    (hnames : (shape.fields.map Field.name).Nodup)
    (hfills : Fills shape.fields members shape.blank filled) (hfinish : shape.finish filled = .ok a)
    (rest : Bytes) : shape.read (object members ++ rest) = .ok (a, rest) := by
  -- The members stand between the braces, with commas.
  have hobject : object members ++ rest =
      octet '\x7b' :: (commas (members.map fun m => member m.1 m.2) ++ octet '\x7d' :: rest) := by
    simp [object]
  have hfinished : Shape.read.finished shape filled = .ok a := by
    rw [Shape.read.finished, hfinish]
    rfl
  rw [hobject, Shape.read, dropBlank_cons (by decide)]
  show (Shape.readMembers shape.fields _ true shape.blank _ >>= fun p =>
    Shape.read.finished shape p.1 >>= fun a => pure (a, p.2)) = _
  rw [readMembers_object hfills (isFoundIn_self hnames) rfl]
  simp only [Except.bind, bind, hfinished]
  rfl

end Objects

/-- A written object is read back as a whole text. -/
theorem readAll_object {shape : Shape δ α} {members : List (String × Bytes)} {filled : δ} {a : α}
    (hnames : (shape.fields.map Field.name).Nodup)
    (hfills : Fills shape.fields members shape.blank filled)
    (hfinish : shape.finish filled = .ok a) :
    readAll shape.read (object members) = .ok a := by
  have hread := read_object hnames hfills hfinish []
  rw [List.append_nil] at hread
  rw [readAll, hread]
  rfl

end Muster.Json
