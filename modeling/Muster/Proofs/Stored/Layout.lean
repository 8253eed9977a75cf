import Muster.Proofs.Json.Layout
import Muster.Proofs.Stored.Entry

/-!
# Stored records are read however they are laid out

Rows that other versions of a program have written stay readable: the members of a record may come
in any order, with blanks between any two tokens and among members of other names with whatever
values those have, and so may the members of its suspicions. Only the suspicions may be missing. A
record that lacks another field, or has one twice, is refused (`read_however_laid_out`).
-/

namespace Muster.Stored

open Muster.Json (Admits AreApart AreExact Blanks Element IsExact IsValue Layout Reads ReadsBack
  Remembers arrayText)

/-! ## Suspicions -/

/-- The names of the fields of a suspicion. -/
def suspicionNames : List String :=
  ["silo_address", "suspect_time"]

/-- The members of a written suspicion. -/
def Suspicion.members (s : Suspicion) : List (String × Bytes) :=
  [("silo_address", Json.string s.address), ("suspect_time", Json.timestamp s.time)]

/-- An object that holds both members of a suspicion as they are written, once each. -/
def Suspicion.IsLaidOut (s : Suspicion) (l : Layout) : Prop :=
  l.Holds suspicionNames (fun name value => (name, value) ∈ s.members) ∧
    ∀ name ∈ suspicionNames, l.names.count name = 1

/-- The draft of a suspicion of which some names have been seen. -/
def Suspicion.draft (s : Suspicion) (seen : List String) : SuspicionDraft where
  address := if "silo_address" ∈ seen then some s.address else none
  time := if "suspect_time" ∈ seen then some s.time else none

/-- A draft that a value was read into holds the value. -/
theorem exists_of_map {α δ : Type} {x : Except Json.Fault (α × Bytes)} {f : α × Bytes → δ × Bytes}
    {next : δ} {rest : Bytes} (h : x.map f = .ok (next, rest)) :
    ∃ p, x = .ok p ∧ next = (f p).1 ∧ rest = (f p).2 := by
  cases x with
  | error fault => cases h
  | ok p =>
    have hp : f p = (next, rest) := Except.ok.inj h
    exact ⟨p, rfl, congrArg Prod.fst hp.symm, congrArg Prod.snd hp.symm⟩

/-- The fields of a suspicion can be told apart. -/
theorem isRegular_suspicionShape : suspicionShape.IsRegular where
  -- Each field is read exactly: a change of the draft does not change what is read.
  areExact := by
    constructor
    · simp only [suspicionShape, List.forall_mem_cons]
      exact ⟨fun _ => (Json.readText_blanks _).map _, fun _ => Json.readTimestamp_blanks.map _,
        List.forall_mem_nil _⟩
    · simp only [suspicionShape, List.forall_mem_cons]
      exact ⟨fun d => (Json.isExact_text _).map fun v => { d with address := some v },
        fun d => Json.isExact_timestamp.map fun v => { d with time := some v },
        List.forall_mem_nil _⟩
  areApart := by
    simp only [AreApart, suspicionShape, List.forall_mem_cons]
    -- Reading a field fills its own place in the draft and no other.
    refine ⟨?_, ?_, List.forall_mem_nil _⟩
    · intro draft text next rest h
      obtain ⟨p, -, rfl, -⟩ := exists_of_map h
      simp
    · intro draft text next rest h
      obtain ⟨p, -, rfl, -⟩ := exists_of_map h
      simp
  nodup := suspicion_names
  blank := by
    simp [suspicionShape]

/-- Suspicions are read exactly. -/
theorem isExact_suspicions : IsExact (Json.readArray suspicionShape.read) :=
  Json.isExact_array (Json.Shape.isExact_read isRegular_suspicionShape.areExact)

/-- The fields of a record can be told apart. -/
theorem isRegular_recordShape : recordShape.IsRegular where
  areExact := by
    constructor
    · simp only [recordShape, List.forall_mem_cons]
      exact ⟨fun _ => (Json.readText_blanks _).map _, fun _ => (Json.readChoice_blanks _ _).map _,
        fun _ => Json.readUInt16_blanks.map _, fun _ => (Json.readText_blanks _).map _,
        fun _ => (Json.readText_blanks _).map _, fun _ => Json.readTimestamp_blanks.map _,
        fun _ => Json.readTimestamp_blanks.map _, fun _ => Json.readArray_blanks.map _,
        fun _ => (Json.readText_blanks _).map _, List.forall_mem_nil _⟩
    · simp only [recordShape, List.forall_mem_cons]
      exact ⟨fun d => (Json.isExact_text _).map fun v => { d with address := some v },
        fun d => (Json.isExact_choice _ _).map fun v => { d with status := some v },
        fun d => Json.isExact_uint16.map fun v => { d with proxyPort := some v },
        fun d => (Json.isExact_text _).map fun v => { d with hostName := some v },
        fun d => (Json.isExact_text _).map fun v => { d with siloName := some v },
        fun d => Json.isExact_timestamp.map fun v => { d with startTime := some v },
        fun d => Json.isExact_timestamp.map fun v => { d with aliveTime := some v },
        fun d => isExact_suspicions.map fun v => { d with suspicions := some v },
        fun d => (Json.isExact_text _).map fun v => { d with etag := some v },
        List.forall_mem_nil _⟩
  areApart := by
    simp only [AreApart, recordShape, List.forall_mem_cons]
    refine ⟨?_, ?_, ?_, ?_, ?_, ?_, ?_, ?_, ?_, List.forall_mem_nil _⟩
    -- What was read is the old draft with one field set, whatever the value was.
    all_goals
      intro draft text next rest h
      obtain ⟨p, -, rfl, -⟩ := exists_of_map h
      simp
  nodup := record_names
  blank := by
    simp [recordShape]

/-! ## Suspicions are read however they are laid out -/

/-- A field is set in a draft if its name has been seen. -/
theorem isSome_seen {α : Type} (name : String) (seen : List String) (a : α) :
    (if name ∈ seen then some a else none).isSome = seen.contains name := by
  by_cases h : name ∈ seen
  · simp [h]
  · simp [h]

/-- The drafts of a suspicion hold the fields that have been seen. -/
theorem remembers_suspicion (s : Suspicion) :
    Remembers suspicionShape.fields (fun name value => (name, value) ∈ s.members) s.draft where
  isSet := by
    simp only [suspicionShape, List.forall_mem_cons]
    -- A field is set in the draft when its name has been seen.
    exact ⟨fun seen => isSome_seen _ seen _, fun seen => isSome_seen _ seen _,
      List.forall_mem_nil _⟩
  reads := by
    simp only [suspicionShape, List.forall_mem_cons]
    refine ⟨fun seen value h => ?_, fun seen value h => ?_, List.forall_mem_nil _⟩
    · obtain rfl : value = Json.string s.address := by simpa [Suspicion.members] using h
      exact readsBack_map (Json.readsBack_string s.address) fun _ => by simp [Suspicion.draft]
    · obtain rfl : value = Json.timestamp s.time := by simpa [Suspicion.members] using h
      exact readsBack_map (Json.readsBack_timestamp s.time) fun _ => by simp [Suspicion.draft]
  -- Another name is at neither place.
  others := by
    intro name hname seen
    simp only [suspicionShape, List.map_cons, List.map_nil, List.mem_cons, List.not_mem_nil,
      or_false, not_or] at hname
    simp [Suspicion.draft, Ne.symm hname.1, Ne.symm hname.2]

/-- What is written for a field of a suspicion is a value. -/
theorem isValue_of_mem_suspicion {s : Suspicion} {name : String} {value : Bytes}
    (h : (name, value) ∈ s.members) : IsValue value := by
  simp only [Suspicion.members, List.mem_cons, List.not_mem_nil, or_false, Prod.mk.injEq] at h
  rcases h with ⟨-, rfl⟩ | ⟨-, rfl⟩
  · exact Json.isValue_string s.address
  · exact Json.isValue_string s.time.toText

/-- A suspicion that is laid out somehow is a value. -/
theorem Suspicion.IsLaidOut.isValue {s : Suspicion} {l : Layout} (h : s.IsLaidOut l) :
    IsValue l.toBytes :=
  Layout.isValue (h.1.areValues fun _ _ => isValue_of_mem_suspicion)

/-- A suspicion is read however it is laid out. -/
theorem Suspicion.IsLaidOut.readsBack {s : Suspicion} {l : Layout} (h : s.IsLaidOut l) :
    ReadsBack suspicionShape.read l.toBytes s := by
  intro rest _
  obtain ⟨hholds, hcount⟩ := h
  have hmem : ∀ name ∈ suspicionNames, name ∈ l.names.reverse := fun name hname =>
    List.mem_reverse.2 (List.count_pos_iff.1 (by rw [hcount name hname]; exact Nat.one_pos))
  refine isRegular_suspicionShape.read_layout (fun _ _ => isValue_of_mem_suspicion)
    (remembers_suspicion s) (by simp [Suspicion.draft, suspicionShape]) hholds ?_ ?_ rest
  · exact fun field hfield => Nat.le_of_eq (hcount field.name (List.mem_map_of_mem hfield))
  · have haddress := hmem "silo_address" (by decide)
    have htime := hmem "suspect_time" (by decide)
    simp only [suspicionShape, Suspicion.draft, if_pos haddress, if_pos htime]
    rfl

/-! ## Records -/

/-- The names of the fields of a record. -/
def recordNames : List String :=
  ["silo_address", "status", "proxy_port", "host_name", "silo_name", "start_time",
    "i_am_alive_time", "suspect_times", "etag"]

/-- How the value of a member of a record may be written: as it is written with the record, apart
from the blanks between suspicions and the layout of each. -/
def Record.Writes (r : Record) (name : String) (value : Bytes) : Prop :=
  if name = "suspect_times" then
    ∃ (gap : Blanks) (entries : List (Element × Suspicion)),
      value = arrayText gap (entries.map Prod.fst) ∧ entries.map Prod.snd = r.suspicions ∧
        ∀ p ∈ entries, ∃ l : Layout, p.1.value = l.toBytes ∧ p.2.IsLaidOut l
  else (name, value) ∈ r.members

/-- The draft of a record of which some names have been seen. -/
def Record.draft (r : Record) (seen : List String) : RecordDraft where
  address := if "silo_address" ∈ seen then some r.address else none
  status := if "status" ∈ seen then some r.status else none
  proxyPort := if "proxy_port" ∈ seen then some r.proxyPort else none
  hostName := if "host_name" ∈ seen then some r.hostName else none
  siloName := if "silo_name" ∈ seen then some r.siloName else none
  startTime := if "start_time" ∈ seen then some r.startTime else none
  aliveTime := if "i_am_alive_time" ∈ seen then some r.aliveTime else none
  suspicions := if "suspect_times" ∈ seen then some r.suspicions else none
  etag := if "etag" ∈ seen then some r.etag else none

/-- What is written for a field of a record is a value. -/
theorem Record.Writes.isValue {r : Record} {name : String} {value : Bytes}
    (h : r.Writes name value) : IsValue value := by
  unfold Record.Writes at h
  split at h
  -- The suspicions are an array of values; every other member is one of the nine that are written.
  · obtain ⟨gap, entries, rfl, -, hentries⟩ := h
    refine .array gap _ (List.forall_mem_map.2 fun p hp => ?_)
    obtain ⟨l, hvalue, hlaid⟩ := hentries p hp
    rw [hvalue]
    exact hlaid.isValue
  · simp only [Record.members, List.mem_cons, List.not_mem_nil, or_false, Prod.mk.injEq] at h
    rcases h with ⟨-, rfl⟩ | ⟨-, rfl⟩ | ⟨-, rfl⟩ | ⟨-, rfl⟩ | ⟨-, rfl⟩ | ⟨-, rfl⟩ | ⟨-, rfl⟩ |
      ⟨hname, -⟩ | ⟨-, rfl⟩
    · exact Json.isValue_string _
    · exact Json.isValue_string _
    · exact Json.isValue_number _
    · exact Json.isValue_string _
    · exact Json.isValue_string _
    · exact Json.isValue_string _
    · exact Json.isValue_string _
    · exact absurd hname ‹_›
    · exact Json.isValue_string _

/-- Suspicions are read however they are laid out. -/
theorem readsBack_writes {r : Record} {value : Bytes} (h : r.Writes "suspect_times" value) :
    ReadsBack (Json.readArray suspicionShape.read) value r.suspicions := by
  rw [Record.Writes, if_pos rfl] at h
  obtain ⟨gap, entries, rfl, hsuspicions, hentries⟩ := h
  rw [← hsuspicions]
  refine Json.readsBack_arrayText (fun p hp => ?_) gap
  obtain ⟨l, hvalue, hlaid⟩ := hentries p hp
  rw [hvalue]
  exact ⟨hlaid.isValue, hlaid.readsBack⟩

/-- A member that is written in one way only is read into the draft as what is written. -/
theorem readsBack_written {α : Type} {r : Record} {name : String} {value written : Bytes}
    {read : Bytes → Except Json.Fault (α × Bytes)} {a : α}
    {f : α × Bytes → RecordDraft × Bytes} {next : RecordDraft}
    (hread : ReadsBack read written a) (hname : name ≠ "suspect_times")
    (hwritten : ∀ m ∈ r.members, m.1 = name → m.2 = written) (h : r.Writes name value)
    (hnext : ∀ rest, f (a, rest) = (next, rest)) :
    ReadsBack (fun text => (read text).map f) value next := by
  rw [Record.Writes, if_neg hname] at h
  obtain rfl : value = written := hwritten (name, value) h rfl
  exact readsBack_map hread hnext

/-- The drafts of a record hold the fields that have been seen. -/
theorem remembers_record (r : Record) : Remembers recordShape.fields r.Writes r.draft where
  isSet := by
    -- The fields in the order of the program, each with its place in the draft.
    simp only [recordShape, List.forall_mem_cons]
    exact ⟨fun seen => isSome_seen _ seen _, fun seen => isSome_seen _ seen _,
      fun seen => isSome_seen _ seen _, fun seen => isSome_seen _ seen _,
      fun seen => isSome_seen _ seen _, fun seen => isSome_seen _ seen _,
      fun seen => isSome_seen _ seen _, fun seen => isSome_seen _ seen _,
      fun seen => isSome_seen _ seen _, List.forall_mem_nil _⟩
  reads := by
    simp only [recordShape, List.forall_mem_cons]
    refine ⟨?_, ?_, ?_, ?_, ?_, ?_, ?_, ?_, ?_, List.forall_mem_nil _⟩
    · intro seen value h
      exact readsBack_written (Json.readsBack_string r.address) (by decide)
        (by simp [Record.members]) h fun _ => by simp [Record.draft]
    · intro seen value h
      exact readsBack_written (readsBack_status r.status) (by decide)
        (by simp [Record.members]) h fun _ => by simp [Record.draft]
    · intro seen value h
      exact readsBack_written (Json.readsBack_uint16 r.proxyPort) (by decide)
        (by simp [Record.members]) h fun _ => by simp [Record.draft]
    · intro seen value h
      exact readsBack_written (Json.readsBack_string r.hostName) (by decide)
        (by simp [Record.members]) h fun _ => by simp [Record.draft]
    · intro seen value h
      exact readsBack_written (Json.readsBack_string r.siloName) (by decide)
        (by simp [Record.members]) h fun _ => by simp [Record.draft]
    · intro seen value h
      exact readsBack_written (Json.readsBack_timestamp r.startTime) (by decide)
        (by simp [Record.members]) h fun _ => by simp [Record.draft]
    · intro seen value h
      exact readsBack_written (Json.readsBack_timestamp r.aliveTime) (by decide)
        (by simp [Record.members]) h fun _ => by simp [Record.draft]
    · intro seen value h
      exact readsBack_map (readsBack_writes h) fun _ => by simp [Record.draft]
    · intro seen value h
      exact readsBack_written (Json.readsBack_string r.etag) (by decide)
        (by simp [Record.members]) h fun _ => by simp [Record.draft]
  others := by
    intro name hname seen
    -- A name that is none of the nine fills no place.
    simp only [recordShape, List.map_cons, List.map_nil, List.mem_cons, List.not_mem_nil,
      or_false, not_or] at hname
    obtain ⟨h1, h2, h3, h4, h5, h6, h7, h8, h9⟩ := hname
    simp [Record.draft, Ne.symm h1, Ne.symm h2, Ne.symm h3, Ne.symm h4, Ne.symm h5, Ne.symm h6,
      Ne.symm h7, Ne.symm h8, Ne.symm h9]

/-- A draft of which every field but the suspicions has been seen is that of a record. -/
theorem finish_draft (r : Record) (seen : List String)
    (h : ∀ name ∈ recordNames, name ≠ "suspect_times" → name ∈ seen) :
    recordShape.finish (r.draft seen) =
      .ok (if "suspect_times" ∈ seen then r else { r with suspicions := [] }) := by
  -- The names are written out, since each field has its own place in the record.
  have haddress := h "silo_address" (by decide) (by decide)
  have hstatus := h "status" (by decide) (by decide)
  have hproxyPort := h "proxy_port" (by decide) (by decide)
  have hhostName := h "host_name" (by decide) (by decide)
  have hsiloName := h "silo_name" (by decide) (by decide)
  have hstartTime := h "start_time" (by decide) (by decide)
  have haliveTime := h "i_am_alive_time" (by decide) (by decide)
  have hetag := h "etag" (by decide) (by decide)
  simp only [recordShape, Record.draft, if_pos haddress, if_pos hstatus, if_pos hproxyPort,
    if_pos hhostName, if_pos hsiloName, if_pos hstartTime, if_pos haliveTime, if_pos hetag]
  -- The suspicions are the one field that may be missing, and then there are none.
  by_cases hsuspicions : "suspect_times" ∈ seen
  · rw [if_pos hsuspicions, if_pos hsuspicions]
    rfl
  · rw [if_neg hsuspicions, if_neg hsuspicions]
    rfl

/-- What is required and there is a value. -/
theorem isSome_of_required {α : Type} {name : String} {o : Option α} {a : α}
    (h : required name o = .ok a) : o.isSome = true := by
  cases o with
  | none => cases h
  | some b => rfl

/-- A draft that is finished as a suspicion holds every field. -/
theorem isSet_of_finish_suspicion {d : SuspicionDraft} {s : Suspicion}
    (h : suspicionShape.finish d = .ok s) :
    ∀ field ∈ suspicionShape.fields, field.isSet d = true := by
  obtain ⟨address, haddress, h⟩ := Json.exists_of_bind h
  obtain ⟨time, htime, -⟩ := Json.exists_of_bind h
  simp only [suspicionShape, List.forall_mem_cons]
  exact ⟨isSome_of_required haddress, isSome_of_required htime,
    List.forall_mem_nil _⟩

/-- A draft that is finished as a record holds every field but the suspicions. -/
theorem isSet_of_finish_record {d : RecordDraft} {r : Record}
    (h : recordShape.finish d = .ok r) :
    ∀ field ∈ recordShape.fields, field.name ≠ "suspect_times" → field.isSet d = true := by
  -- The reading ends with one demand for each field that has to be there.
  obtain ⟨_, haddress, h⟩ := Json.exists_of_bind h
  obtain ⟨_, hstatus, h⟩ := Json.exists_of_bind h
  obtain ⟨_, hproxyPort, h⟩ := Json.exists_of_bind h
  obtain ⟨_, hhostName, h⟩ := Json.exists_of_bind h
  obtain ⟨_, hsiloName, h⟩ := Json.exists_of_bind h
  obtain ⟨_, hstartTime, h⟩ := Json.exists_of_bind h
  obtain ⟨_, haliveTime, h⟩ := Json.exists_of_bind h
  obtain ⟨_, hetag, -⟩ := Json.exists_of_bind h
  simp only [recordShape, List.forall_mem_cons]
  exact ⟨fun _ => isSome_of_required haddress, fun _ => isSome_of_required hstatus,
    fun _ => isSome_of_required hproxyPort, fun _ => isSome_of_required hhostName,
    fun _ => isSome_of_required hsiloName, fun _ => isSome_of_required hstartTime,
    fun _ => isSome_of_required haliveTime, fun hname => absurd rfl hname,
    fun _ => isSome_of_required hetag, List.forall_mem_nil _⟩

/-! ## Records that are refused -/

/-- Whether the suspicions of a record hold an object with which something is amiss as a
suspicion. -/
def HasSuspicionAmiss (l : Layout) : Prop :=
  ∃ p ∈ l.members, p.1 = "suspect_times" ∧ ∃ (gap : Blanks) (elements : List Element),
    p.2.value = arrayText gap elements ∧ (∀ e ∈ elements, IsValue e.value) ∧
      ∃ e ∈ elements, ∃ inner : Layout, e.value = inner.toBytes ∧ inner.AreValues ∧
        inner.IsAmiss suspicionNames suspicionNames

/-- Whether something is amiss with an object as a record: it lacks a field other than the
suspicions, it has a field twice, or something is amiss with a suspicion. -/
def IsRecordAmiss (l : Layout) : Prop :=
  l.IsAmiss (recordNames.erase "suspect_times") recordNames ∨ HasSuspicionAmiss l

/-- An array with such an object is not read as suspicions. -/
theorem not_accepts_suspicions {gap : Blanks} {elements : List Element} {e : Element}
    {inner : Layout} (hvalues : ∀ e ∈ elements, IsValue e.value) (he : e ∈ elements)
    (hinner : e.value = inner.toBytes) (hinnerValues : inner.AreValues)
    (hamiss : inner.IsAmiss suspicionNames suspicionNames) (ss : List Suspicion) :
    ¬ Json.Accepts (Json.readArray suspicionShape.read) (arrayText gap elements) ss := by
  rintro ⟨rest, -, hread⟩
  obtain ⟨-, haccepts⟩ := Json.accepts_of_readArray
    (Json.Shape.isExact_read isRegular_suspicionShape.areExact) hvalues hread
  obtain ⟨s, behind, -, hsuspicion⟩ := haccepts e he
  rw [hinner] at hsuspicion
  exact isRegular_suspicionShape.not_isAmiss_of_read suspicionNames (fun _ hname => hname)
    (fun _ _ hfinish field hfield _ => isSet_of_finish_suspicion hfinish field hfield)
    hinnerValues hsuspicion hamiss

/-- A record with which something is amiss is not read. -/
theorem not_read_of_isRecordAmiss {l : Layout} (hvalues : l.AreValues) (hamiss : IsRecordAmiss l)
    {rest behind : Bytes} {r : Record} :
    recordShape.read (l.toBytes ++ rest) ≠ .ok (r, behind) := by
  intro hread
  rcases hamiss with hamiss | ⟨p, hp, hname, gap, elements, hvalue, helements, e, he, inner, hinner,
    hinnerValues, hamiss⟩
  · refine isRegular_recordShape.not_isAmiss_of_read (recordNames.erase "suspect_times")
      (fun _ hname => List.mem_of_mem_erase hname) (fun _ _ hfinish field hfield hname => ?_)
      hvalues hread hamiss
    refine isSet_of_finish_record hfinish field hfield fun heq => ?_
    rw [heq] at hname
    exact absurd hname (by decide)
  · obtain ⟨-, -, -, -, hadmits⟩ := isRegular_recordShape.holds_of_read hvalues hread
    -- The field of the suspicions has admitted the array, so it was read.
    obtain ⟨before, after, rest, hrest, hfield⟩ :=
      hadmits p hp recordShape.fields[7] (List.getElem_mem _) hname.symm
    obtain ⟨⟨ss, behind⟩, hss, -, hbehind⟩ := exists_of_map hfield
    rw [hvalue, show behind = rest from hbehind.symm] at hss
    exact not_accepts_suspicions helements he hinner hinnerValues hamiss ss ⟨rest, hrest, hss⟩

/-! ## The main result -/

/-- Blanks around the text of a record do not matter. -/
theorem ofBytes?_layout {l : Layout} {after : Blanks} {r : Record}
    (h : recordShape.read (l.toBytes ++ after.octets) = .ok (r, after.octets)) (before : Blanks) :
    Record.ofBytes? (before.octets ++ (l.toBytes ++ after.octets)) = .ok r := by
  rw [Record.ofBytes?, Json.readAll_blanks Json.Shape.read_blanks before, Json.readAll_of_read h]
  rfl

/-- What is written for a record is read as the record, with the suspicions if they are there. -/
theorem ofBytes?_of_holds {l : Layout} {r : Record} (hholds : l.Holds recordNames r.Writes)
    (hneeded : ∀ name ∈ recordNames, name ≠ "suspect_times" → name ∈ l.names)
    (hcount : ∀ name ∈ recordNames, l.names.count name ≤ 1) (before after : Blanks) :
    Record.ofBytes? (before.octets ++ (l.toBytes ++ after.octets)) =
      .ok (if "suspect_times" ∈ l.names then r else { r with suspicions := [] }) := by
  have hfinish := finish_draft r l.names.reverse
    fun name hname hne => List.mem_reverse.2 (hneeded name hname hne)
  simp only [List.mem_reverse] at hfinish
  refine ofBytes?_layout ?_ before
  exact isRegular_recordShape.read_layout (fun _ _ => Record.Writes.isValue) (remembers_record r)
    (by simp [Record.draft, recordShape]) hholds
    (fun field hfield => hcount field.name (List.mem_map_of_mem hfield)) hfinish after.octets

/-- A suspicion as it is written is laid out. -/
theorem isLaidOut_written (s : Suspicion) : s.IsLaidOut (Layout.written s.members) := by
  refine ⟨Layout.holds_written fun m hm => ⟨fun _ => hm, fun _ => isValue_of_mem_suspicion hm⟩, ?_⟩
  rw [Layout.names_written]
  show ∀ name ∈ suspicionNames, suspicionNames.count name = 1
  decide

/-- Suspicions with the elements that are written for them. -/
def writtenEntries (ss : List Suspicion) : List (Element × Suspicion) :=
  ss.map fun s => (.written s.toBytes, s)

/-- What is written for a member of a record is one of the ways to write it. -/
theorem writes_of_mem {r : Record} {m : String × Bytes} (h : m ∈ r.members) :
    r.Writes m.1 m.2 := by
  unfold Record.Writes
  split
  · rename_i hname
    -- The writer leaves no blanks between the suspicions, which is one of the layouts.
    obtain ⟨name, value⟩ := m
    obtain rfl : name = "suspect_times" := hname
    obtain rfl : value = Json.array (r.suspicions.map Suspicion.toBytes) := by
      simpa [Record.members] using h
    refine ⟨Json.noBlanks, writtenEntries r.suspicions, ?_, ?_, ?_⟩
    · rw [← Json.arrayText_written, writtenEntries, List.map_map, List.map_map]
      rfl
    · rw [writtenEntries, List.map_map]
      exact List.map_id r.suspicions
    · exact List.forall_mem_map.2 fun s _ =>
        ⟨Layout.written s.members, (Layout.toBytes_written s.members).symm, isLaidOut_written s⟩
  · exact h

/-- The text that is written for a record is laid out in one of the ways that are read. -/
theorem holds_written (r : Record) : (Layout.written r.members).Holds recordNames r.Writes :=
  Layout.holds_written fun _ hm =>
    ⟨fun _ => writes_of_mem hm, fun _ => (writes_of_mem hm).isValue⟩

/-- **A stored record is read however it is laid out.** Any object that holds the members of a
record once each is read as the record, whatever their order, the blanks between tokens and the
members of other names, and with the same freedom in each suspicion; the text that is written is one
of these. Without the suspicions it is read as the record that nobody suspects. An object that lacks
another field or has one twice, or in which a suspicion does, is refused, whatever its values are. -/
theorem read_however_laid_out :
    (∀ r : Record, ∃ l : Layout, l.toBytes = r.toBytes ∧ l.Holds recordNames r.Writes ∧
      ∀ name ∈ recordNames, l.names.count name = 1) ∧
    ∀ (l : Layout) (before after : Blanks),
      (∀ r : Record, l.Holds recordNames r.Writes →
        ((∀ name ∈ recordNames, l.names.count name = 1) →
          Record.ofBytes? (before.octets ++ (l.toBytes ++ after.octets)) = .ok r) ∧
        ((∀ name ∈ recordNames, l.names.count name = if name = "suspect_times" then 0 else 1) →
          Record.ofBytes? (before.octets ++ (l.toBytes ++ after.octets)) =
            .ok { r with suspicions := [] }) ∧
        l.AreValues) ∧
      (l.AreValues → IsRecordAmiss l → ∃ fault,
        Record.ofBytes? (before.octets ++ (l.toBytes ++ after.octets)) = .error (.json fault)) := by
  constructor
  -- The text that is written is laid out so itself.
  · intro r
    refine ⟨Layout.written r.members, Layout.toBytes_written _, holds_written r, ?_⟩
    rw [Layout.names_written]
    show ∀ name ∈ recordNames, recordNames.count name = 1
    decide
  intro l before after
  -- All fields once; no suspicions; the members are values; and what is amiss.
  refine ⟨fun r hholds => ⟨fun hcount => ?_, fun hcount => ?_, ?_⟩, fun hvalues hamiss => ?_⟩
  · have hmem : ∀ name ∈ recordNames, name ∈ l.names := fun name hname =>
      List.count_pos_iff.1 (by rw [hcount name hname]; exact Nat.one_pos)
    have hread := ofBytes?_of_holds hholds (fun name hname _ => hmem name hname)
      (fun name hname => Nat.le_of_eq (hcount name hname)) before after
    rwa [if_pos (hmem "suspect_times" (by decide))] at hread
  · have hread := ofBytes?_of_holds hholds
      (fun name hname hne => List.count_pos_iff.1 (by
        rw [hcount name hname, if_neg hne]
        exact Nat.one_pos))
      (fun name hname => by
        rw [hcount name hname]
        split
        · exact Nat.zero_le 1
        · exact Nat.le_refl 1) before after
    have hnot : "suspect_times" ∉ l.names :=
      List.count_eq_zero.1 (hcount "suspect_times" (by decide))
    rwa [if_neg hnot] at hread
  · exact hholds.areValues fun _ _ => Record.Writes.isValue
  -- Nothing is read from such a layout, and what is not read is a fault of the text.
  · obtain ⟨fault, hfault⟩ := Json.exists_fault_of_read (l.toBytes ++ after.octets)
      fun r behind => not_read_of_isRecordAmiss (r := r) hvalues hamiss
    refine ⟨fault, ?_⟩
    rw [Record.ofBytes?, Json.readAll_blanks Json.Shape.read_blanks before, hfault]
    rfl

/-- The record of a suspected silo. -/
def suspectedRecord : Record :=
  ⟨"a", .active, 30000, "host", "silo", leapMoment, leapMoment, [⟨"b", leapMoment⟩], "first"⟩

/-- Its members the other way round, behind one of another name whose value is an array of
arrays. -/
def scatteredMembers : List (String × Bytes) :=
  ("zone", Json.array [Json.array [], Json.array [Json.string "etag"]]) ::
    suspectedRecord.members.reverse

/-- The members of the scattered text are those of the record, together with one of an unknown
name. -/
theorem holds_scattered :
    (Layout.written scatteredMembers).Holds recordNames suspectedRecord.Writes := by
  have harray : ∀ values : List Bytes, (∀ value ∈ values, IsValue value) →
      IsValue (Json.array values) := by
    intro values h
    -- The members in reverse order, behind one that no reader knows.
    rw [← Json.arrayText_written]
    exact .array _ _ (List.forall_mem_map.2 h)
  refine Layout.holds_written (List.forall_mem_cons.2 ⟨⟨fun hknown => ?_, fun _ => ?_⟩, ?_⟩)
  · exact absurd hknown (by decide)
  · refine harray _ (List.forall_mem_cons.2 ⟨harray [] (by simp), List.forall_mem_singleton.2 ?_⟩)
    exact harray _ (List.forall_mem_singleton.2 (Json.isValue_string "etag"))
  -- What the writer writes for the other members is what may be written.
  · intro m hm
    have hmem : m ∈ suspectedRecord.members := List.mem_reverse.1 hm
    exact ⟨fun _ => writes_of_mem hmem, fun _ => (writes_of_mem hmem).isValue⟩

/-- The scattered members are read as the record, between a space and a new line; with a second etag
they are refused. -/
theorem read_however_laid_out_scattered :
    Record.ofBytes? (Json.octet ' ' :: (Json.object scatteredMembers ++ [Json.octet '\n'])) =
        .ok suspectedRecord ∧
      ∃ fault, Record.ofBytes? (Json.octet ' ' ::
        (Json.object (("etag", Json.string "second") :: scatteredMembers) ++ [Json.octet '\n'])) =
          .error (.json fault) := by
  have hcount : ∀ name ∈ recordNames, (Layout.written scatteredMembers).names.count name = 1 := by
    rw [Layout.names_written]
    show ∀ name ∈ recordNames, ("zone" :: recordNames.reverse).count name = 1
    decide
  constructor
  -- The layout with every name once, between blanks.
  · have hread := (read_however_laid_out.2 (Layout.written scatteredMembers) ⟨[Json.octet ' '],
      by decide +kernel⟩ ⟨[Json.octet '\n'], by decide +kernel⟩).1 suspectedRecord holds_scattered
    rw [Layout.toBytes_written] at hread
    exact hread.1 hcount
  -- The same with the etag once more in front.
  · have hread := (read_however_laid_out.2
      (Layout.written (("etag", Json.string "second") :: scatteredMembers)) ⟨[Json.octet ' '],
      by decide +kernel⟩ ⟨[Json.octet '\n'], by decide +kernel⟩).2
    rw [Layout.toBytes_written] at hread
    refine hread ?_ (.inl (.inr ⟨"etag", by decide, ?_⟩))
    · refine List.forall_mem_cons.2 ⟨Json.isValue_string "second", ?_⟩
      exact holds_scattered.areValues fun _ _ => Record.Writes.isValue
    · rw [Layout.names_written]
      show 1 < ("etag" :: "zone" :: recordNames.reverse).count "etag"
      decide

end Muster.Stored
