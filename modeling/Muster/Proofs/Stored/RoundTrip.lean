import Muster.Proofs.Json.Nested
import Muster.Stored.Reader
import Muster.Stored.Writer

/-!
# Stored records are read back

What is written of a record or of a version fills the fields in the order in which they are
declared, so both are read back as they were, whatever texts, numbers and timestamps they hold.
Stored bytes therefore belong to one record or to one version, never to two
(`toBytes_determine_record`).
-/

namespace Muster.Stored

open Muster.Json (Fills ReadsBack)

/-- A value that is read back is read back into the field of a draft. -/
theorem readsBack_map {α δ : Type} {read : Bytes → Except Json.Fault (α × Bytes)} {written : Bytes}
    {a : α} {next : δ} {f : α × Bytes → δ × Bytes} (h : ReadsBack read written a)
    (hf : ∀ rest, f (a, rest) = (next, rest)) :
    ReadsBack (fun text => (read text).map f) written next := by
  intro rest hrest
  dsimp only
  rw [h rest hrest, ← hf]
  rfl

/-- A written suspicion fills both of its fields. -/
theorem fills_suspicion (s : Suspicion) :
    Fills suspicionShape.fields
      [("silo_address", Json.string s.address), ("suspect_time", Json.timestamp s.time)]
      suspicionShape.blank ⟨some s.address, some s.time⟩ := by
  refine ⟨rfl, rfl, _, readsBack_map (Json.readsBack_string s.address) fun _ => rfl, ?_⟩
  refine ⟨rfl, rfl, _, readsBack_map (Json.readsBack_timestamp s.time) fun _ => rfl, ?_⟩
  rfl

/-- The fields of a suspicion have different names. -/
theorem suspicion_names : (suspicionShape.fields.map Json.Field.name).Nodup := by
  simp [suspicionShape]

/-- Suspicions are read back. -/
theorem readsBack_suspicion (s : Suspicion) : ReadsBack suspicionShape.read s.toBytes s :=
  fun rest _ => Json.read_object suspicion_names (fills_suspicion s) rfl rest

/-- So are lists of suspicions. -/
theorem readsBack_suspicions (ss : List Suspicion) :
    ReadsBack (Json.readArray suspicionShape.read) (Json.array (ss.map Suspicion.toBytes)) ss :=
  Json.readsBack_array fun s _ => ⟨Json.isBraced_object _, readsBack_suspicion s⟩

/-- Statuses are read back. -/
theorem readsBack_status (s : Silo.Status) : ReadsBack readStatus (Json.string s.name) s :=
  Json.readsBack_choice (Silo.Status.ofName?_name s)

/-- A written record fills every field. -/
theorem fills_record (r : Record) :
    Fills recordShape.fields r.members recordShape.blank
      { address := some r.address, status := some r.status, proxyPort := some r.proxyPort,
        hostName := some r.hostName, siloName := some r.siloName, startTime := some r.startTime,
        aliveTime := some r.aliveTime, suspicions := some r.suspicions, etag := some r.etag } := by
  -- One line for each field, in the order in which the program writes them.
  refine ⟨rfl, rfl, _, readsBack_map (Json.readsBack_string r.address) fun _ => rfl, ?_⟩
  refine ⟨rfl, rfl, _, readsBack_map (readsBack_status r.status) fun _ => rfl, ?_⟩
  refine ⟨rfl, rfl, _, readsBack_map (Json.readsBack_uint16 r.proxyPort) fun _ => rfl, ?_⟩
  refine ⟨rfl, rfl, _, readsBack_map (Json.readsBack_string r.hostName) fun _ => rfl, ?_⟩
  refine ⟨rfl, rfl, _, readsBack_map (Json.readsBack_string r.siloName) fun _ => rfl, ?_⟩
  refine ⟨rfl, rfl, _, readsBack_map (Json.readsBack_timestamp r.startTime) fun _ => rfl, ?_⟩
  refine ⟨rfl, rfl, _, readsBack_map (Json.readsBack_timestamp r.aliveTime) fun _ => rfl, ?_⟩
  refine ⟨rfl, rfl, _, readsBack_map (readsBack_suspicions r.suspicions) fun _ => rfl, ?_⟩
  refine ⟨rfl, rfl, _, readsBack_map (Json.readsBack_string r.etag) fun _ => rfl, ?_⟩
  rfl

/-- The fields of a record have different names. -/
theorem record_names : (recordShape.fields.map Json.Field.name).Nodup := by
  simp [recordShape]

/-- **A stored record is read back.** -/
theorem ofBytes?_toBytes (r : Record) : Record.ofBytes? r.toBytes = .ok r := by
  rw [Record.ofBytes?, Record.toBytes, Json.readAll_object record_names (fills_record r) rfl]
  rfl

/-- A written version fills both of its fields. -/
theorem fills_version (v : Table.Version) :
    Fills versionShape.fields (versionMembers v) versionShape.blank
      ⟨some v.number, some v.etag⟩ := by
  refine ⟨rfl, rfl, _, readsBack_map (Json.readsBack_int32 v.number) fun _ => rfl, ?_⟩
  refine ⟨rfl, rfl, _, readsBack_map (Json.readsBack_string v.etag) fun _ => rfl, ?_⟩
  rfl

/-- The fields of a version have different names. -/
theorem version_names : (versionShape.fields.map Json.Field.name).Nodup := by
  simp [versionShape]

/-- **A stored version is read back.** -/
theorem versionOfBytes?_versionToBytes (v : Table.Version) :
    versionOfBytes? (versionToBytes v) = .ok v := by
  rw [versionOfBytes?, versionToBytes, Json.readAll_object version_names (fills_version v) rfl]
  rfl

/-! ## Stored bytes tell what is stored -/

/-- Different records are stored as different texts. -/
theorem toBytes_injective {r r' : Record} (h : r.toBytes = r'.toBytes) : r = r' := by
  have hread := ofBytes?_toBytes r'
  rw [← h, ofBytes?_toBytes r] at hread
  exact Except.ok.inj hread

/-- Different versions are stored as different texts. -/
theorem versionToBytes_injective {v v' : Table.Version}
    (h : versionToBytes v = versionToBytes v') : v = v' := by
  have hread := versionOfBytes?_versionToBytes v'
  rw [← h, versionOfBytes?_versionToBytes v] at hread
  exact Except.ok.inj hread

/-- Records and versions differ in the name of their first member. -/
theorem toBytes_ne_versionToBytes (r : Record) (v : Table.Version) :
    r.toBytes ≠ versionToBytes v := by
  have hrecord : r.toBytes[2]? = some (Json.octet 's') := rfl
  have hversion : (versionToBytes v)[2]? = some (Json.octet 'v') := rfl
  intro h
  rw [h, hversion] at hrecord
  exact absurd hrecord (by decide)

/-- **Stored bytes belong to one record or one version.** Every record and every version is read
back as it was written, so two that are different are never stored as the same bytes. -/
theorem toBytes_determine_record :
    (∀ r : Record, Record.ofBytes? r.toBytes = .ok r) ∧
      (∀ v : Table.Version, versionOfBytes? (versionToBytes v) = .ok v) ∧
      (∀ r r' : Record, r.toBytes = r'.toBytes ↔ r = r') ∧
      (∀ v v' : Table.Version, versionToBytes v = versionToBytes v' ↔ v = v') ∧
      (∀ (r : Record) (v : Table.Version), r.toBytes ≠ versionToBytes v) := by
  refine ⟨ofBytes?_toBytes, versionOfBytes?_versionToBytes, ?_, ?_, toBytes_ne_versionToBytes⟩
  · exact fun r r' => ⟨toBytes_injective, congrArg Record.toBytes⟩
  · exact fun v v' => ⟨versionToBytes_injective, congrArg versionToBytes⟩

end Muster.Stored
