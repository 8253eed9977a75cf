import Muster.Proofs.Silo.Address
import Muster.Proofs.Stored.RoundTrip

/-!
# Stored entries are read back

A record is read back as the entry it was made of if its codec gives back the addresses that it
was given (`entry?_ofEntry`). The canonical codec and every codec that puts a fixed text in front
do so for addresses without a flow label, so for them the key of a row tells which silo the row
belongs to and its record tells the entry (`canonical_text_identifies`).
-/

namespace Muster.Stored

open Muster.Silo (Address Codec Entry)

variable {codec : Codec} {entry : Entry}

/-- Suspicions are read back if the addresses of the suspecting silos are. -/
theorem mapM_suspicions {suspicions : List (Address × Time.Timestamp)}
    (h : ∀ s ∈ suspicions, codec.decode (codec.encode s.1) = .ok s.1) :
    (suspicions.map fun s => (⟨codec.encode s.1, s.2⟩ : Suspicion)).mapM
      (fun s => do return (← codec.decode s.address, s.time)) = Except.ok suspicions := by
  induction suspicions with
  | nil => rfl
  | cons head rest ih =>
    have hhead := h head List.mem_cons_self
    rw [List.map_cons, List.mapM_cons, ih fun s hs => h s (List.mem_cons_of_mem _ hs), hhead]
    rfl

/-- An entry is read back from its record if its addresses are. -/
theorem entry?_ofEntry (haddress : codec.decode (codec.encode entry.address) = .ok entry.address)
    (hsuspicions : ∀ s ∈ entry.suspicions, codec.decode (codec.encode s.1) = .ok s.1)
    (etag : String) : Record.entry? codec (Record.ofEntry codec entry etag) = .ok entry := by
  unfold Record.entry? Record.ofEntry
  dsimp only
  rw [mapM_suspicions hsuspicions, haddress]
  rfl

/-- What is read from bytes is the entry of the record that is read from them. -/
theorem entryOfBytes?_of_record {bytes : Bytes} {record : Record}
    (hbytes : Record.ofBytes? bytes = .ok record) (h : Record.entry? codec record = .ok entry) :
    entryOfBytes? codec bytes = .ok (entry, record.etag) := by
  unfold entryOfBytes?
  rw [hbytes]
  change (Except.mapError Fault.address (Record.entry? codec record) >>= fun entry =>
    pure (entry, record.etag)) = _
  rw [h]
  rfl

/-- What a record gives back is also read from the bytes in which it is stored. -/
theorem entryOfBytes?_toBytes {record : Record} (h : Record.entry? codec record = .ok entry) :
    entryOfBytes? codec record.toBytes = .ok (entry, record.etag) :=
  entryOfBytes?_of_record (ofBytes?_toBytes record) h

/-- A heartbeat changes the entry of a record as it changes the record. -/
theorem entry?_beat {record : Record} (h : Record.entry? codec record = .ok entry)
    (time : Time.Timestamp) (etag : String) :
    Record.entry? codec (record.beat time etag) = .ok { entry with aliveTime := time } := by
  unfold Record.entry? at h ⊢
  dsimp only [Record.beat, bind, Except.bind, pure, Except.pure] at h ⊢
  split at h
  · exact absurd h (by simp)
  · split at h
    · exact absurd h (by simp)
    · obtain rfl := Except.ok.inj h
      rfl

/-- The address of an entry is the one that its record is decoded to. -/
theorem decode_of_entry? {record : Record} (h : Record.entry? codec record = .ok entry) :
    codec.decode record.address = .ok entry.address := by
  unfold Record.entry? at h
  dsimp only [bind, Except.bind, pure, Except.pure] at h
  split at h
  · exact absurd h (by simp)
  · split at h
    · exact absurd h (by simp)
    · rename_i address haddress
      obtain rfl := Except.ok.inj h
      exact haddress

/-- The addresses of an entry have no flow labels. -/
def HasNoFlow (entry : Entry) : Prop :=
  entry.address.endpoint.flow = 0 ∧ ∀ s ∈ entry.suspicions, s.1.endpoint.flow = 0

/-- A codec that reads addresses back without their flow labels reads entries back that have
none. -/
theorem entry?_of_hasNoFlow (hcodec : ∀ a, codec.decode (codec.encode a) = .ok a.withoutFlow)
    (h : HasNoFlow entry) (etag : String) :
    Record.entry? codec (Record.ofEntry codec entry etag) = .ok entry := by
  have hread : ∀ a : Address, a.endpoint.flow = 0 → codec.decode (codec.encode a) = .ok a :=
    fun a ha => (hcodec a).trans (congrArg Except.ok (a.withoutFlow_eq_iff.2 ha))
  exact entry?_ofEntry (hread _ h.1) (fun s hs => hread _ (h.2 s hs)) etag

/-- **The canonical text identifies the silo, and records keep the entry.** Every address is read
back from its text without its flow label, so exactly the addresses without one are read back as
they are, two addresses have one text just if they are equal up to their flow labels, and what a
text is read as is read back from its own text. Under the canonical codec and under any codec that
puts a fixed text in front, the record of an entry without flow labels gives back the entry and
its etag, also through the bytes in which it is stored. -/
theorem canonical_text_identifies :
    (∀ a : Address, Address.ofText? a.toText = .ok a.withoutFlow) ∧
      (∀ a : Address, Address.ofText? a.toText = .ok a ↔ a.endpoint.flow = 0) ∧
      (∀ a b : Address, a.toText = b.toText ↔ a.withoutFlow = b.withoutFlow) ∧
      (∀ (text : String) (a : Address), Address.ofText? text = .ok a →
        Address.ofText? a.toText = .ok a) ∧
      ∀ codec : Codec, (codec = .canonical ∨ ∃ front, codec = .prefixed front) →
        ∀ (entry : Entry) (etag : String), HasNoFlow entry →
          Record.entry? codec (Record.ofEntry codec entry etag) = .ok entry ∧
            (Record.ofEntry codec entry etag).etag = etag ∧
            entryOfBytes? codec (Record.ofEntry codec entry etag).toBytes = .ok (entry, etag) := by
  -- Printing and parsing; what printing forgets; what parsing gives; the two codecs.
  refine ⟨Address.ofText?_toText, fun a => ?_, Address.toText_eq_iff, fun text a h => ?_, ?_⟩
  · rw [Address.ofText?_toText, ← a.withoutFlow_eq_iff]
    exact ⟨Except.ok.inj, congrArg Except.ok⟩
  · rw [Address.ofText?_toText, Address.withoutFlow_of_ofText? h]
  · intro codec hcodec entry etag h
    -- The prefix is put before the same text and taken off again.
    have hdecode : ∀ a, codec.decode (codec.encode a) = .ok a.withoutFlow := by
      rcases hcodec with rfl | ⟨front, rfl⟩
      · exact Codec.canonical_decode_encode
      · exact Codec.prefixed_decode_encode front
    have hentry := entry?_of_hasNoFlow hdecode h etag
    exact ⟨hentry, rfl, entryOfBytes?_toBytes hentry⟩

/-- The leap second at the end of a leap day, half over. -/
def leapMoment : Time.Timestamp :=
  ⟨⟨2024, 2, 29, by decide⟩, 86399, 1500000000, by decide, by decide, by decide⟩

/-- The entry of a silo on a link-local address that a silo on a mapped address suspects. -/
def linkLocalEntry : Entry :=
  ⟨⟨.v6 ⟨[0xfe80, 0, 0, 0, 1, 0, 0, 1], rfl⟩ 11111 0 3, -1⟩, .active, 30000, "host", "silo",
    leapMoment, leapMoment,
    [(⟨.v6 ⟨[0, 0, 0, 0, 0, 0xffff, 0x0a00, 1], rfl⟩ 11111 0 0, 7⟩, leapMoment)]⟩

/-- The entry has no flow label, and it is read back although its codec prefixes its address with
marks of its own. -/
theorem entry?_linkLocalEntry :
    HasNoFlow linkLocalEntry ∧
      Record.entry? (.prefixed "@:[")
        (Record.ofEntry (.prefixed "@:[") linkLocalEntry "1-0") = .ok linkLocalEntry := by
  have hflow : HasNoFlow linkLocalEntry := by
    refine ⟨rfl, fun s hs => ?_⟩
    rw [List.mem_singleton.1 hs]
    rfl
  have hread := canonical_text_identifies.2.2.2.2 (.prefixed "@:[") (.inr ⟨_, rfl⟩)
    linkLocalEntry "1-0" hflow
  exact ⟨hflow, hread.1⟩

end Muster.Stored
