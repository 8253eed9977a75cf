import Muster.Proofs.Contents
import Muster.Proofs.Gateways.Refresh
import Muster.Proofs.Silo.Gateway
import Muster.Proofs.Table.Effect

/-!
# What a gateway list lists

Which gateways the rows of a dictionary have is said without a reader (`IsListing`): under ascending
keys, the entry of every row that decodes, is active and has a gateway. There is one listing of any
contents, and the list of a refresh is that of their URIs, one for each entry (`IsListing.ofRows`);
none is left out, since every address has a gateway URI. A row that does not decode is in no
listing, so the list does not depend on it (`IsListing.of_undecodable`); and where all rows decode,
the listing is what is left of the members of the table (`ofRows_of_entriesOf?`).
-/

namespace Muster.GatewayList

open Muster.Silo (Codec Entry)
open Stored (Record)

/-- Stored bytes are the record of an entry. -/
def Decodes (codec : Codec) (bytes : Bytes) (entry : Entry) : Prop :=
  ∃ record, Record.ofBytes? bytes = .ok record ∧ Record.entry? codec record = .ok entry

/-- The gateways of a dictionary with the keys of their rows. -/
structure IsListing (codec : Codec) (c : Contents) (dictionary : String)
    (listed : List (String × Entry)) : Prop where
  /-- Keys ascend, so no row is listed twice. -/
  ascending : listed.Pairwise fun a b => compare a.1 b.1 = .lt
  /-- What is listed are the rows that decode and belong to an active silo with a gateway. -/
  mem_iff : ∀ key entry, (key, entry) ∈ listed ↔
    ∃ bytes, c.find? ⟨dictionary, key⟩ = some bytes ∧ Decodes codec bytes entry ∧
      entry.status = .active ∧ entry.proxyPort ≠ 0

/-- The entry of a row, if it decodes. -/
def decoded? (codec : Codec) (row : Row) : Option Entry :=
  (Stored.entryOfBytes? codec row.2).toOption.map Prod.fst

variable {codec : Codec} {c c' : Contents} {dictionary : String} {rows : List Row}
  {listed : List (String × Entry)}

/-- A row is decoded to an entry exactly if its bytes decode to it. -/
theorem decoded?_eq_some_iff {row : Row} {entry : Entry} :
    decoded? codec row = some entry ↔ Decodes codec row.2 entry := by
  rw [decoded?, Stored.entryOfBytes?, Decodes]
  cases hrecord : Record.ofBytes? row.2 with
  | error fault => simp [Except.toOption, bind, Except.bind]
  | ok record =>
    cases hentry : Record.entry? codec record with
    | error fault => simp [hentry, Except.toOption, Except.mapError, bind, Except.bind]
    | ok found =>
      simp [hentry, Except.toOption, Except.mapError, bind, Except.bind, pure, Except.pure]

/-- A gateway is an active silo with a proxy port. -/
theorem isGateway_iff {entry : Entry} :
    entry.isGateway = true ↔ entry.status = .active ∧ entry.proxyPort ≠ 0 := by
  simp [Entry.isGateway]

/-- An entry is that of one row and no other, so contents have one listing. -/
theorem IsListing.unique {listed' : List (String × Entry)}
    (h : IsListing codec c dictionary listed) (h' : IsListing codec c dictionary listed') :
    listed = listed' := by
  refine SortedMap.eq_of_lookup h.ascending h'.ascending fun key => ?_
  ext entry
  have hsame : (key, entry) ∈ listed ↔ (key, entry) ∈ listed' := by rw [h.mem_iff, h'.mem_iff]
  constructor
  · intro hfound
    exact SortedMap.lookup_of_mem h'.ascending (hsame.1 (SortedMap.mem_of_lookup hfound))
  · intro hfound
    exact SortedMap.lookup_of_mem h.ascending (hsame.2 (SortedMap.mem_of_lookup hfound))

/-- Rows that do not decode can be removed. -/
theorem IsListing.of_undecodable (h : IsListing codec c dictionary listed)
    (hcells : ∀ key, c'.find? ⟨dictionary, key⟩ = c.find? ⟨dictionary, key⟩ ∨
      c'.find? ⟨dictionary, key⟩ = none ∧ ∃ bytes, c.find? ⟨dictionary, key⟩ = some bytes ∧
        ∀ entry, ¬ Decodes codec bytes entry) : IsListing codec c' dictionary listed where
  ascending := h.ascending
  mem_iff key entry := by
    rw [h.mem_iff]
    rcases hcells key with hsame | ⟨hnone, bytes, hbytes, hnot⟩
    · rw [hsame]
    · rw [hnone, hbytes]
      constructor
      -- What was at the key was decoded to no entry, and now nothing is there.
      · rintro ⟨bytes', hfound, hdecodes, -⟩
        obtain rfl := Option.some.inj hfound
        exact absurd hdecodes (hnot entry)
      · rintro ⟨bytes', hfound, -⟩
        exact absurd hfound (by simp)

/-! ## The list of a refresh -/

/-- The gateway of a row with its key. -/
def gateway? (codec : Codec) (row : Row) : Option (String × Entry) :=
  ((decoded? codec row).filter Entry.isGateway).map (row.1, ·)

/-- A row is a gateway exactly if it decodes to the entry of an active silo with a proxy port. -/
theorem gateway?_eq_some_iff {row : Row} {key : String} {entry : Entry} :
    gateway? codec row = some (key, entry) ↔ row.1 = key ∧ Decodes codec row.2 entry ∧
      entry.status = .active ∧ entry.proxyPort ≠ 0 := by
  rw [gateway?, Option.map_eq_some_iff]
  constructor
  · rintro ⟨found, hfound, hpair⟩
    obtain ⟨rfl, rfl⟩ := Prod.mk.inj hpair
    obtain ⟨hentry, hgateway⟩ := Option.filter_eq_some_iff.1 hfound
    exact ⟨rfl, decoded?_eq_some_iff.1 hentry, isGateway_iff.1 hgateway⟩
  · rintro ⟨rfl, hdecodes, hgateway⟩
    exact ⟨entry, Option.filter_eq_some_iff.2
      ⟨decoded?_eq_some_iff.2 hdecodes, isGateway_iff.2 hgateway⟩, rfl⟩

/-- The rows of any contents have a listing. -/
theorem isListing_rows (codec : Codec) (c : Contents) (dictionary : String) :
    IsListing codec c dictionary ((c.rows dictionary).filterMap (gateway? codec)) where
  ascending := by
    refine (c.rows_ascending dictionary).filterMap _ ?_
    -- Each gateway of the list is known by the key of its row.
    rintro row row' hlt ⟨key, entry⟩ hlisted ⟨key', entry'⟩ hlisted'
    obtain ⟨rfl, -⟩ := gateway?_eq_some_iff.1 hlisted
    obtain ⟨rfl, -⟩ := gateway?_eq_some_iff.1 hlisted'
    exact hlt
  mem_iff key entry := by
    rw [List.mem_filterMap]
    constructor
    · rintro ⟨⟨key', bytes⟩, hrow, hlisted⟩
      obtain ⟨rfl, hgateway⟩ := gateway?_eq_some_iff.1 hlisted
      exact ⟨bytes, SortedMap.find?_eq_some_iff.2 (Contents.mem_rows.1 hrow), hgateway⟩
    · rintro ⟨bytes, hfound, hgateway⟩
      exact ⟨(key, bytes), Contents.mem_rows.2 (SortedMap.find?_eq_some_iff.1 hfound),
        gateway?_eq_some_iff.2 ⟨rfl, hgateway⟩⟩

/-- A row with a gateway has its URI in the list, and no other row has one. -/
theorem ofRow_eq (codec : Codec) (row : Row) :
    (ofRow codec row).bind Except.toOption =
      (gateway? codec row).map fun gateway =>
        Silo.Gateway.uri gateway.2.address gateway.2.proxyPort := by
  rw [ofRow, gateway?, decoded?]
  cases Stored.entryOfBytes? codec row.2 with
  | error fault => rfl
  | ok found =>
    obtain ⟨entry, etag⟩ := found
    by_cases hgateway : entry.isGateway = true
    · simp [Except.toOption, hgateway, Entry.gatewayUri?, Silo.Gateway.uri?_eq, Option.filter]
    · simp [Except.toOption, hgateway, Option.filter]

/-- The URIs of the rows are those of the gateways among them, in the order of the rows. -/
theorem ofRows_eq (codec : Codec) (rows : List Row) :
    ofRows codec rows = (rows.filterMap (gateway? codec)).map fun gateway =>
      Silo.Gateway.uri gateway.2.address gateway.2.proxyPort := by
  rw [ofRows, List.map_filterMap]
  exact List.filterMap_congr fun row _ => ofRow_eq codec row

/-- **The list of a refresh has the URI of every gateway of the listing**, in its order. -/
theorem IsListing.ofRows (h : IsListing codec c dictionary listed) :
    (ofRows codec (c.rows dictionary)).map Except.ok =
      listed.map fun gateway => gateway.2.gatewayUri? := by
  rw [h.unique (isListing_rows codec c dictionary), ofRows_eq, List.map_map]
  refine List.map_congr_left fun gateway _ => ?_
  rw [Entry.gatewayUri?, Silo.Gateway.uri?_eq]
  rfl

/-- A refresh returns the gateways of its snapshot, and commits nothing. -/
theorem Outcome.reads {g : GatewayList} {k : Course} {uris : List Uri} {latest snapshot : Contents}
    {tx : Transaction} (ho : g.Outcome k uris)
    (hreplays : Transaction.Replays latest (.begin snapshot) k.requests tx) :
    uris = GatewayList.ofRows g.codec (snapshot.rows g.stateName) ∧ k.IsFailed := by
  cases ho with
  | scanned ticket rows =>
    obtain ⟨rfl, rfl⟩ := hreplays.scan
    exact ⟨rfl, .inr ⟨ticket, rfl⟩⟩

/-! ## The members of a table -/

/-- Where all rows decode, the gateways among them are those among the members of the table. -/
theorem map_gateway? {members : List (Entry × String)}
    (h : Table.entriesOf? codec rows = .ok members) :
    (rows.filterMap (gateway? codec)).map Prod.snd =
      (members.map Prod.fst).filter Entry.isGateway := by
  induction Table.entriesOf?_iff.1 h with
  | nil => rfl
  | @cons row member rows members hrow hrest ih =>
    have hentry : decoded? codec row = some member.1 := by
      rw [decoded?, hrow]
      rfl
    have hmembers := ih (Table.entriesOf?_iff.2 hrest)
    rw [List.filterMap_cons, gateway?, hentry, List.map_cons]
    -- The row is a gateway, or both lists leave it out.
    by_cases hgateway : member.1.isGateway = true
    · rw [Option.filter_some_pos hgateway, List.filter_cons_of_pos hgateway, ← hmembers]
      rfl
    · rw [Option.filter_some_neg (Bool.eq_false_iff.2 hgateway),
        List.filter_cons_of_neg hgateway, ← hmembers]
      rfl

/-- **Where the table can be read, a refresh lists those of its members that are gateways.** -/
theorem ofRows_of_entriesOf? {members : List (Entry × String)}
    (h : Table.entriesOf? codec rows = .ok members) :
    (ofRows codec rows).map Except.ok =
      ((members.map Prod.fst).filter Entry.isGateway).map Entry.gatewayUri? := by
  rw [← map_gateway? h, ofRows_eq, List.map_map, List.map_map]
  refine List.map_congr_left fun gateway _ => ?_
  rw [Function.comp_apply, Function.comp_apply, Entry.gatewayUri?, Silo.Gateway.uri?_eq]

end Muster.GatewayList
