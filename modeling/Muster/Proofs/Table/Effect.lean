import Mathlib.Data.List.Forall2
import Muster.Proofs.Store.View
import Muster.Proofs.Table.Outcome

/-!
# Effects of table operations

What an outcome of an operation means for the contents of the store. `Effect` says what the
operation found, in the contents of the moment at which its transaction began and in those of the
moment at which it ended, and what it left. Transactions, logs and locks do not occur any more: an
outcome whose log is borne out by the contents has an effect (`Outcome.effect`). What an effect does
to the contents, whatever was found and answered, is a `Change`.
-/

namespace Muster.Table

open Muster.Silo (Address Codec Entry)
open Stored (Record)
open Transaction (Replays)

variable {t : Table} {snapshot before after : Contents} {action : Action} {answer : Answer}
  {k : Course} {tx : Transaction} {etags : List String}

/-- Rows and version are in different dictionaries. -/
theorem dictionary_versionCell_ne (t : Table) : t.versionCell.dictionary ≠ t.stateName := by
  intro h
  have hlength : (t.stateName ++ ".version").length = t.stateName.length := congrArg String.length h
  rw [String.length_append] at hlength
  exact Nat.ne_of_gt (Nat.lt_add_of_pos_right (by decide)) hlength

/-- No row is kept in the cell of the version. -/
theorem ne_versionCell {cell : Cell} (h : cell.dictionary = t.stateName) :
    cell ≠ t.versionCell := by
  rintro rfl
  exact t.dictionary_versionCell_ne h

/-- Rows are read one after another, each as one entry. -/
theorem entriesOf?_iff {codec : Codec} {rows : List Row} {members : List (Entry × String)} :
    entriesOf? codec rows = .ok members ↔
      List.Forall₂ (fun row member => Stored.entryOfBytes? codec row.2 = .ok member) rows
        members := by
  unfold entriesOf?
  -- Along the rows: both sides fail at the first row that cannot be read.
  induction rows generalizing members with
  | nil =>
    rw [List.mapM_nil, List.forall₂_nil_left_iff, eq_comm]
    exact ⟨Except.ok.inj, congrArg Except.ok⟩
  | cons row rows ih =>
    rw [List.mapM_cons, List.forall₂_cons_left_iff]
    cases hrow : Stored.entryOfBytes? codec row.2 with
    | error fault => simp [bind, Except.bind]
    | ok member =>
      cases hrest : rows.mapM fun row => Stored.entryOfBytes? codec row.2 with
      | error fault =>
        rw [hrest] at ih
        simp [bind, Except.bind, ← ih]
      | ok rest =>
        rw [hrest] at ih
        simp only [Except.ok.injEq] at ih
        simp only [bind, Except.bind, pure, Except.pure, ← ih, Except.ok.injEq]
        constructor
        · rintro rfl
          exact ⟨member, rest, rfl, rfl, rfl⟩
        · rintro ⟨member', rest', rfl, rfl, rfl⟩
          rfl

/-- The contents before and after an action, and what it found in `snapshot`, the contents when its
transaction began, and in `before`. The etags are those that the action was given, the last
first. -/
inductive Effect (t : Table) (snapshot before after : Contents) :
    Action → List String → Answer → Prop
  /-- No version record was asked for. -/
  | prepared (hafter : after = before) : Effect t snapshot before after (.prepare false) [] .done
  /-- There was no version record. -/
  | createdVersion (hversion : before.find? t.versionCell = none)
    (hafter : ∀ cell, after.find? cell =
      if cell = t.versionCell then some (Stored.versionToBytes .initial)
      else before.find? cell) :
    Effect t snapshot before after (.prepare true) [] .done
  /-- There was a version record. -/
  | versionExists (hversion : (before.find? t.versionCell).isSome = true)
    (hafter : after = before) :
    Effect t snapshot before after (.prepare true) [] .done
  /-- The silo had no row. -/
  | inserted (entry : Entry) (expected : Version) (rowEtag versionEtag : String)
    (version : Version) (hrow : before.find? (t.rowCell entry.address) = none)
    (hversion : versionOf? (before.find? t.versionCell) = .ok version)
    (hafter : ∀ cell, after.find? cell =
      if cell = t.versionCell then some (Stored.versionToBytes (version.next versionEtag))
      else if cell = t.rowCell entry.address then some (t.rowBytes entry rowEtag)
      else before.find? cell) :
    Effect t snapshot before after (.insertRow entry expected) [versionEtag, rowEtag] (.flag true)
  /-- The silo had a row. -/
  | rowExists (entry : Entry) (expected : Version) (rowEtag : String)
    (hrow : (before.find? (t.rowCell entry.address)).isSome = true) (hafter : after = before) :
    Effect t snapshot before after (.insertRow entry expected) [rowEtag] (.flag false)
  /-- The row had the etag that was expected. -/
  | updated (entry : Entry) (expected : Version) (rowEtag versionEtag : String) (bytes : Bytes)
    (record : Record) (version : Version) (hrecord : Record.ofBytes? bytes = .ok record)
    (hrow : before.find? (t.rowCell entry.address) = some bytes)
    (hversion : versionOf? (before.find? t.versionCell) = .ok version)
    (hafter : ∀ cell, after.find? cell =
      if cell = t.versionCell then some (Stored.versionToBytes (version.next versionEtag))
      else if cell = t.rowCell entry.address then some (t.rowBytes entry rowEtag)
      else before.find? cell) :
    Effect t snapshot before after (.updateRow entry record.etag expected) [versionEtag, rowEtag]
      (.flag true)
  /-- The silo had no row to update. -/
  | noRowToUpdate (entry : Entry) (etag : String) (expected : Version)
    (hrow : before.find? (t.rowCell entry.address) = none) (hafter : after = before) :
    Effect t snapshot before after (.updateRow entry etag expected) [] (.flag false)
  /-- The row had another etag. -/
  | etagMismatch (entry : Entry) (etag : String) (expected : Version) (bytes : Bytes)
    (record : Record) (hrecord : Record.ofBytes? bytes = .ok record) (hne : record.etag ≠ etag)
    (hrow : before.find? (t.rowCell entry.address) = some bytes) (hafter : after = before) :
    Effect t snapshot before after (.updateRow entry etag expected) [] (.flag false)
  /-- The silo had a row for the heartbeat. -/
  | beaten (entry : Entry) (rowEtag : String) (bytes : Bytes) (record : Record)
    (hrecord : Record.ofBytes? bytes = .ok record)
    (hrow : before.find? (t.rowCell entry.address) = some bytes)
    (hafter : ∀ cell, after.find? cell =
      if cell = t.rowCell entry.address then some (record.beat entry.aliveTime rowEtag).toBytes
      else before.find? cell) :
    Effect t snapshot before after (.heartbeat entry) [rowEtag] .done
  /-- The silo had no row for its heartbeat. -/
  | noRowForHeartbeat (entry : Entry) (hrow : before.find? (t.rowCell entry.address) = none)
    (hafter : after = before) : Effect t snapshot before after (.heartbeat entry) [] .done
  /-- The row and the version were read in the snapshot. -/
  | rowRead (address : Address) (members : List (Entry × String)) (version : Version)
    (hversion : versionOf? (snapshot.find? t.versionCell) = .ok version)
    (hmembers : entriesOf? t.codec ((snapshot.find? (t.rowCell address)).toList.map
      fun bytes => ((t.rowCell address).key, bytes)) = .ok members) (hafter : after = before) :
    Effect t snapshot before after (.readRow address) [] (.roster ⟨members, version⟩)
  /-- All rows and the version were read in the snapshot. -/
  | allRead (members : List (Entry × String)) (version : Version)
    (hversion : versionOf? (snapshot.find? t.versionCell) = .ok version)
    (hmembers : entriesOf? t.codec (snapshot.rows t.stateName) = .ok members)
    (hafter : after = before) :
    Effect t snapshot before after .readAll [] (.roster ⟨members, version⟩)
  /-- The request was for another cluster. -/
  | ignoredDelete (clusterId : String) (hne : clusterId ≠ t.clusterId) (hafter : after = before) :
    Effect t snapshot before after (.deleteEntries clusterId) [] .done
  /-- The rows of the snapshot and the version were cleared. -/
  | deleted (hafter : ∀ cell, after.find? cell =
      if cell = t.versionCell ∨
        cell.dictionary = t.stateName ∧ (snapshot.find? cell).isSome = true then none
      else before.find? cell) :
    Effect t snapshot before after (.deleteEntries t.clusterId) [] .done

/-- How an action changes the contents. Most of the ways in which an action ends leave them as they
are. -/
inductive Change (t : Table) (snapshot before after : Contents) : Action → Prop
  /-- The contents stay as they are. -/
  | still (action : Action) (hafter : after = before) : Change t snapshot before after action
  /-- The first version record is written. -/
  | created (hversion : before.find? t.versionCell = none) (hafter : ∀ cell, after.find? cell =
      if cell = t.versionCell then some (Stored.versionToBytes .initial)
      else before.find? cell) :
    Change t snapshot before after (.prepare true)
  /-- A row is added, and the version moves on. -/
  | inserted (entry : Entry) (expected : Version) (rowEtag versionEtag : String)
    (version : Version) (hrow : before.find? (t.rowCell entry.address) = none)
    (hversion : versionOf? (before.find? t.versionCell) = .ok version)
    (hafter : ∀ cell, after.find? cell =
      if cell = t.versionCell then some (Stored.versionToBytes (version.next versionEtag))
      else if cell = t.rowCell entry.address then some (t.rowBytes entry rowEtag)
      else before.find? cell) :
    Change t snapshot before after (.insertRow entry expected)
  /-- A row is replaced, and the version moves on. -/
  | updated (entry : Entry) (etag : String) (expected : Version) (rowEtag versionEtag : String)
    (version : Version) (hrow : (before.find? (t.rowCell entry.address)).isSome = true)
    (hversion : versionOf? (before.find? t.versionCell) = .ok version)
    (hafter : ∀ cell, after.find? cell =
      if cell = t.versionCell then some (Stored.versionToBytes (version.next versionEtag))
      else if cell = t.rowCell entry.address then some (t.rowBytes entry rowEtag)
      else before.find? cell) :
    Change t snapshot before after (.updateRow entry etag expected)
  /-- A row is replaced. -/
  | beaten (entry : Entry) (bytes : Bytes)
    (hrow : (before.find? (t.rowCell entry.address)).isSome = true)
    (hafter : ∀ cell, after.find? cell =
      if cell = t.rowCell entry.address then some bytes else before.find? cell) :
    Change t snapshot before after (.heartbeat entry)
  /-- The rows of the snapshot and the version are cleared. -/
  | cleared (hafter : ∀ cell, after.find? cell =
      if cell = t.versionCell ∨
        cell.dictionary = t.stateName ∧ (snapshot.find? cell).isSome = true then none
      else before.find? cell) :
    Change t snapshot before after (.deleteEntries t.clusterId)

/-- An effect changes the contents in one of few ways. -/
theorem Effect.change (he : t.Effect snapshot before after action etags answer) :
    t.Change snapshot before after action := by
  cases he with
  | createdVersion hversion hafter => exact .created hversion hafter
  | inserted entry expected rowEtag versionEtag version hrow hversion hafter =>
    exact .inserted entry expected rowEtag versionEtag version hrow hversion hafter
  | updated entry expected rowEtag versionEtag bytes record version hrecord hrow hversion hafter =>
    have hsome : (before.find? (t.rowCell entry.address)).isSome = true := by
      rw [hrow]
      rfl
    exact .updated entry record.etag expected rowEtag versionEtag version hsome hversion hafter
  | beaten entry rowEtag bytes record hrecord hrow hafter =>
    have hsome : (before.find? (t.rowCell entry.address)).isSome = true := by
      rw [hrow]
      rfl
    exact .beaten entry _ hsome hafter
  | deleted hafter => exact .cleared hafter
  | prepared hafter => exact .still _ hafter
  | versionExists hversion hafter => exact .still _ hafter
  | rowExists entry expected rowEtag hrow hafter => exact .still _ hafter
  | noRowToUpdate entry etag expected hrow hafter => exact .still _ hafter
  | etagMismatch entry etag expected bytes record hrecord hne hrow hafter => exact .still _ hafter
  | noRowForHeartbeat entry hrow hafter => exact .still _ hafter
  | rowRead address members version hversion hmembers hafter => exact .still _ hafter
  | allRead members version hversion hmembers hafter => exact .still _ hafter
  | ignoredDelete clusterId hne hafter => exact .still _ hafter

/-- A row that is replaced leaves a row where there was one, and no row elsewhere. -/
theorem isSome_replaced {cell cell' : Cell} {bytes : Bytes}
    (hrow : (before.find? cell').isSome = true) :
    (if cell = cell' then some bytes else before.find? cell).isSome =
      (before.find? cell).isSome := by
  split
  · rename_i hcell
    rw [hcell, hrow]
    rfl
  · rfl

/-- A row that is written together with the version where there was none is one more. -/
theorem length_rows_added {entry : Entry} {version row : Bytes}
    (hrow : before.find? (t.rowCell entry.address) = none) (hafter : ∀ cell, after.find? cell =
      if cell = t.versionCell then some version
      else if cell = t.rowCell entry.address then some row else before.find? cell) :
    (after.rows t.stateName).length = (before.rows t.stateName).length + 1 := by
  refine Contents.length_rows_insert hrow fun key => ?_
  rw [hafter, if_neg (ne_versionCell rfl)]
  by_cases hkey : key = t.codec.encode entry.address
  · rw [if_pos (by rw [hkey]; rfl)]
    simp [hkey]
  · rw [if_neg fun hcell => hkey (congrArg Cell.key hcell)]
    simp [hkey]

/-- A row that is replaced together with the version leaves as many rows as there were. -/
theorem length_rows_replaced {entry : Entry} {version row : Bytes}
    (hrow : (before.find? (t.rowCell entry.address)).isSome = true)
    (hafter : ∀ cell, after.find? cell =
      if cell = t.versionCell then some version
      else if cell = t.rowCell entry.address then some row else before.find? cell) :
    (after.rows t.stateName).length = (before.rows t.stateName).length := by
  refine Contents.length_rows_congr fun key => ?_
  rw [hafter, if_neg (ne_versionCell rfl), isSome_replaced hrow]

/-- A change other than an insertion puts no row where there was none. -/
theorem Change.isSome_of_isSome (hc : t.Change snapshot before after action)
    (hne : ∀ entry expected, action ≠ .insertRow entry expected) {cell : Cell}
    (hcell : cell.dictionary = t.stateName) (hsome : (after.find? cell).isSome = true) :
    (before.find? cell).isSome = true := by
  -- Only an insertion fills a cell, and a deletion leaves what it does not remove.
  cases hc with
  | still action hafter => rwa [hafter] at hsome
  | created hversion hafter => rwa [hafter, if_neg (ne_versionCell hcell)] at hsome
  | inserted entry expected rowEtag versionEtag version hrow hversion hafter =>
    exact absurd rfl (hne entry expected)
  | updated entry etag expected rowEtag versionEtag version hrow hversion hafter =>
    rwa [hafter, if_neg (ne_versionCell hcell), isSome_replaced hrow] at hsome
  | beaten entry bytes hrow hafter => rwa [hafter, isSome_replaced hrow] at hsome
  | cleared hafter =>
    rw [hafter] at hsome
    split at hsome
    · exact absurd hsome (by simp)
    · exact hsome

/-- A version that moves on replaces the version that it was read from. -/
theorem view_versionMove {latest : Contents} {start : Transaction} {log : List Answered}
    {stored : Option Bytes} {next : Version}
    (h : Replays latest start (t.versionMove stored next ++ log) tx) :
    ∃ middle, Replays latest start log middle ∧ stored = middle.view latest t.versionCell ∧
      ∀ cell, tx.view latest cell =
        if cell = t.versionCell then some (Stored.versionToBytes next)
        else middle.view latest cell := by
  obtain ⟨middle, hread, rfl⟩ := Replays.set h
  obtain ⟨hlog, hstored⟩ := Replays.readLocked hread
  exact ⟨middle, hlog, hstored, fun cell => Transaction.view_buffer middle latest _ cell _⟩

/-- The cells of the rows of a snapshot. -/
theorem mem_cells_rows {dictionary : String} {cell : Cell} :
    cell ∈ (snapshot.rows dictionary).map (fun row => Cell.mk dictionary row.1) ↔
      cell.dictionary = dictionary ∧ (snapshot.find? cell).isSome = true := by
  rw [List.mem_map]
  constructor
  · rintro ⟨row, hrow, rfl⟩
    refine ⟨rfl, ?_⟩
    rw [SortedMap.find?_eq_some_iff.2 (Contents.mem_rows.1 hrow)]
    rfl
  · rintro ⟨rfl, hsome⟩
    obtain ⟨bytes, hbytes⟩ := Option.isSome_iff_exists.1 hsome
    exact ⟨(cell.key, bytes), Contents.mem_rows.2 (SortedMap.find?_eq_some_iff.1 hbytes), rfl⟩

/-- Clearing the rows of the snapshot clears their cells and no others. -/
theorem view_clears {latest : Contents} {start : Transaction} {log removals : List Answered}
    {rows : List Row} (h : Replays latest start (removals ++ log) tx)
    (hclears : t.Clears rows removals) :
    ∃ middle, Replays latest start log middle ∧ ∀ cell, tx.view latest cell =
      if cell ∈ rows.map (fun row => Cell.mk t.stateName row.1) then none
      else middle.view latest cell := by
  have hcells : removals.map Sigma.fst =
      (rows.reverse.map fun row => Cell.mk t.stateName row.1).map .remove := by
    rw [List.map_map, List.map_reverse, ← List.reverse_eq_iff, ← List.map_reverse]
    exact hclears
  obtain ⟨middle, hmiddle, hview⟩ := h.removals hcells
  refine ⟨middle, hmiddle, fun cell => ?_⟩
  rw [hview, List.map_reverse]
  simp only [List.mem_reverse]

/-- **An outcome whose log the contents bear out has an effect on them.** -/
theorem Outcome.effect (h : t.Outcome action k answer)
    (hreplays : Replays before (.begin snapshot) k.requests tx)
    (hcommitted : k.IsCommitted → after = before.apply tx.changes)
    (hnot : ¬ k.IsCommitted → after = before) :
    t.Effect snapshot before after action k.etags answer := by
  -- Outcomes without a commit leave the contents as they are.
  have hdiscarded : ∀ {ticket : Ticket} {requests : List Answered} {etags : List String},
      ¬ (Course.mk (.discarded ticket) requests etags).IsCommitted := by
    rintro ticket requests etags ⟨ticket', hstage⟩
    exact absurd hstage (by simp)
  have hstart : ¬ Course.start.IsCommitted := by
    rintro ⟨ticket, hstage⟩
    exact absurd hstage (by simp [Course.start])
  cases h with
  | prepared => exact .prepared (hnot hstart)
  | createdVersion ticket =>
    obtain ⟨start, rfl, hview, rfl⟩ := Replays.add_true hreplays
    refine .createdVersion hview fun cell => ?_
    rw [hcommitted ⟨ticket, rfl⟩, Transaction.find?_apply_changes, Transaction.view_buffer]
    rfl
  | versionExists ticket =>
    obtain ⟨rfl, hversion⟩ := Replays.add_false hreplays
    exact .versionExists hversion (hnot hdiscarded)
  | inserted ticket entry expected rowEtag versionEtag stored version hversion =>
    -- The log ends with the move of the version, behind the row that was added.
    obtain ⟨middle, hadd, rfl, hview⟩ := view_versionMove hreplays
    obtain ⟨start, rfl, hrow, rfl⟩ := Replays.add_true hadd
    refine .inserted entry expected rowEtag versionEtag version hrow ?_ fun cell => ?_
    · rwa [Transaction.view_buffer, if_neg (ne_versionCell rfl).symm] at hversion
    · rw [hcommitted ⟨ticket, rfl⟩, Transaction.find?_apply_changes, hview,
        Transaction.view_buffer]
      rfl
  | rowExists ticket entry expected rowEtag =>
    obtain ⟨rfl, hrow⟩ := Replays.add_false hreplays
    exact .rowExists entry expected rowEtag hrow (hnot hdiscarded)
  | updated ticket entry expected rowEtag versionEtag bytes record stored version hrecord
      hversion =>
    -- The row was read and then written before the version moved on.
    obtain ⟨middle, hset, rfl, hview⟩ := view_versionMove hreplays
    obtain ⟨start, hread, rfl⟩ := Replays.set hset
    obtain ⟨rfl, hrow⟩ := Replays.readLocked hread
    refine .updated entry expected rowEtag versionEtag bytes record version hrecord hrow.symm ?_
      fun cell => ?_
    · rwa [Transaction.view_buffer, if_neg (ne_versionCell rfl).symm] at hversion
    · rw [hcommitted ⟨ticket, rfl⟩, Transaction.find?_apply_changes, hview,
        Transaction.view_buffer]
      rfl
  | noRowToUpdate ticket entry etag expected =>
    obtain ⟨rfl, hrow⟩ := Replays.readLocked hreplays
    exact .noRowToUpdate entry etag expected hrow.symm (hnot hdiscarded)
  | etagMismatch ticket entry etag expected bytes record hrecord hne =>
    obtain ⟨rfl, hrow⟩ := Replays.readLocked hreplays
    exact .etagMismatch entry etag expected bytes record hrecord hne hrow.symm (hnot hdiscarded)
  | beaten ticket entry rowEtag bytes record hrecord =>
    obtain ⟨start, hread, rfl⟩ := Replays.set hreplays
    obtain ⟨rfl, hrow⟩ := Replays.readLocked hread
    refine .beaten entry rowEtag bytes record hrecord hrow.symm fun cell => ?_
    rw [hcommitted ⟨ticket, rfl⟩, Transaction.find?_apply_changes, Transaction.view_buffer]
    rfl
  | noRowForHeartbeat ticket entry =>
    obtain ⟨rfl, hrow⟩ := Replays.readLocked hreplays
    exact .noRowForHeartbeat entry hrow.symm (hnot hdiscarded)
  | rowRead ticket address row stored members version hversion hmembers =>
    obtain ⟨hread, hstored⟩ := Replays.read hreplays
    obtain ⟨rfl, hrow⟩ := Replays.read hread
    rw [hstored] at hversion
    rw [hrow] at hmembers
    exact .rowRead address members version hversion hmembers (hnot hdiscarded)
  | allRead ticket rows stored members version hversion hmembers =>
    obtain ⟨hread, hstored⟩ := Replays.read hreplays
    obtain ⟨rfl, hrows⟩ := Replays.scan hread
    rw [hstored] at hversion
    rw [hrows] at hmembers
    exact .allRead members version hversion hmembers (hnot hdiscarded)
  | ignoredDelete clusterId hne => exact .ignoredDelete clusterId hne (hnot hstart)
  | deleted ticket rows removals stored hremovals =>
    -- The version was cleared last, the rows of the scan before it.
    obtain ⟨middle, hlog, hversion⟩ := Replays.remove hreplays
    obtain ⟨start, hscan, hview⟩ := view_clears hlog hremovals
    obtain ⟨rfl, hrows⟩ := Replays.scan hscan
    obtain rfl : rows = snapshot.rows t.stateName := hrows
    refine .deleted fun cell => ?_
    rw [hcommitted ⟨ticket, rfl⟩, Transaction.find?_apply_changes, hversion, hview]
    by_cases hcell : cell = t.versionCell
    · rw [if_pos hcell, if_pos (.inl hcell)]
    · rw [if_neg hcell]
      by_cases hrow : cell ∈ (snapshot.rows t.stateName).map fun row => Cell.mk t.stateName row.1
      · rw [if_pos hrow, if_pos (.inr (mem_cells_rows.1 hrow))]
      · rw [if_neg hrow, if_neg (not_or.2 ⟨hcell, fun h => hrow (mem_cells_rows.2 h)⟩)]
        rfl

end Muster.Table
