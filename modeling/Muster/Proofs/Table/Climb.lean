import Muster.Proofs.Contents
import Muster.Proofs.Program.Climb
import Muster.Proofs.Table.Outcome

/-!
# Tables lock in ascending order

The version of a table is kept in a dictionary whose name goes on where that of the rows ends, so
its cell is above the cells of all rows. Inserts and updates lock a row and then the version; a
deletion locks the rows in the order in which it has scanned them, which is ascending, and then the
version. That the dictionary of one table's version may hold the rows of another does not matter, as
the order is one of cells.
-/

namespace Muster.Table

open Operation
open Muster.Silo (Address Entry)

variable {t : Table} {cells : List Cell}

/-- The dictionary of the version is above that of the rows. -/
theorem compare_stateName (t : Table) :
    compare t.stateName (t.stateName ++ ".version") = .lt := by
  refine compareOfLessAndEq_eq_lt.2 (String.lt_iff.2 (List.lt_iff_exists.2 (.inl ?_)))
  rw [String.toList_append, List.length_append]
  exact ⟨List.take_left.symm, Nat.lt_add_of_pos_right (by decide)⟩

/-- The cells of rows are below that of the version. -/
theorem isNext_versionCell (hcells : ∀ cell ∈ cells, cell.dictionary = t.stateName) :
    IsNext cells t.versionCell := by
  refine .inr fun cell hcell => Cell.lt_of_dictionary ?_
  rw [hcells cell hcell]
  exact t.compare_stateName

/-- The version comes after all rows. -/
theorem climbs_advanceVersion {Q : Version → List Cell → Prop} (tx : Ticket) (expected : Version)
    (hcells : ∀ cell ∈ cells, cell.dictionary = t.stateName)
    (h : ∀ version cells, Q version cells) :
    Climbs (t.advanceVersion tx expected) cells Q := by
  refine climbs_bind (climbs_resolve _ ?_)
  refine climbs_bind (climbs_ask (fun cell hcell => ?_) fun stored _ => ?_)
  · rw [← Option.some.inj hcell]
    exact isNext_versionCell hcells
  refine climbs_bind (climbs_read _ fun current => ?_)
  refine climbs_bind (climbs_perform (by simp) ?_)
  intro etag
  -- The version is set under the lock that it was read with.
  have hset : Climbs (do
      ask t.store tx (.set t.versionCell (Stored.versionToBytes (current.next etag)))
      return current.next etag) (t.versionCell :: cells) Q :=
    climbs_bind (climbs_ask (fun cell hcell => .inl (Option.some.inj hcell ▸ List.mem_cons_self))
      fun _ _ => climbs_pure (h _ _))
  exact climbs_ite (climbs_bind (climbs_note _ hset)) hset

/-- The end of a transaction that changes nothing locks nothing. -/
theorem climbs_refuse (tx : Ticket) (notice : Notice) :
    Climbs (do
      discard tx
      note notice
      return false) cells fun _ _ => True := by
  refine climbs_bind (climbs_discard tx ?_)
  exact climbs_bind (climbs_note _ (climbs_pure trivial))

/-- Preparing a table asks for one lock only. -/
theorem climbs_prepare (t : Table) (createVersion : Bool) :
    Climbs (t.prepare createVersion) [] fun _ _ => True := by
  refine climbs_bind (climbs_resolve _ ?_)
  refine climbs_bind (climbs_resolve _ (climbs_ite ?_ ?_))
  · refine climbs_bind (climbs_within fun tx => ?_)
    refine climbs_bind (climbs_ask (fun cell _ => isNext_nil cell) fun isAdded _ => ?_)
    refine climbs_ite ?_ (climbs_discard tx (climbs_note _ trivial))
    exact climbs_bind (climbs_commit tx (climbs_note _ (climbs_note _ trivial)))
  · exact climbs_note _ trivial

/-- An insertion asks for its row and then for the version. -/
theorem climbs_insertRow (t : Table) (entry : Entry) (expected : Version) :
    Climbs (t.insertRow entry expected) [] fun _ _ => True := by
  refine climbs_bind (climbs_resolve _ ?_)
  refine climbs_bind (climbs_perform (by simp) fun etag => ?_)
  refine climbs_within fun tx => ?_
  -- The row is the first cell that is locked, and the version comes after it.
  refine climbs_bind (climbs_ask (fun cell _ => isNext_nil cell) fun isAdded _ => ?_)
  refine climbs_ite ?_ (climbs_refuse tx _)
  refine climbs_bind (climbs_advanceVersion tx expected (by simp [Request.lock?, rowCell]) ?_)
  intro version cells
  refine climbs_bind (climbs_commit tx ?_)
  exact climbs_bind (climbs_note _ (climbs_pure trivial))

/-- An update asks for its row and then for the version. -/
theorem climbs_updateRow (t : Table) (entry : Entry) (etag : String) (expected : Version) :
    Climbs (t.updateRow entry etag expected) [] fun _ _ => True := by
  refine climbs_bind (climbs_resolve _ (climbs_within fun tx => ?_))
  refine climbs_bind (climbs_ask (fun cell _ => isNext_nil cell) fun stored _ => ?_)
  cases stored with
  | none => exact climbs_refuse tx _
  | some bytes =>
    refine climbs_bind (climbs_read _ fun current => climbs_ite (climbs_refuse tx _) ?_)
    refine climbs_bind (climbs_perform (by simp) fun newEtag => ?_)
    -- The row is written under the lock that it was read with.
    refine climbs_bind (climbs_ask (fun cell hcell => ?_) fun _ _ => ?_)
    · rw [← Option.some.inj hcell]
      exact isNext_singleton _
    refine climbs_bind (climbs_advanceVersion tx expected (by simp [Request.lock?, rowCell]) ?_)
    intro version cells
    refine climbs_bind (climbs_commit tx ?_)
    exact climbs_bind (climbs_note _ (climbs_pure trivial))

/-- A heartbeat asks for the lock of its row only. -/
theorem climbs_heartbeat (t : Table) (entry : Entry) :
    Climbs (t.heartbeat entry) [] fun _ _ => True := by
  refine climbs_bind (climbs_resolve _ (climbs_within fun tx => ?_))
  refine climbs_bind (climbs_ask (fun cell _ => isNext_nil cell) fun stored _ => ?_)
  cases stored with
  | none => exact climbs_bind (climbs_discard tx (climbs_note _ trivial))
  | some bytes =>
    refine climbs_bind (climbs_read _ fun record => ?_)
    refine climbs_bind (climbs_perform (by simp) ?_)
    intro newEtag
    refine climbs_bind (climbs_ask (fun cell hcell => ?_) fun _ _ => ?_)
    · rw [← Option.some.inj hcell]
      exact isNext_singleton _
    · exact climbs_bind (climbs_commit tx (climbs_note _ trivial))

/-- A reading of one row asks for no lock. -/
theorem climbs_readRow (t : Table) (address : Address) :
    Climbs (t.readRow address) [] fun _ _ => True := by
  refine climbs_bind (climbs_resolve _ ?_)
  refine climbs_bind (climbs_resolve _ ?_)
  refine climbs_bind (climbs_within fun tx => ?_)
  refine climbs_bind (climbs_ask_free rfl fun stored => ?_)
  refine climbs_bind (climbs_ask_free rfl fun version => ?_)
  refine climbs_bind (climbs_read _ fun version => ?_)
  refine climbs_bind (climbs_discard tx (climbs_pure ?_))
  exact climbs_bind (climbs_read _ fun members => climbs_pure trivial)

/-- A reading of all rows asks for no lock. -/
theorem climbs_readAll (t : Table) : Climbs t.readAll [] fun _ _ => True := by
  refine climbs_bind (climbs_resolve _ ?_)
  refine climbs_bind (climbs_resolve _ ?_)
  refine climbs_bind (climbs_within fun tx => ?_)
  refine climbs_bind (climbs_scan _ tx fun rows _ => ?_)
  refine climbs_bind (climbs_ask_free rfl fun version => ?_)
  refine climbs_bind (climbs_read _ fun version => ?_)
  refine climbs_bind (climbs_discard tx (climbs_pure ?_))
  refine climbs_bind (climbs_read _ fun members => ?_)
  exact climbs_bind (climbs_note _ (climbs_pure trivial))

/-- Rows that ascend are locked one after the other, above those that are locked already. -/
theorem climbs_removeRows {Q : Unit → List Cell → Prop} (t : Table) (tx : Ticket)
    {rows : List Row} (hrows : rows.Pairwise fun row row' => compare row.1 row'.1 = .lt)
    (hcells : ∀ cell ∈ cells, cell.dictionary = t.stateName ∧
      ∀ row ∈ rows, compare cell.key row.1 = .lt)
    (h : ∀ cells : List Cell, (∀ cell ∈ cells, cell.dictionary = t.stateName) → Q () cells) :
    Climbs (t.removeRows tx rows) cells Q := by
  induction rows generalizing cells with
  | nil => exact climbs_pure (h cells fun cell hcell => (hcells cell hcell).1)
  | cons row rest ih =>
    obtain ⟨hrow, hrest⟩ := List.pairwise_cons.1 hrows
    refine climbs_bind (climbs_checkCancelled ?_)
    refine climbs_bind (climbs_ask ?_ fun removed _ => ?_)
    -- All that is locked is a row below this one.
    · intro cell hcell
      rw [← Option.some.inj hcell]
      refine .inr fun locked hlocked => ?_
      obtain ⟨hdictionary, hbelow⟩ := hcells locked hlocked
      exact Cell.lt_of_key hdictionary (hbelow row List.mem_cons_self)
    · refine ih hrest fun cell hcell => ?_
      rcases List.mem_cons.1 hcell with rfl | hold
      · exact ⟨rfl, hrow⟩
      · obtain ⟨hdictionary, hbelow⟩ := hcells cell hold
        exact ⟨hdictionary, fun row' hrow' => hbelow row' (List.mem_cons_of_mem _ hrow')⟩

/-- A deletion asks for the rows in the order of its snapshot and then for the version. -/
theorem climbs_deleteEntries (t : Table) (clusterId : String) :
    Climbs (t.deleteEntries clusterId) [] fun _ _ => True := by
  refine climbs_ite (climbs_note _ trivial) ?_
  refine climbs_bind (climbs_resolve _ ?_)
  refine climbs_bind (climbs_resolve _ ?_)
  refine climbs_bind (climbs_within fun tx => ?_)
  refine climbs_bind (climbs_scan _ tx fun rows hrows => ?_)
  refine climbs_bind (t.climbs_removeRows tx hrows (by simp) fun cells hcells => climbs_bind ?_)
  refine climbs_ask (fun cell hcell => ?_) fun removed _ => ?_
  · rw [← Option.some.inj hcell]
    exact isNext_versionCell hcells
  · refine climbs_bind (climbs_checkCancelled ?_)
    refine climbs_bind (climbs_commit tx ?_)
    exact climbs_pure (climbs_note _ trivial)

/-- **Every operation of a table asks for locks in ascending order.** -/
theorem climbs_operation (t : Table) (action : Action) :
    Climbs (t.operation action) [] fun _ _ => True := by
  cases action with
  | prepare createVersion => exact (t.climbs_prepare createVersion).answer fun _ => Answer.done
  | insertRow entry expected => exact (t.climbs_insertRow entry expected).answer Answer.flag
  | updateRow entry etag expected =>
    exact (t.climbs_updateRow entry etag expected).answer Answer.flag
  | heartbeat entry => exact (t.climbs_heartbeat entry).answer fun _ => Answer.done
  | readRow address => exact (t.climbs_readRow address).answer Answer.roster
  | readAll => exact t.climbs_readAll.answer Answer.roster
  | deleteEntries clusterId => exact (t.climbs_deleteEntries clusterId).answer fun _ => Answer.done

end Muster.Table
