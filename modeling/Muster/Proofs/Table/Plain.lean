import Muster.Proofs.Program.Trail
import Muster.Proofs.Table.Outcome

/-!
# Table operations are plain

The operations of a table neither read the clock of refreshes nor hand in gateway lists, whatever
replies they get.
-/

namespace Muster.Table

open Operation
open Muster.Silo (Address Entry)

/-- Moving the version on is plain. -/
theorem isPlain_advanceVersion (t : Table) (tx : Ticket) (expected : Version) :
    IsPlain (t.advanceVersion tx expected) := by
  refine isPlain_bind (isPlain_resolve _) fun _ => ?_
  refine isPlain_bind (isPlain_ask _ _ _) fun stored => ?_
  refine isPlain_bind (isPlain_read _) fun version => ?_
  refine isPlain_bind (isPlain_perform trivial) ?_
  intro etag
  have hset : IsPlain (do
      ask t.store tx (.set t.versionCell (Stored.versionToBytes (version.next etag)))
      return version.next etag) :=
    isPlain_bind (isPlain_ask _ _ _) fun _ => isPlain_pure _
  exact isPlain_ite (isPlain_bind (isPlain_note _) fun _ => hset) hset

/-- Preparing a table is plain. -/
theorem isPlain_prepare (t : Table) (createVersion : Bool) :
    IsPlain (t.prepare createVersion) := by
  refine isPlain_bind (isPlain_resolve _) fun _ => ?_
  refine isPlain_bind (isPlain_resolve _) fun _ => ?_
  refine isPlain_ite (isPlain_bind (isPlain_within fun tx => ?_) fun _ => isPlain_note _)
    (isPlain_note _)
  refine isPlain_bind (isPlain_ask _ _ _) fun isAdded => ?_
  refine isPlain_ite (isPlain_bind (isPlain_commit tx) fun _ => isPlain_note _) (isPlain_discard tx)

/-- Insertions are plain. -/
theorem isPlain_insertRow (t : Table) (entry : Entry) (expected : Version) :
    IsPlain (t.insertRow entry expected) := by
  refine isPlain_bind (isPlain_resolve _) fun _ => ?_
  refine isPlain_bind (isPlain_perform trivial) fun _ => ?_
  refine isPlain_within fun tx => isPlain_bind (isPlain_ask _ _ _) fun isAdded => isPlain_ite ?_ ?_
  · refine isPlain_bind (t.isPlain_advanceVersion tx expected) fun version => ?_
    refine isPlain_bind (isPlain_commit tx) fun _ => ?_
    exact isPlain_bind (isPlain_note _) fun _ => isPlain_pure true
  · refine isPlain_bind (isPlain_discard tx) fun _ => ?_
    exact isPlain_bind (isPlain_note _) fun _ => isPlain_pure false

/-- Updates are plain. -/
theorem isPlain_updateRow (t : Table) (entry : Entry) (etag : String) (expected : Version) :
    IsPlain (t.updateRow entry etag expected) := by
  refine isPlain_bind (isPlain_resolve _) fun _ => isPlain_within fun tx => ?_
  refine isPlain_bind (isPlain_ask _ _ _) fun current => ?_
  -- Both refusals end the transaction and say why.
  have hrefuse : ∀ notice, IsPlain (do
      discard tx
      note notice
      return false) := fun notice =>
    isPlain_bind (isPlain_discard tx) fun _ => isPlain_bind (isPlain_note _) fun _ =>
      isPlain_pure false
  cases current with
  | none => exact hrefuse _
  | some bytes =>
    refine isPlain_bind (isPlain_read _) fun record => isPlain_ite (hrefuse _) ?_
    refine isPlain_bind (isPlain_perform trivial) fun _ => ?_
    refine isPlain_bind (isPlain_ask _ _ _) fun _ => ?_
    refine isPlain_bind (t.isPlain_advanceVersion tx expected) fun version => ?_
    refine isPlain_bind (isPlain_commit tx) fun _ => ?_
    exact isPlain_bind (isPlain_note _) fun _ => isPlain_pure true

/-- Heartbeats are plain. -/
theorem isPlain_heartbeat (t : Table) (entry : Entry) : IsPlain (t.heartbeat entry) := by
  refine isPlain_bind (isPlain_resolve _) fun _ => isPlain_within fun tx => ?_
  refine isPlain_bind (isPlain_ask _ _ _) fun current => ?_
  cases current with
  | none => exact isPlain_bind (isPlain_discard tx) fun _ => isPlain_note _
  | some bytes =>
    refine isPlain_bind (isPlain_read _) fun record => ?_
    refine isPlain_bind (isPlain_perform trivial) fun _ => ?_
    refine isPlain_bind (isPlain_ask _ _ _) fun _ => ?_
    exact isPlain_bind (isPlain_commit tx) fun _ => isPlain_note _

/-- Readings of one row are plain. -/
theorem isPlain_readRow (t : Table) (address : Address) : IsPlain (t.readRow address) := by
  refine isPlain_bind (isPlain_resolve _) fun _ => ?_
  refine isPlain_bind (isPlain_resolve _) fun _ => ?_
  refine isPlain_bind (isPlain_within fun tx => ?_) fun _ =>
    isPlain_bind (isPlain_read _) fun _ => isPlain_pure _
  refine isPlain_bind (isPlain_ask _ _ _) fun _ => ?_
  refine isPlain_bind (isPlain_ask _ _ _) fun _ => ?_
  refine isPlain_bind (isPlain_read _) fun _ => ?_
  exact isPlain_bind (isPlain_discard tx) fun _ => isPlain_pure _

/-- Readings of all rows are plain. -/
theorem isPlain_readAll (t : Table) : IsPlain t.readAll := by
  refine isPlain_bind (isPlain_resolve _) fun _ => ?_
  refine isPlain_bind (isPlain_resolve _) fun _ => ?_
  refine isPlain_bind (isPlain_within fun tx => ?_) fun _ =>
    isPlain_bind (isPlain_read _) fun _ => isPlain_bind (isPlain_note _) fun _ => isPlain_pure _
  refine isPlain_bind (isPlain_scan _ _) fun _ => ?_
  refine isPlain_bind (isPlain_ask _ _ _) fun _ => ?_
  refine isPlain_bind (isPlain_read _) fun _ => ?_
  exact isPlain_bind (isPlain_discard tx) fun _ => isPlain_pure _

/-- Removing rows is plain. -/
theorem isPlain_removeRows (t : Table) (tx : Ticket) (rows : List Row) :
    IsPlain (t.removeRows tx rows) := by
  induction rows with
  | nil => exact isPlain_pure ()
  | cons row rest ih =>
    refine isPlain_bind isPlain_checkCancelled fun _ => ?_
    exact isPlain_bind (isPlain_ask _ _ _) fun _ => ih

/-- Deletions are plain. -/
theorem isPlain_deleteEntries (t : Table) (clusterId : String) :
    IsPlain (t.deleteEntries clusterId) := by
  refine isPlain_ite (isPlain_note _) ?_
  refine isPlain_bind (isPlain_resolve _) fun _ => ?_
  refine isPlain_bind (isPlain_resolve _) fun _ => ?_
  refine isPlain_bind (isPlain_within fun tx => ?_) fun _ => isPlain_note _
  refine isPlain_bind (isPlain_scan _ _) fun rows => ?_
  refine isPlain_bind (t.isPlain_removeRows tx rows) fun _ => ?_
  refine isPlain_bind (isPlain_ask _ _ _) fun _ => ?_
  refine isPlain_bind isPlain_checkCancelled fun _ => ?_
  exact isPlain_bind (isPlain_commit tx) fun _ => isPlain_pure _

/-- No table operation reads the clock of refreshes or hands in a gateway list. -/
theorem isPlain_operation (t : Table) (action : Action) : IsPlain (t.operation action) := by
  cases action with
  | prepare createVersion =>
    exact isPlain_bind (t.isPlain_prepare createVersion) fun _ => isPlain_pure _
  | insertRow entry expected =>
    exact isPlain_bind (t.isPlain_insertRow entry expected) fun _ => isPlain_pure _
  | updateRow entry etag expected =>
    exact isPlain_bind (t.isPlain_updateRow entry etag expected) fun _ => isPlain_pure _
  | heartbeat entry => exact isPlain_bind (t.isPlain_heartbeat entry) fun _ => isPlain_pure _
  | readRow address => exact isPlain_bind (t.isPlain_readRow address) fun _ => isPlain_pure _
  | readAll => exact isPlain_bind t.isPlain_readAll fun _ => isPlain_pure _
  | deleteEntries clusterId =>
    exact isPlain_bind (t.isPlain_deleteEntries clusterId) fun _ => isPlain_pure _

end Muster.Table
