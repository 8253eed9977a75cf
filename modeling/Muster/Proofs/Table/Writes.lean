import Muster.Proofs.Store.View
import Muster.Proofs.Table.Alone

/-!
# Writes that run alone

What the operations that write do when nothing else is under way: the counterpart for insertions,
updates, deletions and the making of the version record of what is known of readings and heartbeats
that run alone. Each rule says what the operation answers, what it leaves in every cell, and how
many etags it takes.

A deletion needs nothing of the rows but their keys, so it goes through whatever is stored
(`does_deleteEntries`).
-/

namespace Muster

namespace Transaction

/-- A cell that is cleared is seen as empty, and the others as before. -/
theorem view_remove (tx : Transaction) (latest : Contents) (cell cell' : Cell) :
    (tx.perform latest (.remove cell)).1.view latest cell' =
      if cell' = cell then none else tx.view latest cell' := by
  rw [perform]
  split
  · exact tx.view_buffer latest cell cell' none
  · rename_i hnone
    split
    · rename_i hcell
      rw [hcell]
      exact hnone
    · rfl

/-- In a transaction that has just begun, a cell with a value is not added to. -/
theorem perform_add_of_isSome {c : Contents} {cell : Cell} (value : Bytes)
    (h : (c.find? cell).isSome = true) :
    (Transaction.begin c).perform c (.add cell value) = (.begin c, false) :=
  if_pos h

/-- An addition to a cell that is free is buffered. -/
theorem perform_add_of_none {c : Contents} {cell : Cell} (value : Bytes) (h : c.find? cell = none) :
    (Transaction.begin c).perform c (.add cell value) =
      ((Transaction.begin c).buffer cell (some value), true) :=
  if_neg (by rw [view_begin, h]; simp)

/-- What is committed when one cell was written. -/
theorem find?_written (c : Contents) (cell : Cell) (value : Bytes) (cell' : Cell) :
    (c.apply ((Transaction.begin c).buffer cell (some value)).changes).find? cell' =
      if cell' = cell then some value else c.find? cell' := by
  rw [find?_apply_changes, view_buffer, view_begin]

/-- What is committed when two cells were written. -/
theorem find?_written_twice (c : Contents) (first last : Cell) (value value' : Bytes)
    (cell : Cell) : (c.apply (((Transaction.begin c).buffer first (some value)).buffer last
      (some value')).changes).find? cell =
      if cell = last then some value' else if cell = first then some value else c.find? cell := by
  rw [find?_apply_changes, view_buffer, view_buffer, view_begin]

end Transaction

namespace Table

open Muster.Silo (Address Entry)
open Stored (Record)
open Operation

variable {t : Table} {sites : SortedMap String Site} {IsFree : Cell → Prop} {IsUntold : Prop}
  {c : Contents} {source : Etag.Source} {id : TransactionId} {tx : Transaction}

/-! ## The version -/

/-- A transaction that has buffered a row sees the version that is committed. -/
theorem versionOf?_view_buffer (address : Address) (value : Option Bytes) {version : Version}
    (hversion : versionOf? (c.find? t.versionCell) = .ok version) :
    versionOf? (((Transaction.begin c).buffer (t.rowCell address) value).view c t.versionCell) =
      .ok version := by
  rw [Transaction.view_buffer, if_neg (ne_versionCell rfl).symm, Transaction.view_begin]
  exact hversion

/-- The version moves on inside a transaction that sees a version. -/
theorem does_advanceVersion {k : Scene} {expected version : Version}
    {Q : Except Failure Version → Scene → Prop} (hfree : IsFree t.versionCell)
    (hcurrent : k.current = some (id, tx))
    (hversion : versionOf? (tx.view k.committed t.versionCell) = .ok version)
    (h : Q (.ok (version.next k.etags.mint.1)) ⟨k.committed, some (id, tx.buffer t.versionCell
      (some (Stored.versionToBytes (version.next k.etags.mint.1)))), k.etags.mint.2⟩) :
    (t.advanceVersion ⟨t.store, id⟩ expected).Does (t.solo sites IsFree IsUntold) k Q := by
  -- The lock of the version cell is free, and it is the only one that is taken.
  have hlock : ∀ cell, some t.versionCell = some cell → IsFree cell := by
    rintro cell hcell
    rwa [← Option.some.inj hcell]
  refine does_bind (does_resolve rfl ?_)
  refine does_bind (does_ask hcurrent hlock ?_)
  refine does_bind (does_read (fun version' hversion' => ?_) fun fault hfault => ?_)
  · obtain rfl := Except.ok.inj (hversion.symm.trans hversion')
    refine does_bind (does_mint ?_)
    have hset : Does (t.solo sites IsFree IsUntold) ⟨k.committed, some (id, tx), k.etags.mint.2⟩ (do
        ask t.store ⟨t.store, id⟩ (.set t.versionCell
          (Stored.versionToBytes (version.next k.etags.mint.1)))
        return version.next k.etags.mint.1) Q :=
      does_bind (does_ask rfl hlock (does_pure h))
    -- A version that is not the expected one is noted, and written over all the same.
    dsimp only
    split
    · exact does_bind (does_note _ hset)
    · exact hset
  · exact absurd (hversion.symm.trans hfault) (by simp)

/-! ## Operations -/

section Operations

variable {Q : Except Failure Unit → Scene → Prop}

/-- Without a version record to make, getting ready changes nothing. -/
theorem does_prepare_false (h : Q (.ok ()) ⟨c, none, source⟩) :
    (t.prepare false).Does (t.solo sites IsFree IsUntold) ⟨c, none, source⟩ Q := by
  refine does_bind (does_resolve rfl ?_)
  refine does_bind (does_resolve rfl ?_)
  exact does_note _ h

/-- The version record is made unless there is one. -/
theorem does_prepare_true (hfree : IsFree t.versionCell)
    (hexists : (c.find? t.versionCell).isSome = true → Q (.ok ()) ⟨c, none, source⟩)
    (hcreated : c.find? t.versionCell = none → ∀ c' : Contents, (∀ cell, c'.find? cell =
      if cell = t.versionCell then some (Stored.versionToBytes .initial) else c.find? cell) →
      Q (.ok ()) ⟨c', none, source⟩) :
    (t.prepare true).Does (t.solo sites IsFree IsUntold) ⟨c, none, source⟩ Q := by
  have hlock : ∀ cell, some t.versionCell = some cell → IsFree cell := by
    rintro cell hcell
    rwa [← Option.some.inj hcell]
  refine does_bind (does_resolve rfl ?_)
  refine does_bind (does_resolve rfl ?_)
  refine does_bind (does_within rfl fun id => ?_)
  -- The version record is added under its lock; the answer says whether there was one.
  refine does_bind (does_ask rfl hlock ?_)
  cases hversion : c.find? t.versionCell with
  | some bytes =>
    have hsome : (c.find? t.versionCell).isSome = true := by rw [hversion]; rfl
    dsimp only
    rw [Transaction.perform_add_of_isSome _ hsome]
    exact does_discard rfl (does_note _ (hexists hsome))
  | none =>
    dsimp only
    rw [Transaction.perform_add_of_none _ hversion]
    refine does_bind (does_commit rfl ?_)
    refine does_note _ (does_note _ ?_)
    exact hcreated hversion _ (Transaction.find?_written c _ _)

/-- Where the version can be read, a row is inserted and the version moves on, unless the silo has a
row. -/
theorem does_insertRow {entry : Entry} {expected version : Version}
    {Q : Except Failure Bool → Scene → Prop} (hfree : ∀ cell, IsFree cell)
    (hversion : versionOf? (c.find? t.versionCell) = .ok version)
    (hexists : (c.find? (t.rowCell entry.address)).isSome = true →
      Q (.ok false) ⟨c, none, source.mint.2⟩)
    (hinserted : c.find? (t.rowCell entry.address) = none → ∀ c' : Contents,
      (∀ cell, c'.find? cell = if cell = t.versionCell then
          some (Stored.versionToBytes (version.next source.mint.2.mint.1))
        else if cell = t.rowCell entry.address then some (t.rowBytes entry source.mint.1)
        else c.find? cell) → Q (.ok true) ⟨c', none, source.mint.2.mint.2⟩) :
    (t.insertRow entry expected).Does (t.solo sites IsFree IsUntold) ⟨c, none, source⟩ Q := by
  have hlock : ∀ {r : Request} cell, r.lock? = some cell → IsFree cell := fun cell _ => hfree cell
  refine does_bind (does_resolve rfl ?_)
  refine does_bind (does_mint ?_)
  refine does_within rfl fun id => ?_
  refine does_bind (does_ask rfl hlock ?_)
  -- The row is there, and nothing is written; or row and version are written together.
  cases hrow : c.find? (t.rowCell entry.address) with
  | some bytes =>
    have hsome : (c.find? (t.rowCell entry.address)).isSome = true := by rw [hrow]; rfl
    dsimp only
    rw [Transaction.perform_add_of_isSome _ hsome]
    refine does_bind (does_discard rfl ?_)
    refine does_bind (does_note _ ?_)
    exact does_pure (hexists hsome)
  | none =>
    dsimp only
    rw [Transaction.perform_add_of_none _ hrow]
    refine does_bind (does_advanceVersion (hfree _) rfl (versionOf?_view_buffer _ _ hversion) ?_)
    refine does_bind (does_commit rfl ?_)
    refine does_bind (does_note _ (does_pure ?_))
    exact hinserted hrow _ (Transaction.find?_written_twice c _ _ _ _)

/-- Where the version can be read, a row with the etag that is expected is replaced and the version
moves on. -/
theorem does_updateRow {entry : Entry} {etag : String} {expected version : Version}
    {Q : Except Failure Bool → Scene → Prop} (hfree : ∀ cell, IsFree cell)
    (hversion : versionOf? (c.find? t.versionCell) = .ok version)
    (hnone : c.find? (t.rowCell entry.address) = none → Q (.ok false) ⟨c, none, source⟩)
    (hfault : ∀ bytes fault, c.find? (t.rowCell entry.address) = some bytes →
      Record.ofBytes? bytes = .error fault → Q (.error (.stored fault)) ⟨c, none, source⟩)
    (hmismatch : ∀ bytes record, c.find? (t.rowCell entry.address) = some bytes →
      Record.ofBytes? bytes = .ok record → record.etag ≠ etag → Q (.ok false) ⟨c, none, source⟩)
    (hupdated : ∀ bytes record, c.find? (t.rowCell entry.address) = some bytes →
      Record.ofBytes? bytes = .ok record → record.etag = etag → ∀ c' : Contents,
      (∀ cell, c'.find? cell = if cell = t.versionCell then
          some (Stored.versionToBytes (version.next source.mint.2.mint.1))
        else if cell = t.rowCell entry.address then some (t.rowBytes entry source.mint.1)
        else c.find? cell) → Q (.ok true) ⟨c', none, source.mint.2.mint.2⟩) :
    (t.updateRow entry etag expected).Does (t.solo sites IsFree IsUntold) ⟨c, none, source⟩ Q := by
  have hlock : ∀ {r : Request} cell, r.lock? = some cell → IsFree cell := fun cell _ => hfree cell
  refine does_bind (does_resolve rfl ?_)
  refine does_within rfl fun id => ?_
  -- The row is read under its lock, and the transaction has buffered nothing yet.
  refine does_bind (does_ask rfl hlock ?_)
  dsimp only [Transaction.perform]
  rw [Transaction.view_begin]
  cases hrow : c.find? (t.rowCell entry.address) with
  | none =>
    refine does_bind (does_discard rfl ?_)
    exact does_bind (does_note _ (does_pure (hnone hrow)))
  | some bytes =>
    refine does_bind (does_read (fun record hrecord => ?_) fun fault hrecord =>
      ⟨⟨_, rfl⟩, hfault bytes fault hrow hrecord⟩)
    by_cases hetag : record.etag = etag
    · dsimp only
      rw [if_neg (not_not_intro hetag)]
      refine does_bind (does_mint ?_)
      refine does_bind (does_ask rfl hlock ?_)
      refine does_bind (does_advanceVersion (hfree _) rfl (versionOf?_view_buffer _ _ hversion) ?_)
      refine does_bind (does_commit rfl ?_)
      refine does_bind (does_note _ (does_pure ?_))
      exact hupdated bytes record hrow hrecord hetag _
        (Transaction.find?_written_twice c _ _ _ _)
    · dsimp only
      rw [if_pos hetag]
      refine does_bind (does_discard rfl ?_)
      refine does_bind (does_note _ ?_)
      exact does_pure (hmismatch bytes record hrow hrecord hetag)

/-! ## Deletions -/

/-- All rows are cleared, one after another. -/
theorem does_removeRows {k : Scene} (hcalm : IsUntold) (hfree : ∀ cell, IsFree cell)
    {rows : List Row} (hcurrent : k.current = some (id, tx))
    (h : ∀ tx' : Transaction, (∀ cell, tx'.view k.committed cell =
      if cell ∈ rows.map (fun row => Cell.mk t.stateName row.1) then none
      else tx.view k.committed cell) → Q (.ok ()) { k with current := some (id, tx') }) :
    (t.removeRows ⟨t.store, id⟩ rows).Does (t.solo sites IsFree IsUntold) k Q := by
  induction rows generalizing k tx with
  | nil =>
    have hsame : { k with current := some (id, tx) } = k := by rw [← hcurrent]
    have hdone := h tx fun cell => by simp
    rw [hsame] at hdone
    exact does_pure hdone
  | cons row rest ih =>
    -- The token is looked at before each row, and this task is not told.
    refine does_bind (does_checkCancelled hcalm ?_)
    refine does_bind (does_ask hcurrent (fun cell _ => hfree cell) ?_)
    refine ih rfl fun tx' hview => ?_
    refine h tx' fun cell => (hview cell).trans ?_
    rw [Transaction.view_remove]
    simp only [List.map_cons, List.mem_cons]
    -- The cell is among the later rows, or it is this one, or it is not removed.
    by_cases hrest : cell ∈ rest.map fun row => Cell.mk t.stateName row.1
    · rw [if_pos hrest, if_pos (.inr hrest)]
    · simp only [hrest, if_false, or_false]

/-- **A deletion clears the dictionary of the rows and the cell of the version**, whatever is
stored. -/
theorem does_deleteEntries (hcalm : IsUntold) (hfree : ∀ cell, IsFree cell)
    (h : ∀ c' : Contents, (∀ cell, c'.find? cell =
      if cell = t.versionCell ∨ cell.dictionary = t.stateName then none else c.find? cell) →
      Q (.ok ()) ⟨c', none, source⟩) :
    (t.deleteEntries t.clusterId).Does (t.solo sites IsFree IsUntold) ⟨c, none, source⟩ Q := by
  rw [deleteEntries, if_neg (not_not_intro rfl)]
  refine does_bind (does_resolve rfl ?_)
  refine does_bind (does_resolve rfl ?_)
  refine does_bind (does_within rfl fun id => ?_)
  -- The rows of the scan are removed one by one, and then the version.
  refine does_bind (does_scan hcalm rfl rfl ?_)
  refine does_bind (does_removeRows hcalm hfree rfl fun tx hview => ?_)
  refine does_bind (does_ask rfl (fun cell _ => hfree cell) ?_)
  refine does_bind (does_checkCancelled hcalm ?_)
  refine does_bind (does_commit rfl (does_pure ?_))
  refine does_note _ (h _ ?_)
  intro cell
  rw [Transaction.find?_apply_changes, Transaction.view_remove, hview cell]
  -- The rows of the scan are all that the dictionary holds.
  have hrows : cell ∈ (c.rows t.stateName).map (fun row => Cell.mk t.stateName row.1) ↔
      cell.dictionary = t.stateName ∧ (c.find? cell).isSome = true := mem_cells_rows
  show (if cell = t.versionCell then none else
    if cell ∈ (c.rows t.stateName).map (fun row => Cell.mk t.stateName row.1) then none
    else c.find? cell) = _
  by_cases hversion : cell = t.versionCell
  · rw [if_pos hversion, if_pos (.inl hversion)]
  · simp only [hversion, hrows, if_false, false_or]
    by_cases hname : cell.dictionary = t.stateName
    · cases hfound : c.find? cell with
      | none => simp
      | some bytes => simp [hname]
    · simp [hname]

/-- A deletion for another cluster does nothing. -/
theorem does_deleteEntries_of_ne {clusterId : String} (hne : clusterId ≠ t.clusterId)
    (h : Q (.ok ()) ⟨c, none, source⟩) :
    (t.deleteEntries clusterId).Does (t.solo sites IsFree IsUntold) ⟨c, none, source⟩ Q := by
  rw [deleteEntries, if_pos hne]
  exact does_note _ h

end Operations

end Table

end Muster
