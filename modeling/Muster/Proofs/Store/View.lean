import Muster.Proofs.Store.Replay

/-!
# What a log says about contents

A transaction that commits leaves every cell as it saw it (`find?_apply_changes`). So the log of a
transaction tells what the contents hold after its commit: each of its requests says what the
transaction saw in one cell, or what it has put there.
-/

namespace Muster

/-- What an answered request has written, and in which cell. -/
def Answered.written? : Answered → Option (Cell × Bytes)
  | ⟨.set cell value, _⟩ => some (cell, value)
  | ⟨.add cell value, true⟩ => some (cell, value)
  | _ => none

/-- The cell that an answered request has written or cleared. -/
def Answered.touched? : Answered → Option Cell
  | ⟨.set cell _, _⟩ => some cell
  | ⟨.add cell _, true⟩ => some cell
  | ⟨.remove cell, _⟩ => some cell
  | _ => none

namespace Transaction

variable {latest : Contents} {start tx : Transaction} {log : List Answered} {cell : Cell}

/-- A commit leaves every cell as the transaction saw it. -/
theorem find?_apply_changes (tx : Transaction) (latest : Contents) (cell : Cell) :
    (latest.apply tx.changes).find? cell = tx.view latest cell :=
  Contents.find?_apply latest tx.changes cell

/-- A transaction that has just begun sees what it is shown. -/
theorem view_begin (contents base : Contents) (cell : Cell) :
    (Transaction.begin contents).view base cell = base.find? cell :=
  rfl

/-- A transaction sees what it has put in a cell, and in other cells what it saw before. -/
theorem view_buffer (tx : Transaction) (base : Contents) (cell cell' : Cell)
    (value : Option Bytes) :
    (tx.buffer cell value).view base cell' =
      if cell' = cell then value else tx.view base cell' := by
  rw [view, buffer, SortedMap.find?_insert]
  split
  · rfl
  · rfl

/-- No request changes the snapshot of a transaction. -/
theorem snapshot_perform (tx : Transaction) (latest : Contents) (r : Request) :
    (tx.perform latest r).1.snapshot = tx.snapshot := by
  -- Only the requests that look first split, and both branches keep the snapshot.
  cases r with
  | add cell value =>
    rw [perform]
    split
    · rfl
    · rfl
  | remove cell =>
    rw [perform]
    split
    · rfl
    · rfl
  | _ => rfl

/-- A transaction keeps its snapshot, whatever it is answered. -/
theorem Replays.snapshot_eq (h : Replays latest start log tx) : tx.snapshot = start.snapshot := by
  induction log generalizing tx with
  | nil => rw [replays_nil.1 h]
  | cons a log ih =>
    obtain ⟨before, hbefore, hstep⟩ := h
    have hsame := before.snapshot_perform latest a.1
    rw [hstep] at hsame
    rw [hsame, ih hbefore]

/-! ## The last request of a log -/

/-- The last request was made of the transaction that the rest of the log leads to. -/
theorem Replays.last {r : Request} {reply : r.Reply}
    (h : Replays latest start (⟨r, reply⟩ :: log) tx) :
    ∃ before, Replays latest start log before ∧ tx = (before.perform latest r).1 ∧
      reply = (before.perform latest r).2 := by
  obtain ⟨before, hbefore, hstep⟩ := h
  exact ⟨before, hbefore, (congrArg Prod.fst hstep).symm, (congrArg Prod.snd hstep).symm⟩

/-- A cell was locked and read. -/
theorem Replays.readLocked {value : Option Bytes}
    (h : Replays latest start (⟨.readLocked cell, value⟩ :: log) tx) :
    Replays latest start log tx ∧ value = tx.view latest cell := by
  obtain ⟨before, hbefore, rfl, rfl⟩ := h.last
  exact ⟨hbefore, rfl⟩

/-- A cell was read as it was when the transaction began. -/
theorem Replays.read {value : Option Bytes}
    (h : Replays latest start (⟨.read cell, value⟩ :: log) tx) :
    Replays latest start log tx ∧ value = tx.view start.snapshot cell := by
  obtain ⟨before, hbefore, rfl, rfl⟩ := h.last
  refine ⟨hbefore, ?_⟩
  rw [← hbefore.snapshot_eq]
  rfl

/-- A dictionary was read as it was when the transaction began. -/
theorem Replays.scan {dictionary : String} {rows : List Row}
    (h : Replays latest start (⟨.scan dictionary, rows⟩ :: log) tx) :
    Replays latest start log tx ∧
      rows = (start.snapshot.apply tx.changes).rows dictionary := by
  obtain ⟨before, hbefore, rfl, rfl⟩ := h.last
  refine ⟨hbefore, ?_⟩
  rw [← hbefore.snapshot_eq]
  rfl

/-- A cell was written. -/
theorem Replays.set {value : Bytes} {reply : Unit}
    (h : Replays latest start (⟨.set cell value, reply⟩ :: log) tx) :
    ∃ before, Replays latest start log before ∧ tx = before.buffer cell (some value) := by
  obtain ⟨before, hbefore, htx, -⟩ := h.last
  exact ⟨before, hbefore, htx⟩

/-- An empty cell was written. -/
theorem Replays.add_true {value : Bytes}
    (h : Replays latest start (⟨.add cell value, true⟩ :: log) tx) :
    ∃ before, Replays latest start log before ∧ before.view latest cell = none ∧
      tx = before.buffer cell (some value) := by
  obtain ⟨before, hbefore, hstep⟩ := h
  rw [perform] at hstep
  split at hstep
  · exact absurd (Prod.mk.inj hstep).2 (by simp)
  · rename_i hnone
    exact ⟨before, hbefore, Option.not_isSome_iff_eq_none.1 hnone, (Prod.mk.inj hstep).1.symm⟩

/-- A cell that holds something was not written. -/
theorem Replays.add_false {value : Bytes}
    (h : Replays latest start (⟨.add cell value, false⟩ :: log) tx) :
    Replays latest start log tx ∧ (tx.view latest cell).isSome = true := by
  obtain ⟨before, hbefore, hstep⟩ := h
  rw [perform] at hstep
  split at hstep
  · rename_i hsome
    obtain ⟨rfl, -⟩ := Prod.mk.inj hstep
    exact ⟨hbefore, hsome⟩
  · exact absurd (Prod.mk.inj hstep).2 (by simp)

/-- A cell was cleared, whether or not it held something. -/
theorem Replays.remove {value : Option Bytes}
    (h : Replays latest start (⟨.remove cell, value⟩ :: log) tx) :
    ∃ before, Replays latest start log before ∧ ∀ cell', tx.view latest cell' =
      if cell' = cell then none else before.view latest cell' := by
  obtain ⟨before, hbefore, hstep⟩ := h
  refine ⟨before, hbefore, fun cell' => ?_⟩
  -- Nothing is buffered where nothing was found, and there the view was `none` already.
  rw [perform] at hstep
  split at hstep
  · obtain ⟨rfl, -⟩ := Prod.mk.inj hstep
    exact before.view_buffer latest cell cell' none
  · rename_i hnone
    obtain ⟨rfl, -⟩ := Prod.mk.inj hstep
    split
    · rename_i hcell
      rw [hcell, hnone]
    · rfl

/-- Cells that are removed one after another are all cleared, and no others. -/
theorem Replays.removals {removals : List Answered} {cells : List Cell}
    (h : Replays latest start (removals ++ log) tx)
    (hcells : removals.map Sigma.fst = cells.map .remove) :
    ∃ before, Replays latest start log before ∧ ∀ cell, tx.view latest cell =
      if cell ∈ cells then none else before.view latest cell := by
  -- From the last removal: it hides its cell, the ones before it hide theirs.
  induction removals generalizing cells tx with
  | nil =>
    obtain rfl := List.map_eq_nil_iff.1 hcells.symm
    exact ⟨tx, h, fun cell => (if_neg (by simp)).symm⟩
  | cons a removals ih =>
    obtain ⟨r, reply⟩ := a
    cases cells with
    | nil => exact absurd hcells (by simp)
    | cons cell cells =>
      obtain ⟨hr, hrest⟩ := List.cons.inj hcells
      obtain rfl : r = .remove cell := hr
      obtain ⟨middle, hmiddle, hview⟩ := Replays.remove h
      obtain ⟨before, hbefore, hviews⟩ := ih hmiddle hrest
      refine ⟨before, hbefore, fun cell' => ?_⟩
      rw [hview, hviews]
      by_cases hcell : cell' = cell
      · rw [if_pos hcell, if_pos (by rw [hcell]; exact List.mem_cons_self)]
      · rw [if_neg hcell]
        simp [hcell]

/-! ## Cells that were touched -/

/-- A request that does not touch a cell leaves it as it is. -/
theorem view_perform_of_not_touched (tx : Transaction) (latest : Contents) (r : Request)
    (h : Answered.touched? ⟨r, (tx.perform latest r).2⟩ ≠ some cell) :
    (tx.perform latest r).1.view latest cell = tx.view latest cell := by
  -- A value that is buffered in another cell is not seen in this one.
  have hbuffer : ∀ {cell' : Cell} (value : Option Bytes), some cell' ≠ some cell →
      (tx.buffer cell' value).view latest cell = tx.view latest cell := by
    intro cell' value hne
    rw [view_buffer, if_neg fun heq => hne (congrArg some heq.symm)]
  cases r with
  | read cell' => rfl
  | readLocked cell' => rfl
  | scan dictionary => rfl
  | set cell' value => exact hbuffer _ h
  | add cell' value =>
    rw [perform] at h ⊢
    split
    · rfl
    · rename_i hnone
      rw [if_neg hnone] at h
      exact hbuffer _ h
  | remove cell' =>
    rw [perform] at ⊢
    split
    · exact hbuffer _ h
    · rfl

/-- What a request that touches a cell leaves there. -/
theorem view_perform_of_touched (tx : Transaction) (latest : Contents) (r : Request)
    (h : Answered.touched? ⟨r, (tx.perform latest r).2⟩ = some cell) :
    (tx.perform latest r).1.view latest cell = none ∨
      ∃ bytes, Answered.written? ⟨r, (tx.perform latest r).2⟩ = some (cell, bytes) ∧
        (tx.perform latest r).1.view latest cell = some bytes := by
  -- What was touched was written, or removed, or was not there to be removed.
  cases r with
  | read cell' => exact absurd h (by simp [Answered.touched?])
  | readLocked cell' => exact absurd h (by simp [Answered.touched?])
  | scan dictionary => exact absurd h (by simp [Answered.touched?])
  | set cell' value =>
    obtain rfl : cell' = cell := Option.some.inj h
    exact .inr ⟨value, rfl, by rw [perform, view_buffer, if_pos rfl]⟩
  | add cell' value =>
    rw [perform] at h ⊢
    split at h
    · exact absurd h (by simp [Answered.touched?])
    · rename_i hnone
      obtain rfl : cell' = cell := Option.some.inj h
      rw [if_neg hnone]
      exact .inr ⟨value, rfl, by rw [view_buffer, if_pos rfl]⟩
  | remove cell' =>
    obtain rfl : cell' = cell := Option.some.inj h
    rw [perform]
    split
    · exact .inl (by rw [view_buffer, if_pos rfl])
    · rename_i hnone
      exact .inl hnone

/-- A log that touches a cell clears it or leaves there what one of its requests has written. -/
theorem Replays.view_of_touched (h : Replays latest start log tx)
    (htouched : cell ∈ log.filterMap Answered.touched?) :
    tx.view latest cell = none ∨
      ∃ bytes, (cell, bytes) ∈ log.filterMap Answered.written? ∧
        tx.view latest cell = some bytes := by
  induction log generalizing tx with
  | nil => exact absurd htouched (by simp)
  | cons a log ih =>
    obtain ⟨r, reply⟩ := a
    obtain ⟨before, hbefore, rfl, rfl⟩ := h.last
    by_cases hlast : Answered.touched? ⟨r, (before.perform latest r).2⟩ = some cell
    · -- The last request touches the cell.
      rcases before.view_perform_of_touched latest r hlast with hnone | ⟨bytes, hwritten, hview⟩
      · exact .inl hnone
      · refine .inr ⟨bytes, ?_, hview⟩
        exact List.mem_filterMap.2 ⟨_, List.mem_cons_self, hwritten⟩
    · -- The last request leaves the cell alone, so an earlier one has touched it.
      rw [before.view_perform_of_not_touched latest r hlast]
      have hearlier : cell ∈ log.filterMap Answered.touched? := by
        obtain ⟨a, ha, htouch⟩ := List.mem_filterMap.1 htouched
        rcases List.mem_cons.1 ha with rfl | ha
        · exact absurd htouch hlast
        · exact List.mem_filterMap.2 ⟨a, ha, htouch⟩
      rcases ih hbefore hearlier with hnone | ⟨bytes, hmem, hview⟩
      · exact .inl hnone
      · refine .inr ⟨bytes, ?_, hview⟩
        obtain ⟨a, ha, hwritten⟩ := List.mem_filterMap.1 hmem
        exact List.mem_filterMap.2 ⟨a, List.mem_cons_of_mem _ ha, hwritten⟩

/-- A log that does not touch a cell leaves it as it is. -/
theorem Replays.view_of_not_touched (h : Replays latest start log tx)
    (htouched : cell ∉ log.filterMap Answered.touched?) :
    tx.view latest cell = start.view latest cell := by
  -- From the last request, which did not touch the cell either.
  induction log generalizing tx with
  | nil => rw [replays_nil.1 h]
  | cons a log ih =>
    obtain ⟨r, reply⟩ := a
    obtain ⟨before, hbefore, rfl, rfl⟩ := h.last
    have hlast : Answered.touched? ⟨r, (before.perform latest r).2⟩ ≠ some cell := fun hlast =>
      htouched (List.mem_filterMap.2 ⟨_, List.mem_cons_self, hlast⟩)
    rw [before.view_perform_of_not_touched latest r hlast]
    refine ih hbefore fun hmem => htouched ?_
    obtain ⟨a, ha, htouch⟩ := List.mem_filterMap.1 hmem
    exact List.mem_filterMap.2 ⟨a, List.mem_cons_of_mem _ ha, htouch⟩

end Transaction

end Muster
