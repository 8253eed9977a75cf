import Muster.Proofs.Store.Locks
import Muster.Store.Mutexes

/-!
# Whom the mutexes serve

What transactions have of mutexes are grips (`Grip`): a bare reference, a place in the line, or the
guard. A mutex serves the grips on it (`SharedMutex.Serves`) if the references are exactly counted,
one for each grip and one for the table, if those that have a place or the guard are exactly those
in the line, and if whoever has the guard stands first. A table serves the grips of all transactions
(`MutexTable.Serves`) if every grip on a cell is one on the mutex that the table has for it, so that
nobody is left with a mutex that the table has forgotten. Each operation keeps this, and
`MutexTable.Serves.guard_unique` draws the conclusion: a cell has one guard.
-/

namespace Muster

/-- What a transaction has of a mutex. -/
inductive Grip
  /-- A reference and nothing else. -/
  | clone
  /-- A place in the line. -/
  | place
  /-- The guard. -/
  | guard
  deriving DecidableEq

namespace SharedMutex

variable {mutex : SharedMutex} {S S' : TransactionId → Option Grip} {id : TransactionId}

/-- A mutex and the grips that transactions have on it. -/
structure Serves (mutex : SharedMutex) (S : TransactionId → Option Grip) : Prop where
  /-- The references are those of the transactions that have a grip, and the one of the table. -/
  counted : ∃ owners : List TransactionId, owners.Nodup ∧ (∀ id, id ∈ owners ↔ S id ≠ none) ∧
    mutex.strong = owners.length + 1
  /-- Nobody stands in line twice. -/
  nodup : mutex.line.Nodup
  /-- In line stand those that have a place or the guard. -/
  mem_line : ∀ id, id ∈ mutex.line ↔ S id = some .place ∨ S id = some .guard
  /-- Who has the guard stands first. -/
  first : ∀ id, S id = some .guard → mutex.line.head? = some id

/-- A new mutex serves nobody. -/
theorem serves_new (hS : ∀ id, S id = none) : Serves ⟨[], 1⟩ S where
  counted := ⟨[], List.nodup_nil, fun id => by simp [hS id], rfl⟩
  nodup := List.nodup_nil
  mem_line id := by simp [hS id]
  first id h := absurd h (by simp [hS id])

/-- Where the same transactions have a grip, the count is as good as it was. -/
theorem Serves.counted_congr (h : mutex.Serves S) (hsame : ∀ id, S' id = none ↔ S id = none) :
    ∃ owners : List TransactionId, owners.Nodup ∧ (∀ id, id ∈ owners ↔ S' id ≠ none) ∧
      mutex.strong = owners.length + 1 := by
  obtain ⟨owners, hnodup, hmem, hstrong⟩ := h.counted
  exact ⟨owners, hnodup, fun id => (hmem id).trans (not_congr (hsame id).symm), hstrong⟩

/-- If the reference of the table is the only one, nobody has a grip. -/
theorem Serves.eq_none_of_strong (h : mutex.Serves S) (hstrong : mutex.strong = 1)
    (id : TransactionId) : S id = none := by
  obtain ⟨owners, -, hmem, hcount⟩ := h.counted
  have howners : owners = [] := List.length_eq_zero_iff.1 (by omega)
  cases hS : S id with
  | none => rfl
  | some grip =>
    have hid := (hmem id).2 (by simp [hS])
    rw [howners] at hid
    exact absurd hid (by simp)

/-- If nobody has a grip on it, a mutex is as it was made. -/
theorem Serves.eq_new (h : mutex.Serves S) (hS : ∀ id, S id = none) : mutex = ⟨[], 1⟩ := by
  obtain ⟨owners, -, hmem, hstrong⟩ := h.counted
  have howners : owners = [] :=
    List.eq_nil_iff_forall_not_mem.2 fun id hid => (hmem id).1 hid (hS id)
  have hline : mutex.line = [] := List.eq_nil_iff_forall_not_mem.2 fun id hid => by
    rw [h.mem_line, hS id] at hid
    exact absurd hid (by simp)
  rw [howners] at hstrong
  obtain ⟨line, strong⟩ := mutex
  obtain rfl : line = [] := hline
  obtain rfl : strong = 1 := hstrong
  rfl

/-- A mutex that someone has a grip on is referred to twice at least. -/
theorem Serves.one_lt_strong (h : mutex.Serves S) (hS : S id ≠ none) : 1 < mutex.strong := by
  obtain ⟨owners, -, hmem, hcount⟩ := h.counted
  have hpos := List.length_pos_of_mem ((hmem id).2 hS)
  omega

variable (hothers : ∀ id', id' ≠ id → S' id' = S id')

include hothers

/-- A transaction without a grip takes a reference. -/
theorem Serves.share (h : mutex.Serves S) (hnone : S id = none) (hnew : S' id = some .clone) :
    mutex.share.Serves S' where
  counted := by
    -- The new reference joins the owners, and it was not among them since `id` had no grip.
    obtain ⟨owners, hnodup, hmem, hstrong⟩ := h.counted
    refine ⟨id :: owners, List.nodup_cons.2 ⟨fun hid => (hmem id).1 hid hnone, hnodup⟩,
      fun id' => ?_, congrArg (· + 1) hstrong⟩
    by_cases hid : id' = id
    · rw [hid, hnew]
      simp
    · rw [hothers id' hid, List.mem_cons, ← hmem id']
      simp [hid]
  nodup := h.nodup
  mem_line id' := by
    -- A clone is outside the line, so membership of the line asks the same of `id` before and
    -- after.
    by_cases hid : id' = id
    · rw [hid, hnew]
      exact (h.mem_line id).trans (by simp [hnone])
    · rw [hothers id' hid]
      exact h.mem_line id'
  first id' hguard := by
    by_cases hid : id' = id
    · rw [hid, hnew] at hguard
      exact absurd hguard (by simp)
    · exact h.first id' (hothers id' hid ▸ hguard)

/-- A transaction with a reference goes to the end of the line, and has the guard if it is alone
there. -/
theorem Serves.enter (h : mutex.Serves S) (hclone : S id = some .clone)
    (hnew : S' id = some (if (mutex.enter id).line.head? = some id then .guard else .place)) :
    (mutex.enter id).Serves S' := by
  -- Only a clone enters, and a clone is not in the line yet.
  have hnot : id ∉ mutex.line := by
    rw [h.mem_line, hclone]
    simp
  -- Entering changes no count; the line grows at its end.
  refine ⟨h.counted_congr fun id' => ?_, ?_, fun id' => ?_, fun id' hguard => ?_⟩
  · by_cases hid : id' = id
    · rw [hid, hnew, hclone]
      simp
    · rw [hothers id' hid]
  · exact List.nodup_append.2 ⟨h.nodup, by simp, fun a ha b hb hab =>
      hnot (List.mem_singleton.1 hb ▸ hab ▸ ha)⟩
  · rw [SharedMutex.enter, List.mem_append, List.mem_singleton]
    by_cases hid : id' = id
    · subst hid
      rw [hnew]
      split <;> simp
    · rw [hothers id' hid, ← h.mem_line id']
      simp [hid]
  -- `id` has the guard only if the line was empty; otherwise the first of the line is who it was.
  · by_cases hid : id' = id
    · subst hid
      rw [hnew] at hguard
      split at hguard
      · assumption
      · exact absurd hguard (by simp)
    · have hfirst := h.first id' (hothers id' hid ▸ hguard)
      rw [SharedMutex.enter, List.head?_append, hfirst]
      rfl

/-- A transaction that stands first takes the guard. -/
theorem Serves.take (h : mutex.Serves S) (hplace : S id = some .place)
    (hfirst : mutex.line.head? = some id) (hnew : S' id = some .guard) : mutex.Serves S' := by
  -- Neither the count nor the line moves: a place at the front of the line becomes the guard.
  refine ⟨h.counted_congr fun id' => ?_, h.nodup, fun id' => ?_, fun id' hguard => ?_⟩
  · by_cases hid : id' = id
    · rw [hid, hnew, hplace]
      simp
    · rw [hothers id' hid]
  · by_cases hid : id' = id
    · rw [hid, hnew]
      exact (h.mem_line id).trans (by simp [hplace])
    · rw [hothers id' hid]
      exact h.mem_line id'
  · by_cases hid : id' = id
    · rw [hid]
      exact hfirst
    · exact h.first id' (hothers id' hid ▸ hguard)

/-- A transaction leaves the line and keeps its reference. -/
theorem Serves.leave (h : mutex.Serves S) (hsome : S id ≠ none) (hnew : S' id = some .clone) :
    (mutex.leave id).Serves S' := by
  refine ⟨h.counted_congr fun id' => ?_, h.nodup.filter _, fun id' => ?_, fun id' hguard => ?_⟩
  · by_cases hid : id' = id
    · rw [hid, hnew]
      simp [hsome]
    · rw [hothers id' hid]
  · rw [SharedMutex.leave, List.mem_filter, h.mem_line]
    by_cases hid : id' = id
    · rw [hid, hnew]
      simp
    · rw [hothers id' hid]
      simp [hid]
  · by_cases hid : id' = id
    · rw [hid, hnew] at hguard
      exact absurd hguard (by simp)
    · -- The first of the line is another transaction, and it stays.
      have hfirst := h.first id' (hothers id' hid ▸ hguard)
      rw [SharedMutex.leave]
      cases hline : mutex.line with
      | nil =>
        rw [hline] at hfirst
        exact absurd hfirst (by simp)
      | cons head rest =>
        rw [hline] at hfirst
        obtain rfl : head = id' := by simpa using hfirst
        simp [hid]

/-- A transaction drops its reference. -/
theorem Serves.unshare (h : mutex.Serves S) (hclone : S id = some .clone) (hnew : S' id = none) :
    mutex.unshare.Serves S' where
  counted := by
    obtain ⟨owners, hnodup, hmem, hstrong⟩ := h.counted
    have hid : id ∈ owners := (hmem id).2 (by simp [hclone])
    have hpos := List.length_pos_of_mem hid
    -- One owner less and one reference less, the owner being in the list exactly once.
    refine ⟨owners.erase id, hnodup.erase id, fun id' => ?_, ?_⟩
    · rw [hnodup.mem_erase_iff, hmem id']
      by_cases hid : id' = id
      · rw [hid, hnew]
        simp
      · rw [hothers id' hid]
        simp [hid]
    · rw [List.length_erase_of_mem hid, SharedMutex.unshare, hstrong]
      dsimp only
      omega
  nodup := h.nodup
  -- The reference that goes was a clone, outside the line.
  mem_line id' := by
    by_cases hid : id' = id
    · rw [hid, hnew]
      exact (h.mem_line id).trans (by simp [hclone])
    · rw [hothers id' hid]
      exact h.mem_line id'
  first id' hguard := by
    by_cases hid : id' = id
    · rw [hid, hnew] at hguard
      exact absurd hguard (by simp)
    · exact h.first id' (hothers id' hid ▸ hguard)

end SharedMutex

/-- The grips of transactions on the mutexes of cells. -/
abbrev Grips := TransactionId → Cell → Option (MutexId × Grip)

namespace Grips

/-- The grips on the mutex of one cell. -/
def on (G : Grips) (cell : Cell) (id : TransactionId) : Option Grip :=
  (G id cell).map Prod.snd

/-- Grips of which that of one transaction on one cell has changed. -/
structure Turns (G G' : Grips) (id : TransactionId) (cell : Cell)
    (new : Option (MutexId × Grip)) : Prop where
  /-- The grip that has changed. -/
  self : G' id cell = new
  /-- The others have not. -/
  others : ∀ id' cell', ¬ (id' = id ∧ cell' = cell) → G' id' cell' = G id' cell'

variable {G G' : Grips} {id : TransactionId} {cell cell' : Cell} {new : Option (MutexId × Grip)}

/-- The grips on other cells are the same. -/
theorem Turns.on_of_ne (h : G.Turns G' id cell new) (hne : cell' ≠ cell) :
    G'.on cell' = G.on cell' := by
  funext id'
  rw [on, on, h.others id' cell' fun hid => hne hid.2]

/-- So are those of other transactions on the cell. -/
theorem Turns.on_of_ne_id (h : G.Turns G' id cell new) (id' : TransactionId) (hne : id' ≠ id) :
    G'.on cell id' = G.on cell id' := by
  rw [on, on, h.others id' cell fun hid => hne hid.1]

/-- The grip that has changed, without its mutex. -/
theorem Turns.on_self (h : G.Turns G' id cell new) : G'.on cell id = new.map Prod.snd := by
  rw [on, h.self]

/-- A transaction that has a grip on a mutex. -/
theorem on_of_eq {mutex : MutexId} {grip : Grip} (h : G id cell = some (mutex, grip)) :
    G.on cell id = some grip := by
  rw [on, h]
  rfl

end Grips

namespace MutexTable

variable {table : MutexTable} {G G' : Grips} {id id' : TransactionId} {cell cell' : Cell}
  {mutex : MutexId}

/-- A table of mutexes and the grips that transactions have. -/
structure Serves (table : MutexTable) (G : Grips) : Prop where
  /-- A grip on a cell is one on the mutex that the table has for it. -/
  linked : ∀ {id cell mutex grip}, G id cell = some (mutex, grip) →
    table.entries.find? cell = some mutex
  /-- No two cells have one mutex. -/
  single : ∀ {cell cell' mutex}, table.entries.find? cell = some mutex →
    table.entries.find? cell' = some mutex → cell = cell'
  /-- The next mutex is a new one. -/
  fresh : ∀ {cell mutex}, table.entries.find? cell = some mutex → mutex < table.next
  /-- The mutex of a cell serves the grips on it. -/
  served : ∀ {cell mutex}, table.entries.find? cell = some mutex →
    ∃ x, table.mutexes.find? mutex = some x ∧ x.Serves (G.on cell)

/-- The empty table serves nobody. -/
theorem serves_empty (hG : ∀ id cell, G id cell = none) : empty.Serves G where
  linked {id cell mutex grip} h := absurd h (by simp [hG id cell])
  single h := absurd h (by simp [empty])
  fresh h := absurd h (by simp [empty])
  served h := absurd h (by simp [empty])

/-- Where the grips are the same, so is what a table serves. -/
theorem Serves.congr (h : table.Serves G) (hG : ∀ id cell, G' id cell = G id cell) :
    table.Serves G' := by
  obtain rfl : G' = G := funext fun id => funext fun cell => hG id cell
  exact h

/-- The mutex of someone who has a grip. -/
theorem Serves.exists_mutex (h : table.Serves G) {grip : Grip}
    (hG : G id cell = some (mutex, grip)) :
    ∃ x, table.mutexes.find? mutex = some x ∧ x.Serves (G.on cell) :=
  h.served (h.linked hG)

/-- **A cell has one guard.** Two transactions that have guards of a cell have them of one mutex,
and both stand first in its line. -/
theorem Serves.guard_unique (h : table.Serves G) {mutex' : MutexId}
    (hG : G id cell = some (mutex, .guard)) (hG' : G id' cell = some (mutex', .guard)) :
    id = id' := by
  obtain rfl : mutex = mutex' := Option.some.inj ((h.linked hG).symm.trans (h.linked hG'))
  obtain ⟨x, -, hx⟩ := h.exists_mutex hG
  have hfirst := hx.first id (Grips.on_of_eq hG)
  have hfirst' := hx.first id' (Grips.on_of_eq hG')
  exact Option.some.inj (hfirst.symm.trans hfirst')

/-- Those that stand in the line of the mutex of a cell. -/
def line (table : MutexTable) (cell : Cell) : List TransactionId :=
  ((table.entries.find? cell).bind table.mutexes.find?).elim [] SharedMutex.line

/-- The line of a cell is that of its mutex. -/
theorem line_of_mutex {x : SharedMutex} (hentry : table.entries.find? cell = some mutex)
    (hx : table.mutexes.find? mutex = some x) : table.line cell = x.line := by
  rw [line, hentry, Option.bind_some, hx, Option.elim_some]

/-- Who has the guard of a cell stands first there. -/
theorem Serves.head?_line (h : table.Serves G) (hG : G id cell = some (mutex, .guard)) :
    (table.line cell).head? = some id := by
  obtain ⟨x, hx, hserved⟩ := h.exists_mutex hG
  rw [line_of_mutex (h.linked hG) hx]
  exact hserved.first id (Grips.on_of_eq hG)

/-- Who stands in line has more than a reference. -/
theorem Serves.exists_grip_of_mem_line (h : table.Serves G) (hid : id ∈ table.line cell) :
    ∃ mutex grip, G id cell = some (mutex, grip) ∧ grip ≠ .clone := by
  cases hentry : table.entries.find? cell with
  | none =>
    rw [line, hentry] at hid
    exact absurd hid (by simp)
  | some mutex =>
    obtain ⟨x, hx, hserved⟩ := h.served hentry
    -- In the line of a mutex stands who has a grip on it that is more than a clone.
    rw [line_of_mutex hentry hx, hserved.mem_line] at hid
    cases hG : G id cell with
    | none =>
      rw [Grips.on, hG] at hid
      exact absurd hid (by simp)
    | some pair =>
      refine ⟨pair.1, pair.2, rfl, fun hclone => ?_⟩
      rw [Grips.on_of_eq hG, hclone] at hid
      exact absurd hid (by simp)

/-- Where nobody has a grip, nobody stands in a line, and the table has the only references. -/
theorem Serves.find?_of_none (h : table.Serves G) (hnone : ∀ id cell, G id cell = none)
    (hentry : table.entries.find? cell = some mutex) :
    table.mutexes.find? mutex = some ⟨[], 1⟩ := by
  obtain ⟨x, hx, hserved⟩ := h.served hentry
  have hS : ∀ id, G.on cell id = none := by
    intro id
    rw [Grips.on, hnone id cell]
    rfl
  rw [hx, hserved.eq_new hS]

/-! ## The operations -/

/-- The entries of a table do not change with a mutex. -/
@[simp] theorem entries_update (table : MutexTable) (mutex : MutexId)
    (f : SharedMutex → SharedMutex) : (table.update mutex f).entries = table.entries := by
  rw [update]
  split
  · rfl
  · rfl

/-- Neither does the next mutex. -/
@[simp] theorem next_update (table : MutexTable) (mutex : MutexId)
    (f : SharedMutex → SharedMutex) : (table.update mutex f).next = table.next := by
  rw [update]
  split
  · rfl
  · rfl

/-- The mutexes of a table of which one has changed. -/
theorem find?_mutexes_update (table : MutexTable) (mutex mutex' : MutexId)
    (f : SharedMutex → SharedMutex) : (table.update mutex f).mutexes.find? mutex' =
      if mutex' = mutex then (table.mutexes.find? mutex).map f
      else table.mutexes.find? mutex' := by
  rw [update]
  cases hfind : table.mutexes.find? mutex with
  | none =>
    dsimp only
    split
    · rename_i hmutex
      rw [hmutex, hfind]
      rfl
    · rfl
  | some x => exact SortedMap.find?_insert ..

/-- One mutex changes with one grip on it. -/
theorem Serves.update (h : table.Serves G) (grip : Option Grip) {f : SharedMutex → SharedMutex}
    (hturns : G.Turns G' id cell (grip.map (mutex, ·)))
    (hmutex : table.entries.find? cell = some mutex)
    (hserves : ∀ x, table.mutexes.find? mutex = some x → x.Serves (G.on cell) →
      (f x).Serves (G'.on cell)) :
    (table.update mutex f).Serves G' where
  linked {id' cell' mutex' grip'} hG := by
    rw [entries_update]
    by_cases hid : id' = id ∧ cell' = cell
    · obtain ⟨rfl, rfl⟩ := hid
      rw [hturns.self] at hG
      obtain ⟨grip, -, heq⟩ := Option.map_eq_some_iff.1 hG
      rw [← (Prod.mk.inj heq).1]
      exact hmutex
    · exact h.linked (hturns.others id' cell' hid ▸ hG)
  single {cell₁ cell₂ mutex'} h₁ h₂ := by
    rw [entries_update] at h₁ h₂
    exact h.single h₁ h₂
  fresh {cell' mutex'} hentry := by
    rw [entries_update] at hentry
    rw [next_update]
    exact h.fresh hentry
  served {cell' mutex'} hentry := by
    rw [entries_update] at hentry
    obtain ⟨x, hx, hserved⟩ := h.served hentry
    rw [find?_mutexes_update]
    by_cases hcell : cell' = cell
    · subst hcell
      obtain rfl : mutex' = mutex := Option.some.inj (hentry.symm.trans hmutex)
      exact ⟨f x, by rw [if_pos rfl, hx]; rfl, hserves x hx hserved⟩
    · -- Another cell has another mutex.
      have hne : mutex' ≠ mutex := fun heq => hcell (h.single hentry (heq ▸ hmutex))
      exact ⟨x, by rw [if_neg hne, hx], hturns.on_of_ne hcell ▸ hserved⟩

/-- A mutex that is made for a cell without one serves nobody. -/
theorem Serves.entry (h : table.Serves G) (cell : Cell) :
    (table.entry cell).2.Serves G ∧
      (table.entry cell).2.entries.find? cell = some (table.entry cell).1 := by
  rw [MutexTable.entry]
  cases hentry : table.entries.find? cell with
  | some mutex => exact ⟨h, hentry⟩
  | none =>
    dsimp only
    -- Nobody has a grip on a cell that has no mutex.
    have hnone : ∀ id, G id cell = none := by
      intro id
      cases hG : G id cell with
      | none => rfl
      | some grip => exact absurd ((h.linked hG).symm.trans hentry) (by simp)
    have hold : ∀ {cell' mutex}, (table.entries.insert cell table.next).find? cell' = some mutex →
        cell' = cell ∧ mutex = table.next ∨
          cell' ≠ cell ∧ table.entries.find? cell' = some mutex :=
      fun hfind => SortedMap.find?_insert_cases hfind
    refine ⟨?_, SortedMap.find?_insert_self ..⟩
    constructor
    case linked =>
      intro id cell' mutex grip hG
      have hne : cell' ≠ cell := by
        rintro rfl
        exact absurd (hnone id ▸ hG) (by simp)
      exact (SortedMap.find?_insert_of_ne _ _ hne).trans (h.linked hG)
    case single =>
      intro cell₁ cell₂ mutex h₁ h₂
      -- The new mutex is that of no other cell.
      rcases hold h₁ with ⟨hcell₁, hnew₁⟩ | ⟨-, hold₁⟩
      · rcases hold h₂ with ⟨hcell₂, -⟩ | ⟨-, hold₂⟩
        · rw [hcell₁, hcell₂]
        · exact absurd (h.fresh hold₂) (hnew₁ ▸ Nat.lt_irrefl _)
      · rcases hold h₂ with ⟨-, hnew₂⟩ | ⟨-, hold₂⟩
        · exact absurd (h.fresh hold₁) (hnew₂ ▸ Nat.lt_irrefl _)
        · exact h.single hold₁ hold₂
    case fresh =>
      intro cell' mutex hfind
      rcases hold hfind with ⟨-, rfl⟩ | ⟨-, hfind⟩
      · exact Nat.lt_succ_self _
      · exact Nat.lt_succ_of_lt (h.fresh hfind)
    case served =>
      intro cell' mutex hfind
      rcases hold hfind with ⟨rfl, rfl⟩ | ⟨-, hfind⟩
      · refine ⟨_, SortedMap.find?_insert_self .., SharedMutex.serves_new fun id => ?_⟩
        rw [Grips.on, hnone id]
        rfl
      · obtain ⟨x, hx, hserved⟩ := h.served hfind
        have hne : mutex ≠ table.next := Nat.ne_of_lt (h.fresh hfind)
        exact ⟨x, (SortedMap.find?_insert_of_ne _ _ hne).trans hx, hserved⟩

/-- A transaction that has no grip on a cell takes a reference to its mutex. -/
theorem Serves.share (h : table.Serves G) (hnone : G id cell = none)
    (hturns : G.Turns G' id cell (some ((table.share cell).1, .clone))) :
    (table.share cell).2.Serves G' := by
  obtain ⟨hserves, hentry⟩ := h.entry cell
  refine hserves.update (some .clone) hturns hentry fun x _ hx => ?_
  refine hx.share hturns.on_of_ne_id ?_ hturns.on_self
  rw [Grips.on, hnone]
  rfl

/-- Who stands first in the line of a mutex that has changed. -/
theorem isFirst_update {x : SharedMutex} {f : SharedMutex → SharedMutex}
    (hx : table.mutexes.find? mutex = some x) (id : TransactionId) :
    (table.update mutex f).isFirst mutex id = decide ((f x).line.head? = some id) := by
  rw [isFirst, find?_mutexes_update, if_pos rfl, hx]
  rfl

/-- A transaction that has a reference goes to the end of the line, and takes the guard if it stands
first there. -/
theorem Serves.enter (h : table.Serves G) (hclone : G id cell = some (mutex, .clone))
    (hturns : G.Turns G' id cell
      (some (mutex, if (table.enter mutex id).isFirst mutex id then .guard else .place))) :
    (table.enter mutex id).Serves G' := by
  refine h.update (some _) hturns (h.linked hclone) fun x hfind hx => ?_
  refine hx.enter hturns.on_of_ne_id (Grips.on_of_eq hclone) (hturns.on_self.trans ?_)
  rw [MutexTable.enter, isFirst_update hfind]
  simp

/-- A transaction that stands first takes the guard. -/
theorem Serves.take (h : table.Serves G) (hplace : G id cell = some (mutex, .place))
    (hfirst : table.isFirst mutex id = true)
    (hturns : G.Turns G' id cell (some (mutex, .guard))) : table.Serves G' where
  -- `id` had a place on the same mutex before, so the grip still leads where it led.
  linked {id' cell' mutex' grip} hG := by
    by_cases hid : id' = id ∧ cell' = cell
    · obtain ⟨rfl, rfl⟩ := hid
      rw [hturns.self] at hG
      obtain ⟨rfl, -⟩ := Prod.mk.inj (Option.some.inj hG)
      exact h.linked hplace
    · exact h.linked (hturns.others id' cell' hid ▸ hG)
  single := h.single
  fresh := h.fresh
  served {cell' mutex'} hentry := by
    obtain ⟨x, hx, hserved⟩ := h.served hentry
    refine ⟨x, hx, ?_⟩
    -- The mutex of this cell sees the place become the guard; the other mutexes see no change.
    by_cases hcell : cell' = cell
    · subst hcell
      obtain rfl : mutex' = mutex := Option.some.inj (hentry.symm.trans (h.linked hplace))
      rw [isFirst, hx] at hfirst
      exact hserved.take hturns.on_of_ne_id (Grips.on_of_eq hplace) (by simpa using hfirst)
        hturns.on_self
    · rw [hturns.on_of_ne hcell]
      exact hserved

/-- A transaction that has a grip leaves the line and keeps the reference. -/
theorem Serves.leave (h : table.Serves G) {grip : Grip} (hgrip : G id cell = some (mutex, grip))
    (hturns : G.Turns G' id cell (some (mutex, .clone))) : (table.leave mutex id).Serves G' := by
  refine h.update (some .clone) hturns (h.linked hgrip) fun x _ hx => ?_
  refine hx.leave hturns.on_of_ne_id ?_ hturns.on_self
  rw [Grips.on_of_eq hgrip]
  simp

/-- The reference of a transaction is not the last one. -/
theorem Serves.unshare_eq (h : table.Serves G) (hclone : G id cell = some (mutex, .clone)) :
    table.unshare mutex = table.update mutex .unshare := by
  obtain ⟨x, hx, hserved⟩ := h.exists_mutex hclone
  have hsome : G.on cell id ≠ none := by
    rw [Grips.on_of_eq hclone]
    simp
  have hstrong := hserved.one_lt_strong hsome
  rw [MutexTable.unshare, MutexTable.update, hx]
  dsimp only
  rw [if_neg (Nat.not_le.2 hstrong)]

/-- A transaction drops its reference. -/
theorem Serves.unshare (h : table.Serves G) (hclone : G id cell = some (mutex, .clone))
    (hturns : G.Turns G' id cell none) : (table.unshare mutex).Serves G' := by
  rw [h.unshare_eq hclone]
  refine h.update none hturns (h.linked hclone) fun x _ hx => ?_
  exact hx.unshare hturns.on_of_ne_id (Grips.on_of_eq hclone) hturns.on_self

/-- A table that is pruned stays as it is, or it forgets a mutex that nobody has a grip on. -/
theorem Serves.prune_cases (h : table.Serves G) (cell : Cell) : table.prune cell = table ∨
    ∃ mutex, table.entries.find? cell = some mutex ∧ (∀ id, G id cell = none) ∧
      table.prune cell =
        ⟨table.entries.erase cell, table.mutexes.erase mutex, table.next⟩ := by
  rw [MutexTable.prune]
  cases hentry : table.entries.find? cell with
  | none => exact .inl rfl
  | some mutex =>
    dsimp only
    obtain ⟨x, hx, hserved⟩ := h.served hentry
    rw [strong, hx]
    -- With the entry's own reference as the last one, nobody else has a grip on the mutex.
    dsimp only
    split
    · rename_i hstrong
      rw [MutexTable.unshare, hx]
      dsimp only
      rw [if_pos (Nat.le_of_eq hstrong)]
      refine .inr ⟨mutex, rfl, fun id => ?_, rfl⟩
      exact Option.map_eq_none_iff.1 (hserved.eq_none_of_strong hstrong id)
    · exact .inl rfl

/-- **A table may be pruned at every moment.** It forgets a mutex only if nobody has a grip on
it. -/
theorem Serves.prune (h : table.Serves G) (cell : Cell) : (table.prune cell).Serves G := by
  rcases h.prune_cases cell with hsame | ⟨mutex, hentry, hnone, hprune⟩
  · rw [hsame]
    exact h
  · rw [hprune]
    have hold : ∀ {cell' mutex'}, (table.entries.erase cell).find? cell' = some mutex' →
        cell' ≠ cell ∧ table.entries.find? cell' = some mutex' := by
      intro cell' mutex' hfind
      rw [SortedMap.find?_erase] at hfind
      split at hfind
      · exact absurd hfind (by simp)
      · exact ⟨‹_›, hfind⟩
    constructor
    case linked =>
      intro id cell' mutex' grip hG
      have hne : cell' ≠ cell := by
        rintro rfl
        exact absurd (hnone id ▸ hG) (by simp)
      exact (SortedMap.find?_erase_of_ne _ hne).trans (h.linked hG)
    case single =>
      intro cell₁ cell₂ mutex' h₁ h₂
      exact h.single (hold h₁).2 (hold h₂).2
    case fresh =>
      intro cell' mutex' hfind
      exact h.fresh (hold hfind).2
    case served =>
      intro cell' mutex' hfind
      -- The mutexes of the other cells are others, so they are still there.
      obtain ⟨hne, hfind⟩ := hold hfind
      obtain ⟨x, hx, hserved⟩ := h.served hfind
      have hmutex : mutex' ≠ mutex := fun heq => hne (h.single hfind (heq ▸ hentry))
      exact ⟨x, (SortedMap.find?_erase_of_ne _ hmutex).trans hx, hserved⟩

end MutexTable

end Muster
