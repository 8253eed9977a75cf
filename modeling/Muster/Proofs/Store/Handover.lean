import Muster.Proofs.Store.Mutexes

/-!
# The locks that the mutexes are

A table of mutexes is a table of locks as `Locks` has them (`MutexTable.locks`): in the line of a
mutex the first is the holder, and the others wait. References do not show there, and neither does
anyone who is not counted any more. Entering a line is a request for the lock, and leaving it lets
go of the lock, be it held or waited for (`Locks.letGo`); to forget a mutex changes no lock, because
nobody stands in its line; and no longer to count one that has guards only releases all of them at
once (`MutexTable.Serves.locks_release`).
-/

namespace Muster

namespace Lock

/-- A line without some of those that stand in it, as a lock. -/
theorem bind_ofLine? (line : List TransactionId) (f : TransactionId → Bool) :
    (ofLine? line).bind (fun lock => ofLine? ((lock.holder :: lock.waiting).filter f)) =
      ofLine? (line.filter f) := by
  cases line with
  | nil => rfl
  | cons holder waiting => rfl

/-- Behind the first stand the others. -/
theorem passOn_eq (holder : TransactionId) (waiting : List TransactionId) :
    passOn ⟨holder, waiting⟩ = ofLine? waiting := by
  cases waiting with
  | nil => rfl
  | cons first rest => rfl

end Lock

namespace Locks

variable {locks : Locks} {id id' : TransactionId} {cell cell' : Cell}

/-- A transaction lets go of the lock of a cell: it waits for it no longer, and if it holds it, the
first of the others does. -/
def letGo (locks : Locks) (id : TransactionId) (cell : Cell) : Locks :=
  (locks.withdraw id cell).filterMap fun cell' lock =>
    if cell' = cell ∧ lock.holder = id then lock.passOn else some lock

/-- The lock is that of the others in line. -/
theorem find?_letGo (locks : Locks) (id : TransactionId) (cell cell' : Cell) :
    (locks.letGo id cell).find? cell' =
      if cell' = cell then
        (locks.find? cell).bind fun lock =>
          Lock.ofLine? ((lock.holder :: lock.waiting).filter (· ≠ id))
      else locks.find? cell' := by
  rw [letGo, SortedMap.find?_filterMap, withdraw]
  cases hlock : locks.find? cell with
  | none =>
    dsimp only
    split
    · rename_i hcell
      rw [hcell, hlock]
      rfl
    · rename_i hcell
      simp [hcell]
  | some lock =>
    dsimp only
    rw [SortedMap.find?_insert]
    split
    · rename_i hcell
      rw [hcell, Option.bind_some, Option.bind_some, Lock.unqueue]
      by_cases hholder : lock.holder = id
      · -- The holder lets go: the rest of the line is left.
        rw [if_pos ⟨rfl, hholder⟩, List.filter_cons_of_neg (by simp [hholder]), Lock.passOn_eq]
      · rw [if_neg fun h => hholder h.2, List.filter_cons_of_pos (by simp [hholder])]
        rfl
    · rename_i hcell
      simp [hcell]

end Locks

namespace MutexTable

variable {table : MutexTable} {G : Grips} {id : TransactionId} {cell cell' : Cell}
  {mutex : MutexId} {counts counts' : TransactionId → Bool}

/-- The lock of a cell is that of its mutex. -/
theorem find?_locks (table : MutexTable) (counts : TransactionId → Bool) (cell : Cell) :
    (table.locks counts).find? cell = (table.entries.find? cell).bind fun mutex =>
      (table.mutexes.find? mutex).bind fun x => Lock.ofLine? (x.line.filter counts) :=
  SortedMap.find?_filterMap ..

/-- The line of a lock is the line of the mutex. -/
theorem find?_locks_of_mutex {x : SharedMutex} (hentry : table.entries.find? cell = some mutex)
    (hx : table.mutexes.find? mutex = some x) (counts : TransactionId → Bool) :
    (table.locks counts).find? cell = Lock.ofLine? (x.line.filter counts) := by
  rw [find?_locks, hentry, Option.bind_some, hx, Option.bind_some]

/-- The locks do not depend on whether one counts that stands in no line. -/
theorem Serves.locks_congr (h : table.Serves G)
    (hcounts : ∀ id cell, G id cell ≠ none → counts id = counts' id) :
    table.locks counts = table.locks counts' := by
  refine SortedMap.ext_find? fun cell => ?_
  cases hentry : table.entries.find? cell with
  | none => rw [find?_locks, find?_locks, hentry, Option.bind_none, Option.bind_none]
  | some mutex =>
    obtain ⟨x, hx, hserved⟩ := h.served hentry
    rw [find?_locks_of_mutex hentry hx, find?_locks_of_mutex hentry hx]
    refine congrArg _ (List.filter_congr fun id hid => hcounts id cell fun hnone => ?_)
    rw [hserved.mem_line, Grips.on, hnone] at hid
    exact absurd hid (by simp)

/-! ## What the operations do to the locks -/

/-- The locks of a table of which one mutex has changed. -/
theorem Serves.find?_locks_update (h : table.Serves G)
    (hmutex : table.entries.find? cell = some mutex) (f : SharedMutex → SharedMutex) :
    ((table.update mutex f).locks counts).find? cell' =
      if cell' = cell then
        (table.mutexes.find? mutex).bind fun x => Lock.ofLine? ((f x).line.filter counts)
      else (table.locks counts).find? cell' := by
  rw [find?_locks, find?_locks, entries_update]
  split
  -- The cell whose entry leads to the mutex sees the change, and no other cell leads there.
  · rename_i hcell
    rw [hcell, hmutex, Option.bind_some, find?_mutexes_update, if_pos rfl]
    cases table.mutexes.find? mutex with
    | none => rfl
    | some x => rfl
  · rename_i hcell
    cases hentry : table.entries.find? cell' with
    | none => rfl
    | some mutex' =>
      have hne : mutex' ≠ mutex := fun heq => hcell (h.single hentry (heq ▸ hmutex))
      rw [Option.bind_some, Option.bind_some, find?_mutexes_update, if_neg hne]

/-- A change of a mutex that leaves its line alone leaves the locks alone. -/
theorem Serves.locks_update (h : table.Serves G)
    (hmutex : table.entries.find? cell = some mutex) {f : SharedMutex → SharedMutex}
    (hline : ∀ x, (f x).line = x.line) : (table.update mutex f).locks counts =
      table.locks counts := by
  refine SortedMap.ext_find? fun cell' => ?_
  rw [h.find?_locks_update hmutex]
  split
  · rename_i hcell
    rw [hcell, find?_locks, hmutex, Option.bind_some]
    exact congrArg _ (funext fun x => by rw [hline])
  · rfl

/-- A new mutex is a lock that nobody holds. -/
theorem Serves.locks_entry (h : table.Serves G) (cell : Cell) :
    (table.entry cell).2.locks counts = table.locks counts := by
  rw [MutexTable.entry]
  cases hentry : table.entries.find? cell with
  | some mutex => rfl
  | none =>
    -- A new entry leads to a mutex with an empty line, which stands for no lock at all.
    refine SortedMap.ext_find? fun cell' => ?_
    rw [find?_locks, find?_locks]
    dsimp only
    rw [SortedMap.find?_insert]
    split
    · rename_i hcell
      rw [hcell, hentry, Option.bind_some, SortedMap.find?_insert_self]
      rfl
    · cases hfind : table.entries.find? cell' with
      | none => rfl
      | some mutex =>
        have hne : mutex ≠ table.next := Nat.ne_of_lt (h.fresh hfind)
        rw [Option.bind_some, Option.bind_some, SortedMap.find?_insert_of_ne _ _ hne]

/-- To take a reference changes no lock. -/
theorem Serves.locks_share (h : table.Serves G) (cell : Cell) :
    (table.share cell).2.locks counts = table.locks counts := by
  obtain ⟨hserves, hentry⟩ := h.entry cell
  exact (hserves.locks_update (f := .share) hentry fun _ => rfl).trans (h.locks_entry cell)

/-- To enter a line is to request the lock. -/
theorem Serves.locks_enter (h : table.Serves G) (hclone : G id cell = some (mutex, .clone))
    (hcounts : counts id = true) :
    (table.enter mutex id).locks counts = (table.locks counts).request id cell := by
  have hmutex := h.linked hclone
  obtain ⟨x, hx, hserved⟩ := h.exists_mutex hclone
  have hnot : id ∉ x.line.filter counts := by
    intro hid
    have hline := (hserved.mem_line id).1 (List.mem_filter.1 hid).1
    rw [Grips.on_of_eq hclone] at hline
    exact absurd hline (by simp)
  have hself : [id].filter counts = [id] := by simp [hcounts]
  refine SortedMap.ext_find? fun cell' => ?_
  rw [MutexTable.enter, h.find?_locks_update hmutex, hx, Option.bind_some, SharedMutex.enter,
    List.filter_append, hself, Locks.request, find?_locks_of_mutex hmutex hx]
  cases hline : x.line.filter counts with
  | nil => exact (SortedMap.find?_insert ..).symm
  | cons holder waiting =>
    -- The transaction neither holds the lock nor waits for it yet.
    rw [hline] at hnot
    have hholder : holder ≠ id := fun heq => hnot (by simp [heq])
    have hwaiting : id ∉ waiting := fun hid => hnot (by simp [hid])
    rw [Lock.ofLine?]
    dsimp only
    rw [if_neg hholder, SortedMap.find?_insert, Lock.queue, if_neg hwaiting]
    rfl

/-- To leave a line is to let go of the lock. -/
theorem Serves.locks_leave (h : table.Serves G) {grip : Grip}
    (hgrip : G id cell = some (mutex, grip)) :
    (table.leave mutex id).locks counts = (table.locks counts).letGo id cell := by
  have hmutex := h.linked hgrip
  obtain ⟨x, hx, -⟩ := h.exists_mutex hgrip
  refine SortedMap.ext_find? fun cell' => ?_
  rw [MutexTable.leave, h.find?_locks_update hmutex, Locks.find?_letGo,
    find?_locks_of_mutex hmutex hx, Lock.bind_ofLine?, hx, Option.bind_some, SharedMutex.leave,
    List.filter_filter, List.filter_filter]
  simp only [Bool.and_comm]

/-- One that does not count has no lock to let go of. -/
theorem letGo_locks_of_not_counts (hcounts : counts id = false) (cell : Cell) :
    (table.locks counts).letGo id cell = table.locks counts := by
  refine SortedMap.ext_find? fun cell' => ?_
  rw [Locks.find?_letGo]
  split
  · rename_i hcell
    rw [hcell, find?_locks]
    cases table.entries.find? cell with
    | none => rfl
    | some mutex =>
      rw [Option.bind_some]
      cases table.mutexes.find? mutex with
      | none => rfl
      | some x =>
        rw [Option.bind_some, Lock.bind_ofLine?]
        refine congrArg _ (List.filter_eq_self.2 fun id' hid' => ?_)
        -- Whoever counts is another.
        have hcounts' := (List.mem_filter.1 hid').2
        rw [decide_eq_true_iff]
        rintro rfl
        rw [hcounts] at hcounts'
        exact absurd hcounts' (by simp)
  · rfl

/-- To drop a reference changes no lock. -/
theorem Serves.locks_unshare (h : table.Serves G) (hclone : G id cell = some (mutex, .clone)) :
    (table.unshare mutex).locks counts = table.locks counts := by
  rw [h.unshare_eq hclone]
  exact h.locks_update (f := .unshare) (h.linked hclone) fun _ => rfl

/-- To prune the table changes no lock: nobody stands in the line of a mutex that is forgotten. -/
theorem Serves.locks_prune (h : table.Serves G) (cell : Cell) :
    (table.prune cell).locks counts = table.locks counts := by
  rcases h.prune_cases cell with hsame | ⟨mutex, hentry, hnone, hprune⟩
  · rw [hsame]
  · obtain ⟨x, hx, hserved⟩ := h.served hentry
    -- The pruned mutex had no reference left, so its line is empty and stood for no lock.
    have hnew := hserved.eq_new fun id => by rw [Grips.on, hnone id]; rfl
    rw [hprune]
    refine SortedMap.ext_find? fun cell' => ?_
    by_cases hcell : cell' = cell
    · rw [hcell, find?_locks_of_mutex hentry hx, hnew, find?_locks, SortedMap.find?_erase_self]
      rfl
    · rw [find?_locks, find?_locks, SortedMap.find?_erase_of_ne _ hcell]
      cases hfind : table.entries.find? cell' with
      | none => rfl
      | some mutex' =>
        have hne : mutex' ≠ mutex := fun heq => hcell (h.single hfind (heq ▸ hentry))
        rw [Option.bind_some, Option.bind_some, SortedMap.find?_erase_of_ne _ hne]

/-- Where one that has guards only does not count any more, its locks are released. -/
theorem Serves.locks_release (h : table.Serves G)
    (hguards : ∀ cell mutex grip, G id cell = some (mutex, grip) → grip = .guard)
    (hcounts : counts id = true) :
    (table.locks fun id' => counts id' && id' ≠ id) = (table.locks counts).release id := by
  refine SortedMap.ext_find? fun cell => ?_
  rw [Locks.release, SortedMap.find?_filterMap]
  cases hentry : table.entries.find? cell with
  | none => rw [find?_locks, find?_locks, hentry]; rfl
  | some mutex =>
    obtain ⟨x, hx, hserved⟩ := h.served hentry
    rw [find?_locks_of_mutex hentry hx, find?_locks_of_mutex hentry hx]
    by_cases hid : id ∈ x.line
    · -- It has the guard, so it stands first, and nowhere else.
      have hguard : G.on cell id = some .guard := by
        have hline := (hserved.mem_line id).1 hid
        cases hG : G id cell with
        | none =>
          rw [Grips.on, hG] at hline
          exact absurd hline (by simp)
        | some pair => rw [Grips.on_of_eq hG, hguards cell pair.1 pair.2 hG]
      have hfirst := hserved.first id hguard
      have hnodup := hserved.nodup
      cases hline : x.line with
      | nil =>
        rw [hline] at hfirst
        exact absurd hfirst (by simp)
      | cons holder waiting =>
        rw [hline] at hfirst hnodup
        obtain rfl : holder = id := by simpa using hfirst
        have hrest : waiting.filter (fun id' => counts id' && id' ≠ holder) =
            waiting.filter counts := by
          refine List.filter_congr fun id' hid' => ?_
          have hne : id' ≠ holder := fun heq => (List.nodup_cons.1 hnodup).1 (heq ▸ hid')
          simp [hne]
        rw [List.filter_cons_of_neg (by simp), List.filter_cons_of_pos hcounts, Lock.ofLine?,
          Option.bind_some, if_pos rfl, Lock.passOn_eq, hrest]
    · have hsame : x.line.filter (fun id' => counts id' && id' ≠ id) = x.line.filter counts := by
        refine List.filter_congr fun id' hid' => ?_
        have hne : id' ≠ id := fun heq => hid (heq ▸ hid')
        simp [hne]
      rw [hsame]
      cases hline : x.line.filter counts with
      | nil => rfl
      | cons holder waiting =>
        have hholder : holder ≠ id := by
          rintro rfl
          have hmem : holder ∈ x.line.filter counts := by rw [hline]; simp
          exact hid (List.mem_filter.1 hmem).1
        rw [Lock.ofLine?, Option.bind_some, if_neg hholder]

/-! ## Who holds a lock -/

/-- A transaction that counts and has the guard of a cell holds its lock. -/
theorem Serves.holds_of_guard (h : table.Serves G) (hG : G id cell = some (mutex, .guard))
    (hcounts : counts id = true) : (table.locks counts).holds id cell = true := by
  obtain ⟨x, hx, hserved⟩ := h.exists_mutex hG
  -- Who has the guard is the first of the line, and the holder of the lock is the first that
  -- counts.
  have hfirst := hserved.first id (Grips.on_of_eq hG)
  rw [Locks.holds_iff, find?_locks_of_mutex (h.linked hG) hx]
  cases hline : x.line with
  | nil =>
    rw [hline] at hfirst
    exact absurd hfirst (by simp)
  | cons holder waiting =>
    rw [hline] at hfirst
    obtain rfl : holder = id := by simpa using hfirst
    rw [List.filter_cons_of_pos hcounts]
    exact ⟨⟨holder, waiting.filter counts⟩, rfl, rfl⟩

end MutexTable

end Muster
