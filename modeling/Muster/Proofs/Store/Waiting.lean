import Mathlib.Logic.Relation
import Muster.Proofs.Store.Queue

/-!
# Who waits for whom

A transaction in the queue of a lock waits for the holder and for all that stand before it
(`Locks.WaitsFor`). If every transaction that waits asks for a cell above all cells that it holds,
then along this relation one gets to higher cells, or forward in a queue, so there is no cycle
(`Locks.IsAscending.not_cycle`).

To see who comes to hold a lock one has to look at few cases: a lock that a transaction holds after
a change of the store it held before, it stood in the queue, or it has just asked for it.
-/

namespace Muster

variable {id id' : TransactionId} {cell cell' : Cell} {n m : Nat}

namespace Locks

variable {locks : Locks}

/-- A transaction stands at a place in the queue of a cell. -/
def Stands (locks : Locks) (id : TransactionId) (cell : Cell) (n : Nat) : Prop :=
  ∃ lock, locks.find? cell = some lock ∧ lock.waiting[n]? = some id

/-- A transaction waits for the lock of a cell. -/
def Queues (locks : Locks) (id : TransactionId) (cell : Cell) : Prop :=
  ∃ lock, locks.find? cell = some lock ∧ id ∈ lock.waiting

/-- A transaction waits for another one: for the holder of a lock, or for one that stands before it
in the queue. -/
def WaitsFor (locks : Locks) (id id' : TransactionId) : Prop :=
  ∃ cell n, locks.Stands id cell n ∧
    (locks.holds id' cell = true ∨ ∃ m < n, locks.Stands id' cell m)

/-- Whoever stands in the queue of a cell waits for its lock. -/
theorem Stands.queues (h : locks.Stands id cell n) : locks.Queues id cell := by
  obtain ⟨lock, hlock, hplace⟩ := h
  exact ⟨lock, hlock, List.mem_of_getElem? hplace⟩

/-- A transaction holds no lock in whose queue it stands. -/
theorem Queues.not_holds {isOpen : TransactionId → Prop} {waits : TransactionId → Cell → Prop}
    (hg : locks.Guarded isOpen waits) (h : locks.Queues id cell) : locks.holds id cell = false := by
  rw [Bool.eq_false_iff]
  intro hholds
  obtain ⟨lock, hlock, hmem⟩ := h
  obtain ⟨lock', hlock', rfl⟩ := holds_iff.1 hholds
  obtain rfl := Option.some.inj (hlock.symm.trans hlock')
  exact (List.nodup_cons.1 (hg.nodup hlock)).1 hmem

/-- Each transaction waits for one lock at most, at one place, and for a lock above all that it
holds. -/
structure IsAscending (locks : Locks) : Prop where
  /-- It waits at one place. -/
  place : ∀ {id cell cell' n n'}, locks.Stands id cell n → locks.Stands id cell' n' →
    cell = cell' ∧ n = n'
  /-- The lock is above those that it holds. -/
  above : ∀ {id cell cell' n}, locks.holds id cell = true → locks.Stands id cell' n →
    compare cell cell' = .lt

/-- A place in a queue is behind another one: in the queue of a lower cell, or later in the same
queue. -/
def Behind (cell : Cell) (n : Nat) (cell' : Cell) (n' : Nat) : Prop :=
  compare cell cell' = .lt ∨ cell = cell' ∧ n' < n

/-- No place in a queue is behind itself. -/
theorem not_behind_self (cell : Cell) (n : Nat) : ¬ Behind cell n cell n := by
  rintro (hlt | ⟨-, hlt⟩)
  · exact SortedMap.ne_of_compare_lt hlt rfl
  · exact Nat.lt_irrefl n hlt

/-- What is behind a place is behind all that the place is behind. -/
theorem Behind.trans {cell'' : Cell} {n' n'' : Nat} (h : Behind cell n cell' n')
    (h' : Behind cell' n' cell'' n'') : Behind cell n cell'' n'' := by
  rcases h with hlt | ⟨rfl, hlt⟩
  · rcases h' with hlt' | ⟨rfl, -⟩
    · exact .inl (Std.TransCmp.lt_trans hlt hlt')
    · exact .inl hlt
  · rcases h' with hlt' | ⟨rfl, hlt'⟩
    · exact .inl hlt'
    · exact .inr ⟨rfl, Nat.lt_trans hlt' hlt⟩

/-- A transaction that waits stands behind those that it waits for. -/
theorem IsAscending.behind (ha : locks.IsAscending) {n' : Nat} (hwaits : locks.WaitsFor id id')
    (h : locks.Stands id cell n) (h' : locks.Stands id' cell' n') : Behind cell n cell' n' := by
  obtain ⟨cell₀, n₀, hstands, hfor⟩ := hwaits
  obtain ⟨rfl, rfl⟩ := ha.place h hstands
  rcases hfor with hholds | ⟨m, hlt, hbefore⟩
  · exact .inl (ha.above hholds h')
  · obtain ⟨rfl, rfl⟩ := ha.place hbefore h'
    exact .inr ⟨rfl, hlt⟩

/-- **Where locks are asked for in ascending order, nobody waits for itself, be it through
others.** -/
theorem IsAscending.not_cycle (ha : locks.IsAscending) (id : TransactionId) :
    ¬ Relation.TransGen locks.WaitsFor id id := by
  -- Whoever is waited for stands further on, if it waits at all.
  have hbehind : ∀ {id'}, Relation.TransGen locks.WaitsFor id id' → ∀ {cell n cell' n'},
      locks.Stands id cell n → locks.Stands id' cell' n' → Behind cell n cell' n' := by
    intro id' hchain
    induction hchain with
    | single hwaits => exact fun h h' => ha.behind hwaits h h'
    | tail hchain hwaits ih =>
      intro cell n cell' n' h h'
      obtain ⟨cell₀, n₀, hmiddle, hfor⟩ := hwaits
      exact (ih h hmiddle).trans (ha.behind ⟨cell₀, n₀, hmiddle, hfor⟩ hmiddle h')
  intro hcycle
  obtain ⟨id', ⟨cell, n, hstands, -⟩, -⟩ := Relation.TransGen.head'_iff.1 hcycle
  exact not_behind_self cell n (hbehind hcycle hstands hstands)

/-! ## Who comes to hold a lock -/

/-- A request gives at most its own lock, to the transaction that asks. -/
theorem holds_of_request (h : (locks.request id cell).holds id' cell' = true) :
    locks.holds id' cell' = true ∨ id' = id ∧ cell' = cell := by
  obtain ⟨lock, hlock, rfl⟩ := holds_iff.1 h
  rw [request] at hlock
  -- A free lock goes to who asks; a lock that is held keeps its holder.
  split at hlock
  · rcases SortedMap.find?_insert_cases hlock with ⟨rfl, rfl⟩ | ⟨-, hold⟩
    · exact .inr ⟨rfl, rfl⟩
    · exact .inl (holds_iff.2 ⟨lock, hold, rfl⟩)
  · rename_i old hold
    split at hlock
    · exact .inl (holds_iff.2 ⟨lock, hlock, rfl⟩)
    · rcases SortedMap.find?_insert_cases hlock with ⟨rfl, rfl⟩ | ⟨-, hlock⟩
      · exact .inl (holds_iff.2 ⟨old, hold, (holder_queue old id).symm⟩)
      · exact .inl (holds_iff.2 ⟨lock, hlock, rfl⟩)

/-- A withdrawal gives no lock. -/
theorem holds_of_withdraw (h : (locks.withdraw id cell).holds id' cell' = true) :
    locks.holds id' cell' = true := by
  obtain ⟨lock, hlock, rfl⟩ := holds_iff.1 h
  rw [withdraw] at hlock
  split at hlock
  · exact holds_iff.2 ⟨lock, hlock, rfl⟩
  · rename_i old hold
    rcases SortedMap.find?_insert_cases hlock with ⟨rfl, rfl⟩ | ⟨-, hlock⟩
    · exact holds_iff.2 ⟨old, hold, rfl⟩
    · exact holds_iff.2 ⟨lock, hlock, rfl⟩

/-- Withdrawing a request puts nobody into a queue. -/
theorem queues_of_withdraw (h : (locks.withdraw id cell).Queues id' cell') :
    locks.Queues id' cell' := by
  obtain ⟨lock, hlock, hmem⟩ := h
  rw [withdraw] at hlock
  split at hlock
  · exact ⟨lock, hlock, hmem⟩
  · rename_i old hold
    rcases SortedMap.find?_insert_cases hlock with ⟨rfl, rfl⟩ | ⟨-, hlock⟩
    · exact ⟨old, hold, (List.mem_filter.1 hmem).1⟩
    · exact ⟨lock, hlock, hmem⟩

/-- A request puts at most the transaction that asks into the queue of its lock. -/
theorem queues_of_request (h : (locks.request id cell).Queues id' cell') :
    locks.Queues id' cell' ∨ id' = id ∧ cell' = cell := by
  obtain ⟨lock, hlock, hmem⟩ := h
  rw [request] at hlock
  -- A free lock has no queue; otherwise the request joins the end of it.
  split at hlock
  · rcases SortedMap.find?_insert_cases hlock with ⟨-, rfl⟩ | ⟨-, hold⟩
    · exact absurd hmem (by simp)
    · exact .inl ⟨lock, hold, hmem⟩
  · rename_i old hold
    split at hlock
    · exact .inl ⟨lock, hlock, hmem⟩
    · rcases SortedMap.find?_insert_cases hlock with ⟨rfl, rfl⟩ | ⟨-, hlock⟩
      · rw [Lock.queue] at hmem
        split at hmem
        · exact .inl ⟨old, hold, hmem⟩
        · rcases List.mem_append.1 hmem with hmem | hmem
          · exact .inl ⟨old, hold, hmem⟩
          · exact .inr ⟨List.mem_singleton.1 hmem, rfl⟩
      · exact .inl ⟨lock, hlock, hmem⟩

/-- A release puts nobody into a queue. -/
theorem queues_of_release (h : (locks.release id).Queues id' cell') : locks.Queues id' cell' := by
  obtain ⟨lock, hlock, hmem⟩ := h
  rcases find?_release_cases hlock with ⟨hold, -⟩ | hold
  · exact ⟨lock, hold, hmem⟩
  · exact ⟨_, hold, List.mem_cons_of_mem _ hmem⟩

/-- A release gives locks to those that stand in their queues. -/
theorem holds_of_release (h : (locks.release id).holds id' cell' = true) :
    locks.holds id' cell' = true ∨ locks.Queues id' cell' := by
  obtain ⟨lock, hlock, rfl⟩ := holds_iff.1 h
  rcases find?_release_cases hlock with ⟨hold, -⟩ | hold
  · exact .inl (holds_iff.2 ⟨lock, hold, rfl⟩)
  · exact .inr ⟨_, hold, List.mem_cons_self⟩

end Locks

namespace Store

variable {s : Store}

/-- A request gives at most its own lock, to the transaction that asks. -/
theorem holds_of_ask {r : Request} (h : (s.ask id r).1.locks.holds id' cell' = true) :
    s.locks.holds id' cell' = true ∨ id' = id ∧ r.lock? = some cell' := by
  rw [ask] at h
  split at h
  · exact .inl h
  · split at h
    · exact .inl h
    · rename_i cell hlock
      -- Answered or not, the locks are those of the request.
      have hrequest : (s.locks.request id cell).holds id' cell' = true := by
        dsimp only at h
        split at h
        · exact h
        · exact h
      rcases Locks.holds_of_request hrequest with hold | ⟨rfl, rfl⟩
      · exact .inl hold
      · exact .inr ⟨rfl, hlock⟩

/-- The end of a waiting gives no lock. -/
theorem holds_of_withdraw {r : Request} (h : (s.withdraw id r).locks.holds id' cell' = true) :
    s.locks.holds id' cell' = true := by
  rw [withdraw] at h
  split at h
  · exact h
  · exact Locks.holds_of_withdraw h

/-- Neither does it give a place in a queue. -/
theorem queues_of_withdraw {r : Request} (h : (s.withdraw id r).locks.Queues id' cell') :
    s.locks.Queues id' cell' := by
  rw [withdraw] at h
  split at h
  · exact h
  · exact Locks.queues_of_withdraw h

/-- The end of a transaction gives locks to those that stand in their queues. -/
theorem holds_of_discard (h : (s.discard id).locks.holds id' cell' = true) :
    s.locks.holds id' cell' = true ∨ s.locks.Queues id' cell' := by
  rw [discard] at h
  split at h
  · exact .inl h
  · exact Locks.holds_of_release h

/-- Who holds a lock behind a commit has held it before, or has waited for it. -/
theorem holds_of_commit (h : (s.commit id).locks.holds id' cell' = true) :
    s.locks.holds id' cell' = true ∨ s.locks.Queues id' cell' := by
  rw [commit] at h
  split at h
  · exact .inl h
  · rename_i tx hlive
    have hdiscard : s.locks.holds id' cell' = true ∨ s.locks.Queues id' cell' :=
      holds_of_discard (s := { s with committed := s.committed.apply tx.changes }) h
    exact hdiscard

end Store

end Muster
