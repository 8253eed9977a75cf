import Muster.Proofs.SortedMap
import Muster.Store.Locks

/-!
# Who holds a lock

A lock has one holder (`holder_unique`), and only the holder's own release takes a lock away from
it: requests and withdrawals of any transaction and releases of other transactions leave it where it
is.
-/

namespace Muster.Locks

/-- A transaction holds the lock of a cell if the table lists it as the holder. -/
theorem holds_iff {locks : Locks} {id : TransactionId} {cell : Cell} :
    locks.holds id cell = true ↔ ∃ lock, locks.find? cell = some lock ∧ lock.holder = id := by
  rw [holds]
  cases h : locks.find? cell with
  | none => simp
  | some lock => simp

/-- Two holders of one lock are the same. -/
theorem holder_unique {locks : Locks} {id id' : TransactionId} {cell : Cell}
    (h : locks.holds id cell = true) (h' : locks.holds id' cell = true) : id = id' := by
  obtain ⟨lock, hlock, rfl⟩ := holds_iff.1 h
  obtain ⟨lock', hlock', rfl⟩ := holds_iff.1 h'
  rw [hlock] at hlock'
  rw [Option.some.inj hlock']

/-- Queueing for a lock does not change its holder. -/
@[simp] theorem holder_queue (lock : Lock) (id : TransactionId) :
    (lock.queue id).holder = lock.holder := by
  rw [Lock.queue]
  split
  · rfl
  · rfl

/-- A request for a lock takes no lock away. -/
theorem holds_request {locks : Locks} {id : TransactionId} {cell : Cell}
    (h : locks.holds id cell = true) (id' : TransactionId) (cell' : Cell) :
    (locks.request id' cell').holds id cell = true := by
  obtain ⟨lock, hlock, hid⟩ := holds_iff.1 h
  rw [holds_iff, request]
  -- A request adds a lock where there was none, or joins the end of a queue; the holder is not
  -- moved.
  cases hl : locks.find? cell' with
  | none =>
    have hne : cell ≠ cell' := by
      rintro rfl
      rw [hl] at hlock
      exact absurd hlock (by simp)
    exact ⟨lock, by rw [SortedMap.find?_insert_of_ne _ _ hne, hlock], hid⟩
  | some lock' =>
    dsimp only
    split
    · exact ⟨lock, hlock, hid⟩
    · by_cases hc : cell = cell'
      · subst hc
        rw [hl] at hlock
        obtain rfl := Option.some.inj hlock
        exact ⟨_, SortedMap.find?_insert_self .., by rw [holder_queue, hid]⟩
      · exact ⟨lock, by rw [SortedMap.find?_insert_of_ne _ _ hc, hlock], hid⟩

/-- The end of a waiting takes no lock away. -/
theorem holds_withdraw {locks : Locks} {id : TransactionId} {cell : Cell}
    (h : locks.holds id cell = true) (id' : TransactionId) (cell' : Cell) :
    (locks.withdraw id' cell').holds id cell = true := by
  obtain ⟨lock, hlock, hid⟩ := holds_iff.1 h
  rw [holds_iff, withdraw]
  cases hl : locks.find? cell' with
  | none => exact ⟨lock, hlock, hid⟩
  | some lock' =>
    -- The queue of this cell loses a member, which is never its holder.
    by_cases hc : cell = cell'
    · subst hc
      rw [hl] at hlock
      obtain rfl := Option.some.inj hlock
      exact ⟨_, SortedMap.find?_insert_self .., hid⟩
    · exact ⟨lock, by rw [SortedMap.find?_insert_of_ne _ _ hc, hlock], hid⟩

/-- The release of the locks of another transaction takes no lock away. -/
theorem holds_release {locks : Locks} {id id' : TransactionId} {cell : Cell}
    (h : locks.holds id cell = true) (hne : id ≠ id') :
    (locks.release id').holds id cell = true := by
  obtain ⟨lock, hlock, hid⟩ := holds_iff.1 h
  refine holds_iff.2 ⟨lock, ?_, hid⟩
  rw [release, SortedMap.find?_filterMap, hlock]
  simp [hid, hne]

/-- A lock after some were passed on is as it was, or it has gone to the first in its queue. -/
theorem find?_passOn_cases {locks : Locks} {p : Cell → Lock → Prop} [∀ c l, Decidable (p c l)]
    {cell : Cell} {lock : Lock}
    (h : (locks.filterMap fun c l => if p c l then l.passOn else some l).find? cell = some lock) :
    locks.find? cell = some lock ∧ ¬ p cell lock ∨
      ∃ id, p cell ⟨id, lock.holder :: lock.waiting⟩ ∧
        locks.find? cell = some ⟨id, lock.holder :: lock.waiting⟩ := by
  rw [SortedMap.find?_filterMap] at h
  obtain ⟨⟨id, waiting⟩, hold, hlock⟩ := Option.bind_eq_some_iff.1 h
  -- A lock that is not passed on stays as it was; one that is passed on goes to the first in line.
  split at hlock
  · rename_i hp
    rw [Lock.passOn] at hlock
    split at hlock
    · exact absurd hlock (by simp)
    · rename_i first rest hwaiting
      obtain rfl := Option.some.inj hlock
      obtain rfl : waiting = first :: rest := hwaiting
      exact .inr ⟨id, hp, hold⟩
  · rename_i hp
    obtain rfl := Option.some.inj hlock
    exact .inl ⟨hold, hp⟩

/-- A lock after a release is that of another holder, or it was passed on. -/
theorem find?_release_cases {locks : Locks} {id : TransactionId} {cell : Cell} {lock : Lock}
    (h : (locks.release id).find? cell = some lock) :
    locks.find? cell = some lock ∧ lock.holder ≠ id ∨
      locks.find? cell = some ⟨id, lock.holder :: lock.waiting⟩ := by
  rcases find?_passOn_cases h with hkept | ⟨id', rfl, hold⟩
  · exact .inl hkept
  · exact .inr hold

/-- A lock for which nobody else asks is taken at once, and again as often as it is asked for. -/
theorem find?_request_of_free {locks : Locks} {id : TransactionId} {cell : Cell}
    (h : locks.find? cell = none ∨ locks.find? cell = some ⟨id, []⟩) (cell' : Cell) :
    (locks.request id cell).find? cell' =
      if cell' = cell then some ⟨id, []⟩ else locks.find? cell' := by
  rw [request]
  -- Either there is no lock, and it is granted, or `id` has it and asks again.
  rcases h with hnone | hmine
  · rw [hnone]
    exact SortedMap.find?_insert ..
  · rw [hmine]
    dsimp only
    rw [if_pos rfl]
    split
    · rename_i hcell
      rw [hcell, hmine]
    · rfl

/-- A lock that a transaction holds alone is free after its release. -/
theorem find?_release_of_free {locks : Locks} {id : TransactionId} {cell : Cell}
    (h : locks.find? cell = none ∨ locks.find? cell = some ⟨id, []⟩) :
    (locks.release id).find? cell = none := by
  rw [release, SortedMap.find?_filterMap]
  rcases h with hnone | hmine
  · rw [hnone]
    rfl
  · rw [hmine]
    simp [Lock.passOn]

end Muster.Locks
