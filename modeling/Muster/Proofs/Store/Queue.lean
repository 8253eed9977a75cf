import Muster.Proofs.Store.Locks
import Muster.Proofs.Store.Replay

/-!
# Who waits for a lock

A lock that is handed over goes to the first that waits for it, so no lock is left behind by a
transaction that has ended only if those who wait are known as well. `Guarded` says that the holder
of a lock is open, that those who wait for it do so, and that holder and queue are all different. A
request keeps it (`Guarded.ask`), an answer or a withdrawal ends a waiting, and the release of a
transaction that waits for nothing leaves no lock with it (`Guarded.release`).
-/

namespace Muster

variable {isOpen isOpen' : TransactionId → Prop} {waits waits' : TransactionId → Cell → Prop}
  {id : TransactionId} {cell : Cell}

namespace Locks

/-- Locks are held by transactions that are open, and those in their queues wait for them, each
once and none for a lock that it holds. -/
structure Guarded (locks : Locks) (isOpen : TransactionId → Prop)
    (waits : TransactionId → Cell → Prop) : Prop where
  /-- The holder is open. -/
  holder : ∀ {cell lock}, locks.find? cell = some lock → isOpen lock.holder
  /-- Those in the queue wait. -/
  waiting : ∀ {cell lock id}, locks.find? cell = some lock → id ∈ lock.waiting → waits id cell
  /-- The holder and those in the queue are all different. -/
  nodup : ∀ {cell lock}, locks.find? cell = some lock → (lock.holder :: lock.waiting).Nodup

variable {locks : Locks}

/-- Where nothing is locked, there is nothing to guard. -/
theorem guarded_empty : Guarded .empty isOpen waits where
  holder h := absurd h (by simp)
  waiting h := absurd h (by simp)
  nodup h := absurd h (by simp)

/-- Locks stay guarded if more transactions are open and more wait. -/
theorem Guarded.mono (hg : locks.Guarded isOpen waits) (hopen : ∀ id, isOpen id → isOpen' id)
    (hwaits : ∀ id cell, waits id cell → waits' id cell) : locks.Guarded isOpen' waits' where
  holder h := hopen _ (hg.holder h)
  waiting h hid := hwaits _ _ (hg.waiting h hid)
  nodup h := hg.nodup h

/-- No lock is held by a transaction that is not open. -/
theorem Guarded.not_holds (hg : locks.Guarded isOpen waits) (hid : ¬ isOpen id) (cell : Cell) :
    locks.holds id cell = false := by
  rw [Bool.eq_false_iff]
  intro hholds
  obtain ⟨lock, hlock, rfl⟩ := holds_iff.1 hholds
  exact hid (hg.holder hlock)

/-- Locks of which one is put in the place of another are guarded if the new one is. -/
theorem Guarded.insert (hg : locks.Guarded isOpen waits) {lock : Lock}
    (hholder : isOpen lock.holder)
    (hwaiting : ∀ id ∈ lock.waiting, waits id cell) (hnodup : (lock.holder :: lock.waiting).Nodup) :
    Guarded (SortedMap.insert locks cell lock) isOpen waits where
  holder h := by
    rcases SortedMap.find?_insert_cases h with ⟨-, rfl⟩ | ⟨-, hold⟩
    · exact hholder
    · exact hg.holder hold
  waiting h hid := by
    rcases SortedMap.find?_insert_cases h with ⟨rfl, rfl⟩ | ⟨-, hold⟩
    · exact hwaiting _ hid
    · exact hg.waiting hold hid
  nodup h := by
    rcases SortedMap.find?_insert_cases h with ⟨-, rfl⟩ | ⟨-, hold⟩
    · exact hnodup
    · exact hg.nodup hold

/-- A request takes a free lock, or it joins the queue. -/
theorem Guarded.request (hg : locks.Guarded isOpen waits) (hopen : isOpen id)
    (hwaits : waits id cell) : (locks.request id cell).Guarded isOpen waits := by
  rw [Locks.request]
  split
  · exact hg.insert hopen (by simp) (by simp)
  · rename_i lock hlock
    split
    · exact hg
    · rename_i hne
      have hholder := hg.holder hlock
      have hnodup := hg.nodup hlock
      rw [Lock.queue]
      split
      · exact hg.insert hholder (fun id' hid' => hg.waiting hlock hid') hnodup
      · -- The transaction joins at the end of a queue in which it does not stand yet.
        rename_i hnot
        refine hg.insert hholder (fun id' hid' => ?_) ?_
        · rcases List.mem_append.1 hid' with hold | hnew
          · exact hg.waiting hlock hold
          · rw [List.mem_singleton.1 hnew]
            exact hwaits
        · have hfresh : id ∉ lock.holder :: lock.waiting := by
            rw [List.mem_cons, not_or]
            exact ⟨Ne.symm hne, hnot⟩
          rw [← List.cons_append]
          refine List.nodup_append.2 ⟨hnodup, by simp, fun a ha b hb hab => hfresh ?_⟩
          rw [← List.mem_singleton.1 hb, ← hab]
          exact ha

/-- A transaction that holds the lock it asked for waits for none. -/
theorem Guarded.granted (hg : locks.Guarded isOpen waits) (hholds : locks.holds id cell = true)
    (honly : ∀ cell', waits id cell' → cell' = cell) :
    locks.Guarded isOpen fun id' cell' => waits id' cell' ∧ id' ≠ id where
  holder h := hg.holder h
  waiting {cell' lock id'} h hid' := by
    refine ⟨hg.waiting h hid', ?_⟩
    rintro rfl
    obtain rfl := honly cell' (hg.waiting h hid')
    obtain ⟨lock', hlock', rfl⟩ := holds_iff.1 hholds
    obtain rfl := Option.some.inj (h.symm.trans hlock')
    exact (List.nodup_cons.1 (hg.nodup h)).1 hid'
  nodup h := hg.nodup h

/-- A transaction that withdraws its only request waits for nothing. -/
theorem Guarded.withdraw (hg : locks.Guarded isOpen waits)
    (honly : ∀ cell', waits id cell' → cell' = cell) :
    (locks.withdraw id cell).Guarded isOpen fun id' cell' => waits id' cell' ∧ id' ≠ id := by
  -- In the queues of other locks the transaction does not stand.
  have hother : ∀ {cell' lock id'}, cell' ≠ cell → locks.find? cell' = some lock →
      id' ∈ lock.waiting → waits id' cell' ∧ id' ≠ id := by
    intro cell' lock id' hne hlock hid'
    refine ⟨hg.waiting hlock hid', ?_⟩
    rintro rfl
    exact hne (honly cell' (hg.waiting hlock hid'))
  rw [Locks.withdraw]
  split
  · rename_i hnone
    refine ⟨fun h => hg.holder h, fun {cell' lock id'} h hid' => hother ?_ h hid',
      fun h => hg.nodup h⟩
    rintro rfl
    exact absurd (hnone.symm.trans h) (by simp)
  · rename_i lock hlock
    have hnodup := hg.nodup hlock
    have hsub : (lock.unqueue id).waiting.Sublist lock.waiting := List.filter_sublist
    refine ⟨fun h => ?_, fun {cell' lock' id'} h hid' => ?_, fun h => ?_⟩
    · rcases SortedMap.find?_insert_cases h with ⟨-, rfl⟩ | ⟨-, hold⟩
      · have hholder : isOpen lock.holder := hg.holder hlock
        exact hholder
      · exact hg.holder hold
    · rcases SortedMap.find?_insert_cases h with ⟨rfl, rfl⟩ | ⟨hne, hold⟩
      · obtain ⟨hmem, hne⟩ := List.mem_filter.1 hid'
        exact ⟨hg.waiting hlock hmem, of_decide_eq_true hne⟩
      · exact hother hne hold hid'
    · rcases SortedMap.find?_insert_cases h with ⟨-, rfl⟩ | ⟨-, hold⟩
      · exact hnodup.sublist (hsub.cons_cons _)
      · exact hg.nodup hold

/-- A transaction that waits for nothing holds nothing when its locks are released: each of them
goes to the first in its queue. -/
theorem Guarded.release (hg : locks.Guarded isOpen waits)
    (hopen : ∀ id' cell', waits id' cell' → isOpen id') (hnot : ∀ cell', ¬ waits id cell') :
    (locks.release id).Guarded (fun id' => isOpen id' ∧ id' ≠ id) waits := by
  -- A lock that is released goes to the first who waits, and `id` itself waits for none.
  refine ⟨fun h => ?_, fun h hid' => ?_, fun h => ?_⟩
  · rcases find?_release_cases h with ⟨hold, hne⟩ | hold
    · exact ⟨hg.holder hold, hne⟩
    · have hwaits := hg.waiting hold List.mem_cons_self
      refine ⟨hopen _ _ hwaits, ?_⟩
      intro hid
      exact hnot _ (hid ▸ hwaits)
  · rcases find?_release_cases h with ⟨hold, -⟩ | hold
    · exact hg.waiting hold hid'
    · exact hg.waiting hold (List.mem_cons_of_mem _ hid')
  · rcases find?_release_cases h with ⟨hold, -⟩ | hold
    · exact hg.nodup hold
    · exact (List.nodup_cons.1 (hg.nodup hold)).2

end Locks

namespace Store

variable {s : Store}

/-- A request is answered, and its transaction waits for nothing any more, or it goes on waiting for
the lock of the request. -/
theorem guarded_ask (hg : s.locks.Guarded isOpen waits) (hopen : isOpen id) (r : Request)
    (hwaits : ∀ cell, waits id cell ↔ r.lock? = some cell) :
    (s.ask id r).1.locks.Guarded isOpen
      fun id' cell => waits id' cell ∧ (id' = id → (s.ask id r).2 = none) := by
  rw [ask]
  cases hlive : s.live.find? id with
  | none => exact hg.mono (fun _ h => h) fun _ _ h => ⟨h, fun _ => rfl⟩
  | some tx =>
    dsimp only
    -- Only a request that locks can leave `id` waiting, and only for the cell it asks for.
    cases hlock : r.lock? with
    | none =>
      refine hg.mono (fun _ h => h) fun id' cell h => ⟨h, ?_⟩
      rintro rfl
      exact absurd (hlock.symm.trans ((hwaits cell).1 h)) (by simp)
    | some cell =>
      have hrequest := hg.request hopen ((hwaits cell).2 hlock)
      dsimp only
      -- With the lock granted nobody called `id` waits; without it `id` waits at the end of the
      -- queue.
      split
      · rename_i hheld
        refine (hrequest.granted hheld fun cell' h => ?_).mono (fun _ h => h)
          fun id' cell' h => ⟨h.1, fun hid => absurd hid h.2⟩
        exact Option.some.inj (((hwaits cell').1 h).symm.trans hlock)
      · exact hrequest.mono (fun _ h => h) fun _ _ h => ⟨h, fun _ => rfl⟩

/-- A request that is withdrawn leaves no place in a queue behind. -/
theorem guarded_withdraw (hg : s.locks.Guarded isOpen waits) (r : Request)
    (honly : ∀ cell, waits id cell → r.lock? = some cell) :
    (s.withdraw id r).locks.Guarded isOpen fun id' cell => waits id' cell ∧ id' ≠ id := by
  rw [Store.withdraw]
  cases hlock : r.lock? with
  | none =>
    refine hg.mono (fun _ h => h) fun id' cell h => ⟨h, ?_⟩
    rintro rfl
    exact absurd (hlock.symm.trans (honly cell h)) (by simp)
  | some cell =>
    exact Locks.Guarded.withdraw hg fun cell' h =>
      Option.some.inj ((honly cell' h).symm.trans hlock)

/-- A live transaction that is discarded holds no lock. -/
theorem guarded_discard (hg : s.locks.Guarded isOpen waits) {tx : Transaction}
    (hlive : s.live.find? id = some tx)
    (hopen : ∀ id' cell', waits id' cell' → isOpen id') (hnot : ∀ cell', ¬ waits id cell') :
    (s.discard id).locks.Guarded (fun id' => isOpen id' ∧ id' ≠ id) waits := by
  rw [discard, hlive]
  exact Locks.Guarded.release hg hopen hnot

/-- Neither does one that is committed. -/
theorem guarded_commit (hg : s.locks.Guarded isOpen waits) {tx : Transaction}
    (hlive : s.live.find? id = some tx)
    (hopen : ∀ id' cell', waits id' cell' → isOpen id') (hnot : ∀ cell', ¬ waits id cell') :
    (s.commit id).locks.Guarded (fun id' => isOpen id' ∧ id' ≠ id) waits := by
  rw [commit_of_live hlive]
  have happlied : ({ s with committed := s.committed.apply tx.changes } : Store).locks.Guarded
      isOpen waits := hg
  exact guarded_discard happlied hlive hopen hnot

end Store

end Muster
