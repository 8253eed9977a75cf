import Muster.Proofs.Store.Run
import Muster.Proofs.Store.View
import Muster.Proofs.Store.Waiting

/-!
# Waiting in vain

What one move does to a transaction that has begun and does not make it: nothing, except that a lock
may be handed to it in whose queue it stands. So a transaction that asks for a lock, waits while
others move and then withdraws its request without having been answered is as it was, and holds the
locks that it held (`WaitsInVain.withdraw`).
-/

namespace Muster.Store

variable {s : Store} {id : TransactionId} {cell : Cell} {tx : Transaction} {move : Move}
  {moves : List Move}

/-! ## One move and a live transaction -/

/-- Who makes a move; a transaction that begins has no number yet. -/
def Move.actor? : Move → Option TransactionId
  | .begin => none
  | .ask id _ => some id
  | .withdraw id _ => some id
  | .discard id => some id
  | .commit id => some id

/-- A transaction that has begun is live after a move if it was before, and then it is as it was, or
the move is one of its requests and was answered. -/
theorem live_after_cases (hne : id ≠ s.nextId) (h : (s.after move).live.find? id = some tx) :
    s.live.find? id = some tx ∨ ∃ before r, s.live.find? id = some before ∧ move = .ask id r ∧
      (s.ask id r).2.isSome = true ∧ tx = (before.perform s.committed r).1 := by
  -- A transaction is live after a move because it was, or because it was answered just now.
  cases move with
  | begin =>
    rw [after, begin, SortedMap.find?_insert_of_ne _ _ hne] at h
    exact .inl h
  -- Only an answer changes a buffer, and only that of the one who asks.
  | ask id' r =>
    rw [after] at h
    cases hlive : s.live.find? id' with
    | none =>
      rw [ask_of_not_live hlive] at h
      exact .inl h
    | some before =>
      obtain ⟨locks, -, heq | ⟨-, heq⟩⟩ := ask_cases hlive r
      · rw [heq] at h
        exact .inl h
      · rw [heq] at h
        rcases SortedMap.find?_insert_cases h with ⟨rfl, rfl⟩ | ⟨-, h⟩
        · exact .inr ⟨before, r, hlive, rfl, by rw [heq]; rfl, rfl⟩
        · exact .inl h
  | withdraw id' r =>
    rw [after, live_withdraw] at h
    exact .inl h
  | discard id' =>
    rw [after, find?_live_discard] at h
    split at h
    · exact absurd h (by simp)
    · exact .inl h
  | commit id' =>
    rw [after, find?_live_commit] at h
    split at h
    · exact absurd h (by simp)
    · exact .inl h

/-- No move takes back the number of a transaction. -/
theorem nextId_le_after (s : Store) (move : Move) : s.nextId ≤ (s.after move).nextId := by
  cases move with
  | begin => exact Nat.le_succ _
  | ask id r => exact Nat.le_of_eq (nextId_ask s id r).symm
  | withdraw id r => exact Nat.le_of_eq (nextId_withdraw s id r).symm
  | discard id => exact Nat.le_of_eq (nextId_discard s id).symm
  | commit id => exact Nat.le_of_eq (nextId_commit s id).symm

/-- The next number never gets smaller. -/
theorem nextId_le_run (s : Store) (moves : List Move) : s.nextId ≤ (s.run moves).1.nextId := by
  induction moves using List.reverseRecOn with
  | nil => exact Nat.le_refl _
  | append_singleton moves move ih =>
    rw [run_concat]
    exact Nat.le_trans ih (nextId_le_after _ move)

/-- A live transaction keeps its snapshot. -/
theorem snapshot_run {base : Contents} (hlt : id < s.nextId)
    (hbase : ∀ tx, s.live.find? id = some tx → tx.snapshot = base) (moves : List Move)
    (h : (s.run moves).1.live.find? id = some tx) : tx.snapshot = base := by
  induction moves using List.reverseRecOn generalizing tx with
  | nil => exact hbase tx h
  | append_singleton moves move ih =>
    rw [run_concat] at h
    have hne : id ≠ (s.run moves).1.nextId :=
      Nat.ne_of_lt (Nat.lt_of_lt_of_le hlt (s.nextId_le_run moves))
    rcases live_after_cases hne h with hlive | ⟨before, r, hlive, -, -, rfl⟩
    · exact ih hlive
    · rw [before.snapshot_perform, ih hlive]

/-- Where nobody commits, what is committed stays. -/
theorem committed_run_of_commits_eq_nil (h : commits (s.run moves).2 = []) :
    (s.run moves).1.committed = s.committed := by
  -- From the end of the run: the last move committed nothing either.
  induction moves using List.reverseRecOn with
  | nil => rfl
  | append_singleton moves move ih =>
    rw [run_concat, commits_append, List.append_eq_nil_iff] at h
    rw [run_concat, ← ih h.1]
    cases move with
    | begin => rfl
    | ask id r => exact committed_ask _ id r
    | withdraw id r => exact committed_withdraw _ id r
    | discard id => exact committed_discard _ id
    | commit id =>
      cases hlive : (s.run moves).1.live.find? id with
      | none => rw [after, commit_of_not_live hlive]
      | some tx =>
        have hcommits := h.2
        rw [deed?, hlive] at hcommits
        exact absurd hcommits (by simp [commits])

/-- The lock of a request that is not answered has another holder. -/
theorem exists_holder_of_ask_none (hlive : s.live.find? id = some tx) {r : Request}
    (h : (s.ask id r).2 = none) : ∃ cell holder, r.lock? = some cell ∧ holder ≠ id ∧
      s.locks.holds holder cell = true := by
  rw [ask, hlive] at h
  dsimp only at h
  split at h
  · exact absurd h (by simp)
  · rename_i cell hlock
    split at h
    · exact absurd h (by simp)
    · rename_i hnot
      rw [Locks.holds_iff, Locks.request] at hnot
      cases hfind : s.locks.find? cell with
      | none =>
        -- A free lock would have been taken.
        rw [hfind] at hnot
        exact absurd ⟨⟨id, []⟩, SortedMap.find?_insert_self .., rfl⟩ hnot
      | some lock =>
        rw [hfind] at hnot
        dsimp only at hnot
        split at hnot
        · rename_i hholder
          exact absurd ⟨lock, hfind, hholder⟩ hnot
        · rename_i hholder
          exact ⟨cell, lock.holder, hlock, hholder, Locks.holds_iff.2 ⟨lock, hfind, rfl⟩⟩

/-! ## Waiting in vain -/

/-- Moves in which a transaction does nothing but ask for one thing, without being answered. -/
structure WaitsInVain (s : Store) (id : TransactionId) (r : Request) (moves : List Move) :
    Prop where
  /-- Each of its moves makes the request. -/
  asks : ∀ move ∈ moves, move.actor? = some id → move = .ask id r
  /-- None is answered. -/
  unanswered : answers (s.run moves).2 id = []

/-- Only its own end takes a lock from a transaction. -/
theorem holds_after (h : s.locks.holds id cell = true) (hdiscard : move ≠ .discard id)
    (hcommit : move ≠ .commit id) : (s.after move).locks.holds id cell = true := by
  -- Ending another transaction passes its locks on and takes none from `id`.
  have hdiscards : ∀ {s' : Store} {id'}, s'.locks = s.locks → id ≠ id' →
      (s'.discard id').locks.holds id cell = true := by
    intro s' id' hlocks hne
    rw [discard]
    split
    · exact hlocks ▸ h
    · exact Locks.holds_release (hlocks ▸ h) hne
  cases move with
  | begin => exact h
  | ask id' r =>
    rw [after]
    cases hlive : s.live.find? id' with
    | none =>
      rw [ask_of_not_live hlive]
      exact h
    | some tx =>
      obtain ⟨locks, hmono, heq | ⟨-, heq⟩⟩ := ask_cases hlive r
      · rw [heq]
        exact hmono id cell h
      · rw [heq]
        exact hmono id cell h
  | withdraw id' r =>
    rw [after, withdraw]
    split
    · exact h
    · exact Locks.holds_withdraw h id' _
  | discard id' => exact hdiscards rfl fun hid => hdiscard (by rw [hid])
  | commit id' =>
    have hne : id ≠ id' := fun hid => hcommit (by rw [hid])
    cases hlive : s.live.find? id' with
    | none =>
      rw [after, commit_of_not_live hlive]
      exact h
    | some tx =>
      rw [after, commit_of_live hlive]
      exact hdiscards rfl hne

/-- A transaction comes to hold a lock by its own request, or because it stood in the queue. -/
theorem holds_of_after (h : (s.after move).locks.holds id cell = true) :
    s.locks.holds id cell = true ∨ s.locks.Queues id cell ∨
      ∃ r, move = .ask id r ∧ r.lock? = some cell := by
  cases move with
  | begin => exact .inl h
  | ask id' r =>
    rcases holds_of_ask h with hold | ⟨rfl, hlock⟩
    · exact .inl hold
    · exact .inr (.inr ⟨r, rfl, hlock⟩)
  | withdraw id' r => exact .inl (holds_of_withdraw h)
  | discard id' => exact (holds_of_discard h).imp_right .inl
  | commit id' => exact (holds_of_commit h).imp_right .inl

/-- A transaction comes to stand in a queue by its own request only. -/
theorem queues_of_after (h : (s.after move).locks.Queues id cell) :
    s.locks.Queues id cell ∨ ∃ r, move = .ask id r ∧ r.lock? = some cell := by
  -- A lock that is passed on makes its queue shorter.
  have hdiscards : ∀ (s' : Store) (id' : TransactionId), s'.locks = s.locks →
      (s'.discard id').locks.Queues id cell → s.locks.Queues id cell := by
    intro s' id' hlocks h
    rw [discard] at h
    split at h
    · exact hlocks ▸ h
    · exact hlocks ▸ Locks.queues_of_release h
  cases move with
  | begin => exact .inl h
  | ask id' r =>
    rw [after, ask] at h
    split at h
    · exact .inl h
    -- Only the request itself joins a queue.
    · split at h
      · exact .inl h
      · rename_i cell' hlock
        have hrequest : (s.locks.request id' cell').Queues id cell := by
          dsimp only at h
          split at h
          · exact h
          · exact h
        rcases Locks.queues_of_request hrequest with hold | ⟨rfl, rfl⟩
        · exact .inl hold
        · exact .inr ⟨r, rfl, hlock⟩
  | withdraw id' r => exact .inl (queues_of_withdraw h)
  | discard id' => exact .inl (hdiscards s id' rfl h)
  | commit id' =>
    cases hlive : s.live.find? id' with
    | none =>
      rw [after, commit_of_not_live hlive] at h
      exact .inl h
    | some tx =>
      rw [after, commit_of_live hlive] at h
      refine .inl (hdiscards _ id' ?_ h)
      rfl

/-- A move that a transaction does not make, or with which it is not answered, leaves the
transaction as it is. -/
theorem find?_live_after (hne : id ≠ s.nextId)
    (hmove : move.actor? = some id → ∃ r, move = .ask id r ∧ (s.ask id r).2 = none) :
    (s.after move).live.find? id = s.live.find? id := by
  cases move with
  | begin => exact SortedMap.find?_insert_of_ne _ _ hne
  | ask id' r =>
    rw [after]
    cases hlive : s.live.find? id' with
    | none => rw [ask_of_not_live hlive]
    | some tx' =>
      obtain ⟨locks, -, heq | ⟨-, heq⟩⟩ := ask_cases hlive r
      · rw [heq]
      · -- It was answered, so another transaction has asked.
        have hid : id ≠ id' := by
          rintro rfl
          obtain ⟨r', hr, hnone⟩ := hmove rfl
          obtain ⟨-, rfl⟩ := Move.ask.inj hr
          rw [heq] at hnone
          exact absurd hnone (by simp)
        rw [heq]
        exact SortedMap.find?_insert_of_ne _ _ hid
  | withdraw id' r => rw [after, live_withdraw]
  | discard id' =>
    rw [after, find?_live_discard]
    split
    · rename_i hid
      obtain ⟨r, hr, -⟩ := hmove (congrArg some hid.symm)
      exact absurd hr (by simp)
    · rfl
  | commit id' =>
    rw [after, find?_live_commit]
    split
    · rename_i hid
      obtain ⟨r, hr, -⟩ := hmove (congrArg some hid.symm)
      exact absurd hr (by simp)
    · rfl

/-- While it waits in vain, a transaction stays as it is; it keeps its locks, and the only queue
that it may join is that of the lock it asks for. -/
structure Lingers (s s' : Store) (id : TransactionId) (r : Request) : Prop where
  /-- The transaction is as it was. -/
  live : s'.live.find? id = s.live.find? id
  /-- Its locks are held. -/
  kept : ∀ cell, s.locks.holds id cell = true → s'.locks.holds id cell = true
  /-- It has come to hold only what it has stood in the queue for. -/
  gained : ∀ cell, s'.locks.holds id cell = true →
    s.locks.holds id cell = true ∨ s.locks.Queues id cell ∨ r.lock? = some cell
  /-- It stands in no new queue but that of its request. -/
  queues : ∀ cell, s'.locks.Queues id cell → s.locks.Queues id cell ∨ r.lock? = some cell

/-- A transaction that does nothing but wait in vain lingers. -/
theorem WaitsInVain.lingers {r : Request} (h : s.WaitsInVain id r moves) (hlt : id < s.nextId) :
    s.Lingers (s.run moves).1 id r := by
  induction moves using List.reverseRecOn with
  | nil => exact ⟨rfl, fun _ hc => hc, fun _ hc => .inl hc, fun _ hc => .inl hc⟩
  | append_singleton moves move ih =>
    have hanswers := h.unanswered
    rw [run_concat, answers_append, List.append_eq_nil_iff] at hanswers
    have hbefore := ih ⟨fun m hm => h.asks m (List.mem_append_left _ hm), hanswers.1⟩
    have hmove : move.actor? = some id → move = .ask id r := h.asks move (by simp)
    have hne : id ≠ (s.run moves).1.nextId :=
      Nat.ne_of_lt (Nat.lt_of_lt_of_le hlt (s.nextId_le_run moves))
    rw [run_concat]
    -- Its own move makes the request and is not answered.
    have hquiet : move.actor? = some id →
        ∃ r', move = .ask id r' ∧ ((s.run moves).1.ask id r').2 = none := by
      intro hactor
      refine ⟨r, hmove hactor, ?_⟩
      have hnone := hanswers.2
      rw [hmove hactor, deed?] at hnone
      cases hreply : ((s.run moves).1.ask id r).2 with
      | none => rfl
      | some reply =>
        rw [hreply] at hnone
        exact absurd hnone (by simp [answers])
    have hask : ∀ {r' cell}, move = .ask id r' → r'.lock? = some cell → r.lock? = some cell := by
      intro r' cell hr' hlock
      have hsame := hr'.symm.trans (hmove (by rw [hr']; rfl))
      obtain ⟨-, rfl⟩ := Move.ask.inj hsame
      exact hlock
    refine ⟨(find?_live_after hne hquiet).trans hbefore.live, fun cell hc => ?_, fun cell hc => ?_,
      fun cell hc => ?_⟩
    · refine holds_after (hbefore.kept cell hc) ?_ ?_
      · rintro rfl
        exact absurd (hmove rfl) (by simp)
      · rintro rfl
        exact absurd (hmove rfl) (by simp)
    · rcases holds_of_after hc with hold | hqueues | ⟨r', hr', hlock⟩
      · exact hbefore.gained cell hold
      · exact .inr (hbefore.queues cell hqueues)
      · exact .inr (.inr (hask hr' hlock))
    · rcases queues_of_after hc with hold | ⟨r', hr', hlock⟩
      · exact hbefore.queues cell hold
      · exact .inr (hask hr' hlock)

/-- A transaction that holds the lock of its request is answered. -/
theorem not_holds_of_ask_none (hlive : s.live.find? id = some tx) {r : Request}
    (h : (s.ask id r).2 = none) (hlock : r.lock? = some cell) : s.locks.holds id cell = false := by
  obtain ⟨cell', holder, hlock', hne, hholder⟩ := exists_holder_of_ask_none hlive h
  obtain rfl := Option.some.inj (hlock.symm.trans hlock')
  rw [Bool.eq_false_iff]
  intro hholds
  exact hne (Locks.holder_unique hholder hholds)

/-- **A request that is withdrawn after it was waited for in vain leaves no trace.** The transaction
is as it was, and if it stood in no queue before, it holds the locks that it held before. -/
theorem WaitsInVain.withdraw {r : Request} (h : s.WaitsInVain id r moves)
    (hlive : s.live.find? id = some tx) (hlt : id < s.nextId)
    (hlast : ((s.run moves).1.ask id r).2 = none) :
    ((s.run moves).1.withdraw id r).live.find? id = some tx ∧
      ((∀ cell, ¬ s.locks.Queues id cell) →
        ∀ cell, ((s.run moves).1.withdraw id r).locks.holds id cell = s.locks.holds id cell) := by
  have hlingers := h.lingers hlt
  have hnow := hlingers.live.trans hlive
  -- A lock held now was held before, or came from the queue, or is the one of the last request.
  refine ⟨by rw [live_withdraw, hnow], fun hqueues cell =>
    Bool.eq_iff_iff.2 ⟨fun hc => ?_, fun hc => ?_⟩⟩
  · rcases hlingers.gained cell (holds_of_withdraw hc) with hold | hqueue | hlock
    · exact hold
    · exact absurd hqueue (hqueues cell)
    -- The last request is still waiting, so the lock it asks for is not among those held.
    · have hnot := not_holds_of_ask_none hnow hlast hlock
      exact absurd (holds_of_withdraw hc) (by rw [hnot]; simp)
  · have hkept : ((s.run moves).1.after (.withdraw id r)).locks.holds id cell = true :=
      holds_after (hlingers.kept cell hc) (by simp) (by simp)
    exact hkept

end Muster.Store
