import Muster.Proofs.Store.Run

/-!
# Serializability

Transactions that only make requests under locks can be thought of as running one at a time, in the
order of their commits. `serializable` compares a run with the serial run of its committed
transactions, which is another run of the same store from the same contents: every request gets the
reply that it got before, and the contents end up the same. Requests that were never answered, since
they timed out or were given up, do not occur in the serial run.

At the moment of a commit, what is then committed bears out the whole log of the transaction
(`Store.Backs`). So the transaction could have run as a whole at this moment (`run_aloneMoves`), and
everything before it is the serial run of the transactions committed before.
-/

namespace Muster

open Transaction (Replays)

/-- The answered requests of a log that lock a cell. -/
def locking (log : List Answered) : List Answered :=
  log.filter fun a => a.1.lock?.isSome

namespace Transaction

variable {latest : Contents} {tx : Transaction} {log : List Answered}

/-- A request that locks no cell does not change the transaction. -/
theorem perform_of_lock?_eq_none (tx : Transaction) (latest : Contents) {r : Request}
    (h : r.lock? = none) : (tx.perform latest r).1 = tx := by
  cases r with
  | read cell => rfl
  | scan dictionary => rfl
  | readLocked cell => exact absurd h (by simp [Request.lock?])
  | set cell value => exact absurd h (by simp [Request.lock?])
  | add cell value => exact absurd h (by simp [Request.lock?])
  | remove cell => exact absurd h (by simp [Request.lock?])

/-- Requests that lock no cell can be left out of a log. -/
theorem Replays.locking {start : Transaction} (h : Replays latest start log tx) :
    Replays latest start (locking log) tx := by
  induction log generalizing tx with
  | nil => exact h
  | cons a log ih =>
    obtain ⟨before, hbefore, htx⟩ := h
    cases hlock : a.1.lock? with
    | none =>
      -- Without a lock nothing is buffered, so the log without this request replays to the same
      -- buffer.
      have hsame := before.perform_of_lock?_eq_none latest hlock
      rw [htx] at hsame
      obtain rfl : tx = before := hsame
      rw [Muster.locking, List.filter_cons_of_neg (by simp [hlock])]
      exact ih hbefore
    | some cell =>
      rw [Muster.locking, List.filter_cons_of_pos (by simp [hlock])]
      exact ⟨before, ih hbefore, htx⟩

/-- A request that locks its cell does not look at the snapshot. -/
theorem perform_withSnapshot (tx : Transaction) (latest snapshot : Contents) {r : Request}
    (h : r.lock?.isSome = true) :
    { tx with snapshot }.perform latest r =
      ({ (tx.perform latest r).1 with snapshot }, (tx.perform latest r).2) := by
  -- The snapshot is read by the readings without a lock only; a view under the lock is of `latest`.
  cases r with
  | read cell => exact absurd h (by simp [Request.lock?])
  | scan dictionary => exact absurd h (by simp [Request.lock?])
  | readLocked cell => rfl
  | set cell value => rfl
  | add cell value =>
    by_cases hview : (tx.view latest cell).isSome = true
    · have hview' : ({ tx with snapshot }.view latest cell).isSome = true := hview
      simp [perform, hview, hview']
    · have hview' : ¬ ({ tx with snapshot }.view latest cell).isSome = true := hview
      simp [perform, hview, hview', buffer]
  | remove cell =>
    cases hview : tx.view latest cell with
    | none =>
      have hview' : { tx with snapshot }.view latest cell = none := hview
      simp [perform, hview, hview']
    | some old =>
      have hview' : { tx with snapshot }.view latest cell = some old := hview
      simp [perform, hview, hview', buffer]

/-- Under locks, a log leads to the same changes from every snapshot. -/
theorem Replays.withSnapshot {snapshot snapshot' : Contents}
    (h : Replays latest (.begin snapshot) log tx) (hlog : ∀ a ∈ log, a.1.lock?.isSome = true) :
    Replays latest (.begin snapshot') log { tx with snapshot := snapshot' } := by
  induction log generalizing tx with
  | nil =>
    rw [replays_nil.1 h]
    rfl
  | cons a log ih =>
    obtain ⟨before, hbefore, htx⟩ := h
    refine ⟨_, ih hbefore fun b hb => hlog b (List.mem_cons_of_mem _ hb), ?_⟩
    rw [before.perform_withSnapshot latest snapshot' (hlog a List.mem_cons_self), htx]

end Transaction

namespace Store

/-! ## A transaction that runs alone -/

/-- The moves of a transaction that begins, makes the requests of a log and is committed, with
nothing in between. -/
def aloneMoves (id : TransactionId) (log : List Answered) : List Move :=
  .begin :: log.map (fun a => .ask id a.1) ++ [.commit id]

/-- The deeds of a transaction that is given the replies of a log and is committed. -/
def aloneDeeds (id : TransactionId) (log : List Answered) : List Deed :=
  log.map (.answered id) ++ [.committed id]

/-- Only the transaction `id` is live, and nobody else holds a lock or waits for one. -/
structure Alone (s : Store) (contents : Contents) (id : TransactionId) (tx : Transaction) :
    Prop where
  /-- The contents are committed. -/
  committed : s.committed = contents
  /-- No later transaction has begun. -/
  nextId : s.nextId = id + 1
  /-- Only the transaction is live. -/
  live : ∀ id', s.live.find? id' = if id' = id then some tx else none
  /-- All locks are its own, and nobody waits. -/
  locks : ∀ {cell lock}, s.locks.find? cell = some lock → lock = ⟨id, []⟩

variable {s : Store} {contents : Contents} {id : TransactionId} {tx : Transaction}

/-- A transaction that begins on a store at rest is alone. -/
theorem alone_begin (contents : Contents) (id : TransactionId) :
    (resting contents id).begin.2.Alone contents id (.begin contents) where
  committed := rfl
  nextId := rfl
  live id' := SortedMap.find?_insert ..
  locks h := absurd h (by simp [resting, Store.begin])

/-- A transaction that runs alone never waits. -/
theorem Alone.ask (h : s.Alone contents id tx) {r : Request} (hr : r.lock?.isSome = true) :
    (s.ask id r).2 = some (tx.perform contents r).2 ∧
      (s.ask id r).1.Alone contents id (tx.perform contents r).1 := by
  obtain ⟨cell, hcell⟩ := Option.isSome_iff_exists.1 hr
  have hlive : s.live.find? id = some tx := by rw [h.live, if_pos rfl]
  -- The requested lock is free or its own, so the request changes nothing for others.
  have hlocks : ∀ {cell' lock}, (s.locks.request id cell).find? cell' = some lock →
      lock = ⟨id, []⟩ := by
    intro cell' lock hlock
    rw [Locks.request] at hlock
    cases hfind : s.locks.find? cell with
    | none =>
      rw [hfind, SortedMap.find?_insert] at hlock
      split at hlock
      · exact (Option.some.inj hlock).symm
      · exact h.locks hlock
    | some held =>
      rw [hfind] at hlock
      dsimp only at hlock
      rw [h.locks hfind, if_pos rfl] at hlock
      exact h.locks hlock
  -- So it holds the lock and is answered at once.
  have hheld : (s.locks.request id cell).holds id cell = true := by
    rw [Locks.holds_iff, Locks.request]
    cases hfind : s.locks.find? cell with
    | none => exact ⟨⟨id, []⟩, SortedMap.find?_insert_self .., rfl⟩
    | some held =>
      dsimp only
      rw [h.locks hfind, if_pos rfl]
      exact ⟨⟨id, []⟩, by rw [hfind, h.locks hfind], rfl⟩
  rw [Store.ask, hlive]
  dsimp only
  rw [hcell]
  dsimp only
  rw [if_pos hheld, answer, h.committed]
  refine ⟨rfl, rfl, h.nextId, fun id' => ?_, hlocks⟩
  rw [SortedMap.find?_insert, h.live]
  split
  · rfl
  · rfl

/-- The commit of a transaction that runs alone leaves a store at rest. -/
theorem Alone.commit (h : s.Alone contents id tx) :
    s.commit id = resting (contents.apply tx.changes) (id + 1) := by
  have hlive : s.live.find? id = some tx := by rw [h.live, if_pos rfl]
  -- Nothing is live any more, and no lock is held.
  have hnone : s.live.erase id = .empty := by
    refine SortedMap.ext_find? fun id' => ?_
    rw [SortedMap.find?_erase, h.live]
    split
    · rfl
    · rfl
  have hfree : s.locks.release id = .empty := by
    refine SortedMap.ext_find? fun cell => ?_
    rw [Locks.release, SortedMap.find?_filterMap]
    cases hlock : s.locks.find? cell with
    | none => rfl
    | some lock =>
      rw [h.locks hlock]
      simp [Lock.passOn]
  rw [commit_of_live hlive, discard, hlive]
  dsimp only
  rw [hnone, hfree, h.committed, h.nextId]
  rfl

/-- The requests of a transaction that runs alone get the replies that its contents bear out. -/
theorem run_asks {log : List Answered} (hlog : ∀ a ∈ log, a.1.lock?.isSome = true)
    (h : Replays contents (.begin contents) log.reverse tx) :
    ∃ s : Store, s.Alone contents id tx ∧
      (resting contents id).run (.begin :: log.map fun a => .ask id a.1) =
        (s, log.map (.answered id)) := by
  -- Induction from the end of the log, where the next request comes.
  induction log using List.reverseRecOn generalizing tx with
  | nil =>
    obtain rfl := Transaction.replays_nil.1 h
    exact ⟨_, alone_begin contents id, rfl⟩
  | append_singleton log a ih =>
    rw [List.reverse_concat] at h
    obtain ⟨before, hbefore, htx⟩ := h
    obtain ⟨s, hs, hrun⟩ := ih (fun b hb => hlog b (List.mem_append_left _ hb)) hbefore
    -- Alone in the store no request waits, and the answer is the one that was replayed.
    obtain ⟨hreply, halone⟩ := hs.ask (hlog a (by simp))
    rw [htx] at hreply halone
    refine ⟨(s.ask id a.1).1, halone, ?_⟩
    rw [List.map_append, ← List.cons_append, List.map_cons, List.map_nil, run_concat, hrun, deed?,
      hreply, List.map_append]
    rfl

/-- A transaction that runs alone is given the replies that the contents bear out, and its commit
applies the changes that they lead to. -/
theorem run_aloneMoves {log : List Answered} (hlog : ∀ a ∈ log, a.1.lock?.isSome = true)
    (h : Replays contents (.begin contents) log.reverse tx) :
    (resting contents id).run (aloneMoves id log) =
      (resting (contents.apply tx.changes) (id + 1), aloneDeeds id log) := by
  obtain ⟨s, hs, hrun⟩ : ∃ s : Store, s.Alone contents id tx ∧
      (resting contents id).run (.begin :: log.map fun a => .ask id a.1) =
        (s, log.map (.answered id)) := run_asks hlog h
  have hlive : s.live.find? id = some tx := by rw [hs.live, if_pos rfl]
  rw [aloneMoves, run_concat, hrun, deed?, hlive]
  refine Prod.ext hs.commit ?_
  rfl

/-! ## One transaction after another -/

/-- The moves of transactions that run one after another, each given by its log. -/
def serialMoves : TransactionId → List (List Answered) → List Move
  | _, [] => []
  | id, log :: logs => aloneMoves id log ++ serialMoves (id + 1) logs

/-- The deeds of transactions that run one after another, each given the replies of its log. -/
def serialDeeds : TransactionId → List (List Answered) → List Deed
  | _, [] => []
  | id, log :: logs => aloneDeeds id log ++ serialDeeds (id + 1) logs

/-- The moves of the last transaction of a serial run come last. -/
theorem serialMoves_concat (id : TransactionId) (logs : List (List Answered))
    (log : List Answered) :
    serialMoves id (logs ++ [log]) = serialMoves id logs ++ aloneMoves (id + logs.length) log := by
  induction logs generalizing id with
  | nil => simp [serialMoves]
  | cons first logs ih =>
    rw [List.cons_append, serialMoves, serialMoves, ih, List.append_assoc, List.length_cons,
      Nat.add_right_comm, Nat.add_assoc]

/-- So do its deeds. -/
theorem serialDeeds_concat (id : TransactionId) (logs : List (List Answered))
    (log : List Answered) :
    serialDeeds id (logs ++ [log]) = serialDeeds id logs ++ aloneDeeds (id + logs.length) log := by
  induction logs generalizing id with
  | nil => simp [serialDeeds]
  | cons first logs ih =>
    rw [List.cons_append, serialDeeds, serialDeeds, ih, List.append_assoc, List.length_cons,
      Nat.add_right_comm, Nat.add_assoc]

/-- The logs of the committed transactions, as far as they are under locks, in the order of the
commits. -/
def committedLogs (deeds : List Deed) : List (List Answered) :=
  (commits deeds).map fun id => locking (answers deeds id)

/-- The serial run of the transactions that the deeds say are committed leads from the contents at
the start to what is committed now. -/
structure Serializes (contents : Contents) (nextId : TransactionId) (s : Store)
    (deeds : List Deed) : Prop where
  /-- A committed transaction has ended. -/
  ended : ∀ id ∈ commits deeds, s.HasEnded id
  /-- The serial run. -/
  run_serialMoves : (resting contents nextId).run (serialMoves nextId (committedLogs deeds)) =
    (resting s.committed (nextId + (committedLogs deeds).length),
      serialDeeds nextId (committedLogs deeds))

variable {contents : Contents} {nextId : TransactionId} {s : Store} {deeds : List Deed}

/-- A move that commits nothing leaves the serial run as it is. -/
theorem Serializes.of_not_commit (h : Serializes contents nextId s deeds) {move : Move}
    (hcommits : commits (s.deed? move).toList = [])
    (hcommitted : (s.after move).committed = s.committed) :
    Serializes contents nextId (s.after move) (deeds ++ (s.deed? move).toList) := by
  -- A log is committed only by a commit, and who committed before answers nothing any more.
  have hsame : commits (deeds ++ (s.deed? move).toList) = commits deeds := by
    rw [commits_append, hcommits, List.append_nil]
  have hlogs : committedLogs (deeds ++ (s.deed? move).toList) = committedLogs deeds := by
    rw [committedLogs, hsame]
    refine List.map_congr_left fun id hid => ?_
    rw [answers_append, answers_deed?_of_not_live (h.ended id hid).1, List.append_nil]
  refine ⟨fun id hid => ?_, ?_⟩
  · rw [hsame] at hid
    exact (h.ended id hid).after move
  · rw [hlogs, hcommitted]
    exact h.run_serialMoves

/-- A commit lengthens the serial run by the transaction that is committed. -/
theorem Serializes.commit (h : Serializes contents nextId s deeds) (hlogged : s.Logged deeds)
    {id : TransactionId} {tx : Transaction} (hlive : s.live.find? id = some tx) :
    Serializes contents nextId (s.commit id) (deeds ++ [.committed id]) := by
  obtain ⟨snapshot, hbacks⟩ := hlogged.backs hlive
  have hcommits : commits (deeds ++ [.committed id]) = commits deeds ++ [id] := by
    rw [commits_append]
    rfl
  have hanswers : ∀ id', answers (deeds ++ [.committed id]) id' = answers deeds id' := by
    intro id'
    rw [answers_append]
    simp [answers]
  have hlogs : committedLogs (deeds ++ [.committed id]) =
      committedLogs deeds ++ [locking (answers deeds id)] := by
    simp only [committedLogs, hcommits, hanswers, List.map_append, List.map_cons, List.map_nil]
  refine ⟨fun id' hid => ?_, ?_⟩
  · -- The transactions committed before, and the one that is committed now.
    rw [hcommits, List.mem_append, List.mem_singleton] at hid
    rcases hid with hid | rfl
    · exact (h.ended id' hid).after (.commit id)
    · rw [HasEnded, find?_live_commit, nextId_commit, if_pos rfl]
      exact ⟨rfl, hlogged.lt_nextId hlive⟩
  · -- What is committed now bears out the locking part of the log, whatever the snapshot.
    have hlocking : ∀ a ∈ locking (answers deeds id), a.1.lock?.isSome = true := by
      intro a ha
      exact (List.mem_filter.1 ha).2
    have hreplays : Replays s.committed (.begin s.committed) (locking (answers deeds id)).reverse
        { tx with snapshot := s.committed } := by
      have hreverse :
          (locking (answers deeds id)).reverse = locking (answers deeds id).reverse := by
        rw [locking, locking, List.filter_reverse]
      rw [hreverse]
      refine hbacks.replays.locking.withSnapshot fun a ha => ?_
      exact (List.mem_filter.1 ha).2
    rw [hlogs, serialMoves_concat, run_append, h.run_serialMoves, run_aloneMoves hlocking hreplays,
      serialDeeds_concat, List.length_append, committed_commit hlive]
    rfl

/-- A request shows no commit. -/
theorem commits_deed?_ask (s : Store) (id : TransactionId) (r : Request) :
    commits (s.deed? (.ask id r)).toList = [] := by
  rw [deed?]
  cases (s.ask id r).2 with
  | none => rfl
  | some reply => rfl

/-- Every move keeps the serial run in step. -/
theorem Serializes.after (h : Serializes contents nextId s deeds) (hlogged : s.Logged deeds)
    (move : Move) :
    Serializes contents nextId (s.after move) (deeds ++ (s.deed? move).toList) := by
  cases move with
  | begin => exact h.of_not_commit rfl rfl
  | ask id r => exact h.of_not_commit (commits_deed?_ask s id r) (committed_ask s id r)
  | withdraw id r => exact h.of_not_commit rfl (committed_withdraw s id r)
  | discard id => exact h.of_not_commit rfl (committed_discard s id)
  | commit id =>
    -- The commit of a transaction that is not live changes nothing and is no deed.
    cases hlive : s.live.find? id with
    | none =>
      rw [Store.after, commit_of_not_live hlive, deed?, hlive]
      simpa using h
    | some tx =>
      have hdeed : (s.deed? (.commit id)).toList = [.committed id] := by rw [deed?, hlive]; rfl
      rw [hdeed]
      exact h.commit hlogged hlive

/-- Every run from a store at rest is serialized by the transactions that it commits, in the order
of their commits. -/
theorem serializes_run (contents : Contents) (nextId : TransactionId) (moves : List Move) :
    Serializes contents nextId ((resting contents nextId).run moves).1
      ((resting contents nextId).run moves).2 := by
  induction moves using List.reverseRecOn with
  | nil => exact ⟨fun _ hid => absurd hid (by simp [commits]), rfl⟩
  | append_singleton moves move ih =>
    rw [run_concat]
    exact ih.after (logged_run contents nextId moves) move

/-- Whatever transactions do and however their moves interleave: running those that were committed
one after another, in the order of their commits and from the same contents, gives each of their
answered requests under locks the reply that it was given, commits them all, and leads to the same
contents. -/
theorem serializable (contents : Contents) (nextId : TransactionId) (moves : List Move) :
    let start := resting contents nextId
    let logs := committedLogs (start.run moves).2
    (start.run (serialMoves nextId logs)).2 = serialDeeds nextId logs ∧
      (start.run (serialMoves nextId logs)).1.committed = (start.run moves).1.committed := by
  intro start logs
  have hrun := (serializes_run contents nextId moves).run_serialMoves
  exact ⟨congrArg Prod.snd hrun, congrArg (fun after => after.1.committed) hrun⟩

end Store

end Muster
