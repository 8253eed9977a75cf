import Muster.Proofs.Store.Serial
import Muster.Proofs.Store.View

/-!
# Snapshot reads

A transaction reads, without locks, from the contents that were committed when it began under what
it has buffered itself (`reads_snapshot`). What a transaction has buffered is told by its answered
requests, and `Contents.under` puts it over contents one request after another, so nothing here
depends on how changes are kept.

Two facts about a run carry the theorem, both by induction on its last move. Every live transaction
has a move with which it began, and its snapshot is what was committed before that move
(`exists_begin`). What is committed is what the run started from under the whole logs of the
transactions that were committed, one after another (`committed_run`); a transaction that has ended
is never answered again, so a log is whole from its commit on.
-/

namespace Muster

/-- What an answered request has buffered: a value to be written to a cell, or `none` for a cell to
be cleared. A removal that found nothing buffers nothing. -/
def Answered.buffered? : Answered → Option (Cell × Option Bytes)
  | ⟨.set cell value, _⟩ => some (cell, some value)
  | ⟨.add cell value, true⟩ => some (cell, some value)
  | ⟨.remove cell, some _⟩ => some (cell, none)
  | _ => none

/-- Contents under what the requests of a log have buffered, the first of which stands first. -/
def Contents.under (c : Contents) (log : List Answered) : Contents :=
  (log.filterMap Answered.buffered?).foldl (fun c write => c.change write.1 write.2) c

/-- Contents under one log after another. -/
def Contents.underAll (c : Contents) (logs : List (List Answered)) : Contents :=
  logs.foldl Contents.under c

namespace Contents

/-- The last answer to a transaction has the last word on what the transaction has buffered. -/
theorem under_concat (c : Contents) (log : List Answered) (a : Answered) :
    c.under (log ++ [a]) =
      a.buffered?.elim (c.under log) fun write => (c.under log).change write.1 write.2 := by
  rw [under, List.filterMap_append, List.foldl_append]
  cases h : a.buffered? with
  | none => simp [h, under]
  | some write => simp [h, under]

/-- The last transaction has the last word on the contents. -/
theorem underAll_concat (c : Contents) (logs : List (List Answered)) (log : List Answered) :
    c.underAll (logs ++ [log]) = (c.underAll logs).under log := by
  rw [underAll, List.foldl_append]
  rfl

end Contents

namespace Transaction

/-- What a transaction sees after a request is what it saw before under what the request has
buffered. -/
theorem view_perform (tx : Transaction) (latest base : Contents) (r : Request) (cell : Cell) :
    (tx.perform latest r).1.view base cell =
      (Answered.buffered? ⟨r, (tx.perform latest r).2⟩).elim (tx.view base cell)
        fun write => if cell = write.1 then write.2 else tx.view base cell := by
  -- An `add` that finds something and a `remove` that finds nothing leave the buffer as it is.
  cases r with
  | read cell' => rfl
  | readLocked cell' => rfl
  | scan dictionary => rfl
  | set cell' value => exact tx.view_buffer base cell' cell (some value)
  | add cell' value =>
    rw [perform]
    split
    · rfl
    · exact tx.view_buffer base cell' cell (some value)
  | remove cell' =>
    rw [perform]
    split
    · exact tx.view_buffer base cell' cell none
    · rfl

/-- A transaction sees any contents under what its log has buffered. -/
theorem Replays.view_eq {latest snapshot : Contents} {tx : Transaction} {log : List Answered}
    (h : Replays latest (.begin snapshot) log tx) (base : Contents) (cell : Cell) :
    tx.view base cell = (base.under log.reverse).find? cell := by
  induction log generalizing tx with
  | nil =>
    rw [replays_nil.1 h]
    rfl
  | cons a log ih =>
    obtain ⟨r, reply⟩ := a
    obtain ⟨before, hbefore, rfl, rfl⟩ := h.last
    rw [view_perform, List.reverse_cons, Contents.under_concat, ih hbefore]
    -- The last request changes the view in the cell it buffered, as its change does the contents.
    cases Answered.buffered? ⟨r, (before.perform latest r).2⟩ with
    | none => rfl
    | some write => exact (Contents.find?_change ..).symm

/-- The changes of a transaction do to any contents what its log has buffered. -/
theorem Replays.apply_eq {latest snapshot : Contents} {tx : Transaction} {log : List Answered}
    (h : Replays latest (.begin snapshot) log tx) (base : Contents) :
    base.apply tx.changes = base.under log.reverse := by
  refine SortedMap.ext_find? fun cell => ?_
  rw [find?_apply_changes, h.view_eq]

end Transaction

namespace Store

/-! ## Where a transaction began -/

/-- A live transaction of a run has begun with one of its moves, and its snapshot is what was
committed before that move. -/
theorem exists_begin (start : Store) (hstart : start.live = .empty) {moves : List Move}
    {id : TransactionId} {tx : Transaction} (h : (start.run moves).1.live.find? id = some tx) :
    ∃ front rest, moves = front ++ .begin :: rest ∧ (start.run front).1.nextId = id ∧
      tx.snapshot = (start.run front).1.committed := by
  induction moves using List.reverseRecOn generalizing tx with
  | nil =>
    rw [run_nil, hstart] at h
    exact absurd h (by simp)
  | append_singleton moves move ih =>
    -- A transaction that was live before this move began earlier, and its snapshot stays.
    have hearlier : ∀ {tx'}, (start.run moves).1.live.find? id = some tx' →
        tx.snapshot = tx'.snapshot →
        ∃ front rest, moves ++ [move] = front ++ .begin :: rest ∧
          (start.run front).1.nextId = id ∧ tx.snapshot = (start.run front).1.committed := by
      intro tx' hlive hsame
      obtain ⟨front, rest, hmoves, hid, hsnapshot⟩ := ih hlive
      refine ⟨front, rest ++ [move], ?_, hid, hsame.trans hsnapshot⟩
      rw [hmoves, List.append_assoc, List.cons_append]
    rw [run_concat] at h
    cases move with
    | begin =>
      rcases SortedMap.find?_insert_cases h with ⟨rfl, rfl⟩ | ⟨-, h⟩
      · exact ⟨moves, [], rfl, rfl, rfl⟩
      · exact hearlier h rfl
    | ask id' r =>
      rw [after] at h
      cases hlive : (start.run moves).1.live.find? id' with
      | none =>
        rw [ask_of_not_live hlive] at h
        exact hearlier h rfl
      | some tx' =>
        obtain ⟨locks, -, heq | ⟨-, heq⟩⟩ := ask_cases hlive r
        · rw [heq] at h
          exact hearlier h rfl
        · rw [heq] at h
          rcases SortedMap.find?_insert_cases h with ⟨rfl, rfl⟩ | ⟨-, h⟩
          · exact hearlier hlive (tx'.snapshot_perform _ r)
          · exact hearlier h rfl
    | withdraw id' r =>
      rw [after, live_withdraw] at h
      exact hearlier h rfl
    | discard id' =>
      rw [after, find?_live_discard] at h
      split at h
      · exact absurd h (by simp)
      · exact hearlier h rfl
    | commit id' =>
      rw [after, find?_live_commit] at h
      split at h
      · exact absurd h (by simp)
      · exact hearlier h rfl

/-! ## What commits leave -/

variable {s : Store} {deeds : List Deed}

/-- A commit puts the log of its transaction over what is committed. -/
theorem Logged.committed_commit_eq (h : s.Logged deeds) {id : TransactionId} {tx : Transaction}
    (hlive : s.live.find? id = some tx) :
    (s.commit id).committed = s.committed.under (answers deeds id) := by
  obtain ⟨snapshot, hbacks⟩ := h.backs hlive
  rw [committed_commit hlive, hbacks.replays.apply_eq, List.reverse_reverse]

/-- What is committed is what the run started from under the logs of the committed transactions, in
the order of their commits. -/
theorem committed_run (contents : Contents) (nextId : TransactionId) (moves : List Move) :
    ((resting contents nextId).run moves).1.committed =
      contents.underAll ((commits ((resting contents nextId).run moves).2).map
        (answers ((resting contents nextId).run moves).2)) := by
  induction moves using List.reverseRecOn with
  | nil => rfl
  | append_singleton moves move ih =>
    have hlogged := logged_run contents nextId moves
    have hended := (serializes_run contents nextId moves).ended
    rw [run_concat]
    generalize (resting contents nextId).run moves = now at ih hlogged hended ⊢
    -- The logs of the transactions committed before stay as they are.
    have hlogs : ∀ deed : List Deed, (∀ id ∈ commits now.2, answers deed id = []) →
        (commits now.2).map (answers (now.2 ++ deed)) = (commits now.2).map (answers now.2) := by
      intro deed hnone
      refine List.map_congr_left fun id hid => ?_
      rw [answers_append, hnone id hid, List.append_nil]
    have hsame := hlogs (now.1.deed? move).toList fun id hid =>
      answers_deed?_of_not_live (hended id hid).1 move
    have hquiet : commits (now.1.deed? move).toList = [] →
        (now.1.after move).committed = now.1.committed →
        (now.1.after move).committed = contents.underAll
          ((commits (now.2 ++ (now.1.deed? move).toList)).map
            (answers (now.2 ++ (now.1.deed? move).toList))) := by
      intro hnone hcommitted
      rw [commits_append, hnone, List.append_nil, hsame, hcommitted, ih]
    cases move with
    | begin => exact hquiet rfl rfl
    | ask id r => exact hquiet (commits_deed?_ask now.1 id r) (committed_ask now.1 id r)
    | withdraw id r => exact hquiet rfl (committed_withdraw now.1 id r)
    | discard id => exact hquiet rfl (committed_discard now.1 id)
    | commit id =>
      cases hlive : now.1.live.find? id with
      | none =>
        refine hquiet ?_ ?_
        · rw [deed?, hlive]
          rfl
        · rw [after, commit_of_not_live hlive]
      | some tx =>
        have hdeed : commits (now.1.deed? (.commit id)).toList = [id] := by
          rw [deed?, hlive]
          rfl
        rw [commits_append, hdeed, List.map_append, List.map_singleton, hsame,
          Contents.underAll_concat, ← ih, answers_deed?_commit]
        exact hlogged.committed_commit_eq hlive

/-! ## What a live transaction reads -/

/-- Without locks, a transaction reads the given contents: a cell is what it is there, the rows of
a dictionary are those that it has there, their keys strictly ascend, and they are the keys at which
a value is read, each with this value. -/
structure ReadsFrom (s : Store) (id : TransactionId) (seen : Contents) : Prop where
  /-- Reading a cell. -/
  read : ∀ cell, (s.ask id (.read cell)).2 = some (seen.find? cell)
  /-- Reading a dictionary. -/
  scan : ∀ dictionary, (s.ask id (.scan dictionary)).2 = some (seen.rows dictionary)
  /-- Keys ascend. -/
  ascending : ∀ dictionary, (seen.rows dictionary).Pairwise fun a b => compare a.1 b.1 = .lt
  /-- Both ways of reading agree. -/
  agree : ∀ dictionary key value, (key, value) ∈ seen.rows dictionary ↔
    (s.ask id (.read ⟨dictionary, key⟩)).2 = some (some value)

/-- A live transaction reads its snapshot under what it has buffered. -/
theorem Backs.readsFrom {id : TransactionId} {snapshot : Contents} {log : List Answered}
    {tx : Transaction} (h : s.Backs id snapshot log tx) :
    s.ReadsFrom id (snapshot.under log.reverse) := by
  have hsnapshot : tx.snapshot = snapshot := h.replays.snapshot_eq
  -- A reading is of the snapshot under the buffer, whatever others have committed since.
  have hread : ∀ cell,
      (s.ask id (.read cell)).2 = some ((snapshot.under log.reverse).find? cell) := by
    intro cell
    rw [← h.replays.view_eq, Store.ask, h.live, ← hsnapshot]
    rfl
  refine ⟨hread, fun dictionary => ?_, fun dictionary => Contents.rows_ascending _ dictionary,
    fun dictionary key value => ?_⟩
  · rw [← h.replays.apply_eq, Store.ask, h.live, ← hsnapshot]
    rfl
  · rw [hread, Contents.mem_rows, ← SortedMap.find?_eq_some_iff, Option.some_inj]

/-- **Snapshot reads.** Every live transaction of a run has begun with one of its moves, and
whatever has happened since, it reads what was committed before that move under what it has buffered
itself. What was committed then is what the run started from under the whole logs of the
transactions that had been committed, one after another; so of any other transaction it sees either
everything that was ever written or nothing. -/
theorem reads_snapshot (contents : Contents) (nextId : TransactionId) (moves : List Move)
    {id : TransactionId}
    (hlive : (((resting contents nextId).run moves).1.live.find? id).isSome = true) :
    let start := resting contents nextId
    let now := start.run moves
    ∃ front rest, moves = front ++ .begin :: rest ∧ (start.run front).1.nextId = id ∧
      now.1.ReadsFrom id ((start.run front).1.committed.under (answers now.2 id)) ∧
      commits (start.run front).2 <+: commits now.2 ∧
      (start.run front).1.committed =
        contents.underAll ((commits (start.run front).2).map (answers now.2)) := by
  intro start now
  obtain ⟨tx, htx⟩ := Option.isSome_iff_exists.1 hlive
  obtain ⟨front, rest, hmoves, hid, hsnapshot⟩ := exists_begin start rfl htx
  obtain ⟨snapshot, hbacks⟩ := (logged_run contents nextId moves).backs htx
  obtain rfl : tx.snapshot = snapshot := hbacks.replays.snapshot_eq
  have hreads := hbacks.readsFrom
  rw [hsnapshot, List.reverse_reverse] at hreads
  -- Behind the beginning no transaction is answered that was committed before it.
  have hnow : now = (((start.run front).1.run (.begin :: rest)).1,
      (start.run front).2 ++ ((start.run front).1.run (.begin :: rest)).2) := by
    rw [← run_append, ← hmoves]
  have hwhole : ∀ id' ∈ commits (start.run front).2,
      answers now.2 id' = answers (start.run front).2 id' := by
    intro id' hid'
    have hended := (serializes_run contents nextId front).ended id' hid'
    rw [hnow, answers_append, (hended.answers_run _).2, List.append_nil]
  refine ⟨front, rest, hmoves, hid, hreads, ?_, ?_⟩
  · rw [hnow, commits_append]
    exact List.prefix_append _ _
  · rw [List.map_congr_left hwhole]
    exact committed_run contents nextId front

/-! ## A reader beside a writer -/

namespace Sample

/-- The cell that a reader removes. -/
def removed : Cell := ⟨"d", "a"⟩

/-- The cell that a writer fills. -/
def filled : Cell := ⟨"d", "b"⟩

/-- The cell that a reader adds. -/
def added : Cell := ⟨"d", "c"⟩

/-- Contents with one cell. -/
def contents : Contents := SortedMap.empty.insert removed [1]

/-- A reader begins and removes a cell; a writer fills another one and is committed; the reader
finds that one taken and adds a third. -/
def readerMoves : List Move :=
  [.begin, .begin, .ask 2 (.remove removed), .ask 1 (.set filled [2]), .commit 1,
    .ask 2 (.add filled [3]), .ask 2 (.add added [4])]

end Sample

/-- The reader sees what it has removed and added, and nothing of the writer, although its second
request has met what the writer has written. -/
theorem reads_snapshot_readerMoves :
    let now := (resting Sample.contents 1).run Sample.readerMoves
    (now.1.live.find? 2).isSome = true ∧ now.1.committed.find? Sample.filled = some [2] ∧
      answers now.2 2 =
        [⟨.remove Sample.removed, some [1]⟩, ⟨.add Sample.filled [3], false⟩,
          ⟨.add Sample.added [4], true⟩] ∧
      ∃ seen, now.1.ReadsFrom 2 seen ∧ seen.find? Sample.filled = none := by
  intro now
  have hlive : (now.1.live.find? 2).isSome = true := by decide +kernel
  obtain ⟨front, rest, hmoves, hid, hreads, -, -⟩ :=
    reads_snapshot Sample.contents 1 Sample.readerMoves hlive
  have hread : (now.1.ask 2 (.read Sample.filled)).2 = some none := rfl
  have hseen := (hreads.read Sample.filled).symm.trans hread
  exact ⟨hlive, by decide +kernel, rfl, _, hreads, Option.some.inj hseen⟩

end Store

end Muster
