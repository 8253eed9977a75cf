import Mathlib.Data.List.Induction
import Muster.Proofs.Store.Replay

/-!
# Runs of a store

A run is any list of moves by any number of transactions. A transaction that waits for a lock asks
again, and is answered once the lock has been handed over; a wait that times out or is given up is
withdrawn. What shows of a run are its deeds, the replies and the commits, in order. After every run
all live transactions are backed by what they were told (`logged_run`).
-/

namespace Muster.Store

/-- A move of a transaction. -/
inductive Move
  /-- A new transaction begins. -/
  | begin
  /-- A transaction asks for something, for the first time or while it waits for the lock. -/
  | ask (id : TransactionId) (r : Request)
  /-- A transaction does not wait any longer for the lock of a request. -/
  | withdraw (id : TransactionId) (r : Request)
  /-- A transaction ends without its changes. -/
  | discard (id : TransactionId)
  /-- A transaction ends with its changes. -/
  | commit (id : TransactionId)

/-- What shows of a run. -/
inductive Deed
  /-- A transaction was answered. -/
  | answered (id : TransactionId) (a : Answered)
  /-- A transaction was committed. -/
  | committed (id : TransactionId)

/-- The store after a move. -/
def after (s : Store) : Move → Store
  | .begin => s.begin.2
  | .ask id r => (s.ask id r).1
  | .withdraw id r => s.withdraw id r
  | .discard id => s.discard id
  | .commit id => s.commit id

/-- What shows of a move. A request that waits shows nothing, and neither does a commit of a
transaction that has ended. -/
def deed? (s : Store) : Move → Option Deed
  | .ask id r => (s.ask id r).2.map fun reply => .answered id ⟨r, reply⟩
  | .commit id => (s.live.find? id).map fun _ => .committed id
  | _ => none

/-- The store after moves, and the deeds among them. -/
def run (s : Store) (moves : List Move) : Store × List Deed :=
  moves.foldl (fun past move => (past.1.after move, past.2 ++ (past.1.deed? move).toList)) (s, [])

/-- A store with the given contents in which no transaction is live. -/
def resting (contents : Contents) (nextId : TransactionId) : Store :=
  ⟨contents, .empty, .empty, nextId⟩

/-- The answered requests of a transaction, the first of which stands first. -/
def answers (deeds : List Deed) (id : TransactionId) : List Answered :=
  deeds.filterMap fun
    | .answered id' a => if id' = id then some a else none
    | .committed _ => none

/-- The committed transactions in the order of their commits. -/
def commits (deeds : List Deed) : List TransactionId :=
  deeds.filterMap fun
    | .answered _ _ => none
    | .committed id => some id

/-! ## One more move -/

/-- Without moves nothing happens. -/
@[simp] theorem run_nil (s : Store) : s.run [] = (s, []) :=
  rfl

/-- The last of some moves is made on the store that the others have left. -/
theorem run_concat (s : Store) (moves : List Move) (move : Move) :
    s.run (moves ++ [move]) =
      ((s.run moves).1.after move, (s.run moves).2 ++ ((s.run moves).1.deed? move).toList) := by
  rw [run, List.foldl_append]
  rfl

/-- The moves after the first ones start from where those have led. -/
theorem run_append (s : Store) (moves moves' : List Move) :
    s.run (moves ++ moves') =
      (((s.run moves).1.run moves').1, (s.run moves).2 ++ ((s.run moves).1.run moves').2) := by
  induction moves' using List.reverseRecOn with
  | nil => simp
  | append_singleton rest move ih =>
    rw [← List.append_assoc, run_concat, ih, run_concat, List.append_assoc]

/-- The answers to a transaction in some deeds and then in others. -/
theorem answers_append (deeds deeds' : List Deed) (id : TransactionId) :
    answers (deeds ++ deeds') id = answers deeds id ++ answers deeds' id :=
  List.filterMap_append

/-- The commits in some deeds and then in others. -/
theorem commits_append (deeds deeds' : List Deed) :
    commits (deeds ++ deeds') = commits deeds ++ commits deeds' :=
  List.filterMap_append

/-! ## Transactions that have ended -/

/-- A transaction has begun and is not live any more. -/
def HasEnded (s : Store) (id : TransactionId) : Prop :=
  s.live.find? id = none ∧ id < s.nextId

/-- No move makes a transaction live again that has ended. -/
theorem HasEnded.after {s : Store} {id : TransactionId} (h : s.HasEnded id) (move : Move) :
    (s.after move).HasEnded id := by
  obtain ⟨hnone, hlt⟩ := h
  cases move with
  | begin =>
    -- A transaction that begins is newer than all that have ended.
    refine ⟨?_, Nat.lt_succ_of_lt hlt⟩
    rw [Store.after, Store.begin, SortedMap.find?_insert_of_ne _ _ (Nat.ne_of_lt hlt), hnone]
  | ask id' r =>
    refine ⟨?_, (nextId_ask s id' r).symm ▸ hlt⟩
    rw [Store.after]
    cases hlive : s.live.find? id' with
    | none => rw [ask_of_not_live hlive, hnone]
    | some tx =>
      have hne : id ≠ id' := by
        rintro rfl
        exact absurd (hlive.symm.trans hnone) (by simp)
      obtain ⟨locks, -, heq | ⟨-, heq⟩⟩ := ask_cases hlive r
      · rw [heq, hnone]
      · rw [heq, SortedMap.find?_insert_of_ne _ _ hne, hnone]
  | withdraw id' r =>
    refine ⟨?_, (nextId_withdraw s id' r).symm ▸ hlt⟩
    rw [Store.after, live_withdraw, hnone]
  | discard id' =>
    refine ⟨?_, (nextId_discard s id').symm ▸ hlt⟩
    rw [Store.after, find?_live_discard, hnone, ite_self]
  | commit id' =>
    refine ⟨?_, (nextId_commit s id').symm ▸ hlt⟩
    rw [Store.after, find?_live_commit, hnone, ite_self]

/-- A transaction that is not live is not answered. -/
theorem answers_deed?_of_not_live {s : Store} {id : TransactionId} (h : s.live.find? id = none)
    (move : Move) : answers (s.deed? move).toList id = [] := by
  cases move with
  | ask id' r =>
    rw [deed?]
    -- An answer goes to the one who asked, and `id` is not live to be it.
    by_cases hid : id' = id
    · rw [hid, ask_of_not_live h]
      rfl
    · cases (s.ask id' r).2 with
      | none => rfl
      | some reply => simp [answers, hid]
  | commit id' =>
    rw [deed?]
    cases s.live.find? id' with
    | none => rfl
    | some tx => rfl
  | _ => rfl

/-- After its end a transaction is never answered again. -/
theorem HasEnded.answers_run {s : Store} {id : TransactionId} (h : s.HasEnded id)
    (moves : List Move) : (s.run moves).1.HasEnded id ∧ answers (s.run moves).2 id = [] := by
  induction moves using List.reverseRecOn with
  | nil => exact ⟨h, rfl⟩
  | append_singleton moves move ih =>
    obtain ⟨hended, hnone⟩ := ih
    rw [run_concat]
    refine ⟨hended.after move, ?_⟩
    rw [answers_append, hnone, answers_deed?_of_not_live hended.1]
    rfl

/-! ## Every live transaction is backed by its answers -/

/-- The deeds tell the logs of the live transactions, and no transaction that has not begun was
answered. -/
structure Logged (s : Store) (deeds : List Deed) : Prop where
  /-- Live transactions have begun. -/
  lt_nextId : ∀ {id tx}, s.live.find? id = some tx → id < s.nextId
  /-- A transaction that has not begun was not answered. -/
  fresh : ∀ {id}, s.nextId ≤ id → answers deeds id = []
  /-- A live transaction is backed by its answers. -/
  backs : ∀ {id tx}, s.live.find? id = some tx →
    ∃ snapshot, s.Backs id snapshot (answers deeds id).reverse tx

variable {s : Store} {deeds : List Deed}

/-- A store at rest has no live transaction whose log could be told. -/
theorem logged_resting (contents : Contents) (nextId : TransactionId) :
    (resting contents nextId).Logged [] where
  lt_nextId h := absurd h (by simp [resting])
  fresh _ := rfl
  backs h := absurd h (by simp [resting])

/-- A transaction that begins has an empty log. -/
theorem Logged.begin (h : s.Logged deeds) : s.begin.2.Logged deeds := by
  refine ⟨?_, fun hid => h.fresh (Nat.le_of_succ_le hid), ?_⟩
  · intro id tx hlive
    rw [Store.begin, SortedMap.find?_insert] at hlive
    split at hlive
    · rename_i hid
      rw [hid]
      exact Nat.lt_succ_self _
    · exact Nat.lt_succ_of_lt (h.lt_nextId hlive)
  -- The new transaction starts with an empty log; the others keep theirs.
  · intro id tx hlive
    by_cases hid : id = s.nextId
    · subst hid
      have hbegin := s.backs_begin
      obtain rfl := Option.some.inj (hlive.symm.trans hbegin.live)
      rw [h.fresh Nat.le.refl]
      exact ⟨s.committed, hbegin⟩
    · rw [Store.begin, SortedMap.find?_insert_of_ne _ _ hid] at hlive
      obtain ⟨snapshot, hbacks⟩ := h.backs hlive
      exact ⟨snapshot, hbacks.begin hid⟩

/-- A request that waits shows nothing. -/
theorem Logged.ask_none (h : s.Logged deeds) {id : TransactionId} {r : Request}
    {locks : Locks} (heq : s.ask id r = ({ s with locks }, none)) :
    (s.ask id r).1.Logged (deeds ++ (s.deed? (.ask id r)).toList) := by
  have hnone : (s.ask id r).2 = none := by rw [heq]
  have hlive : (s.ask id r).1.live = s.live := by rw [heq]
  have hdeeds : (s.deed? (.ask id r)).toList = [] := by rw [deed?, hnone]; rfl
  rw [hdeeds, List.append_nil]
  refine ⟨fun h' => ?_, fun hid => ?_, fun {id' tx'} h' => ?_⟩
  · rw [hlive] at h'
    rw [nextId_ask]
    exact h.lt_nextId h'
  · rw [nextId_ask] at hid
    exact h.fresh hid
  · rw [hlive] at h'
    obtain ⟨snapshot, hbacks⟩ := h.backs h'
    -- The transaction that waits keeps what it was told, like all others.
    by_cases hid : id' = id
    · subst hid
      exact ⟨snapshot, hbacks.ask_none hnone⟩
    · exact ⟨snapshot, hbacks.ask_of_ne hid r⟩

/-- A request that is answered adds its answer to those of its transaction. -/
theorem Logged.ask_some (h : s.Logged deeds) {id : TransactionId} {tx : Transaction} {r : Request}
    {locks : Locks} (hlive : s.live.find? id = some tx)
    (heq : s.ask id r = ({ s with
        locks, live := s.live.insert id (tx.perform s.committed r).1 },
      some (tx.perform s.committed r).2)) :
    (s.ask id r).1.Logged (deeds ++ (s.deed? (.ask id r)).toList) := by
  obtain ⟨snapshot, hbacks⟩ := h.backs hlive
  have hsome : (s.ask id r).2 = some (tx.perform s.committed r).2 := by rw [heq]
  have hdeeds : (s.deed? (.ask id r)).toList =
      [.answered id ⟨r, (tx.perform s.committed r).2⟩] := by rw [deed?, hsome]; rfl
  -- The answer is added to those of its own transaction and to no others.
  have hanswers : ∀ id', answers (deeds ++ (s.deed? (.ask id r)).toList) id' =
      answers deeds id' ++ if id = id' then [⟨r, (tx.perform s.committed r).2⟩] else [] := by
    intro id'
    rw [hdeeds, answers_append]
    by_cases hid : id = id'
    · simp [answers, hid]
    · simp [answers, hid]
  refine ⟨fun {id' tx'} h' => ?_, fun {id'} hid => ?_, fun {id' tx'} h' => ?_⟩
  · rw [heq] at h'
    rw [nextId_ask]
    rcases SortedMap.find?_insert_cases h' with ⟨rfl, -⟩ | ⟨-, h'⟩
    · exact h.lt_nextId hlive
    · exact h.lt_nextId h'
  · rw [nextId_ask] at hid
    have hne : id ≠ id' := Nat.ne_of_lt (Nat.lt_of_lt_of_le (h.lt_nextId hlive) hid)
    rw [hanswers, if_neg hne, h.fresh hid]
    rfl
  · by_cases hid : id' = id
    · subst hid
      have hask := hbacks.ask hsome
      obtain rfl := Option.some.inj (h'.symm.trans hask.live)
      rw [hanswers, if_pos rfl, List.reverse_append]
      exact ⟨snapshot, hask⟩
    · rw [heq, SortedMap.find?_insert_of_ne _ _ hid] at h'
      obtain ⟨snapshot', hbacks'⟩ := h.backs h'
      rw [hanswers, if_neg (Ne.symm hid), List.append_nil]
      exact ⟨snapshot', hbacks'.ask_of_ne hid r⟩

/-- An answer becomes part of the log of its transaction. -/
theorem Logged.ask (h : s.Logged deeds) (id : TransactionId) (r : Request) :
    (s.ask id r).1.Logged (deeds ++ (s.deed? (.ask id r)).toList) := by
  cases hlive : s.live.find? id with
  | none =>
    rw [deed?, ask_of_not_live hlive]
    simpa using h
  | some tx =>
    obtain ⟨locks, -, heq | ⟨-, heq⟩⟩ := ask_cases hlive r
    · exact h.ask_none heq
    · exact h.ask_some hlive heq

/-- A request that is withdrawn is not part of a log. -/
theorem Logged.withdraw (h : s.Logged deeds) (id : TransactionId) (r : Request) :
    (s.withdraw id r).Logged deeds := by
  refine ⟨fun h' => ?_, fun hid => h.fresh (s.nextId_withdraw id r ▸ hid), fun h' => ?_⟩
  · rw [live_withdraw] at h'
    rw [nextId_withdraw]
    exact h.lt_nextId h'
  · rw [live_withdraw] at h'
    obtain ⟨snapshot, hbacks⟩ := h.backs h'
    exact ⟨snapshot, hbacks.withdraw id r⟩

/-- What a transaction that goes on keeps when another one ends, with or without its changes. -/
theorem Logged.ending (h : s.Logged deeds) {s' : Store} {id : TransactionId}
    (hnext : s'.nextId = s.nextId)
    (hlive : ∀ id', s'.live.find? id' = if id' = id then none else s.live.find? id')
    (hbacks : ∀ {id' snapshot log tx}, id' ≠ id → s.Backs id' snapshot log tx →
      s'.Backs id' snapshot log tx) : s'.Logged deeds := by
  -- Ending `id` leaves every other live transaction, and no new one.
  have hkept : ∀ {id' tx}, s'.live.find? id' = some tx → id' ≠ id ∧ s.live.find? id' = some tx := by
    intro id' tx h'
    rw [hlive] at h'
    split at h'
    · exact absurd h' (by simp)
    · rename_i hne
      exact ⟨hne, h'⟩
  refine ⟨fun h' => ?_, fun hid => h.fresh (hnext ▸ hid), fun h' => ?_⟩
  · rw [hnext]
    exact h.lt_nextId (hkept h').2
  · obtain ⟨hne, h'⟩ := hkept h'
    obtain ⟨snapshot, hb⟩ := h.backs h'
    exact ⟨snapshot, hbacks hne hb⟩

/-- A transaction that is discarded takes its log with it. -/
theorem Logged.discard (h : s.Logged deeds) (id : TransactionId) : (s.discard id).Logged deeds :=
  h.ending (s.nextId_discard id) (s.find?_live_discard id) fun hne hb => hb.discard hne

/-- A transaction that is committed takes its log with it, and the others are borne out still. -/
theorem Logged.commit (h : s.Logged deeds) (id : TransactionId) : (s.commit id).Logged deeds := by
  cases hlive : s.live.find? id with
  | none =>
    rw [commit_of_not_live hlive]
    exact h
  | some tx =>
    obtain ⟨snapshot, hbacks⟩ := h.backs hlive
    exact h.ending (s.nextId_commit id) (s.find?_live_commit id) fun hne hb => hb.commit hbacks hne

/-- A commit is no answer. -/
theorem answers_deed?_commit (s : Store) (deeds : List Deed) (id id' : TransactionId) :
    answers (deeds ++ (s.deed? (.commit id)).toList) id' = answers deeds id' := by
  rw [answers_append, deed?]
  cases s.live.find? id with
  | none => simp [answers]
  | some tx => simp [answers]

/-- Every move keeps the live transactions backed by their answers. -/
theorem Logged.after (h : s.Logged deeds) (move : Move) :
    (s.after move).Logged (deeds ++ (s.deed? move).toList) := by
  cases move with
  | begin => simpa [Store.after, deed?] using h.begin
  | ask id r => exact h.ask id r
  | withdraw id r => simpa [Store.after, deed?] using h.withdraw id r
  | discard id => simpa [Store.after, deed?] using h.discard id
  -- A commit answers nothing, so the logs of the others are as they were.
  | commit id =>
    have hcommit := h.commit id
    refine ⟨hcommit.lt_nextId, fun hid => ?_, fun hlive => ?_⟩
    · rw [answers_deed?_commit]
      exact hcommit.fresh hid
    · rw [answers_deed?_commit]
      exact hcommit.backs hlive

/-- After every run from rest, the live transactions are backed by their answers. -/
theorem logged_run (contents : Contents) (nextId : TransactionId) (moves : List Move) :
    ((resting contents nextId).run moves).1.Logged ((resting contents nextId).run moves).2 := by
  induction moves using List.reverseRecOn with
  | nil => exact logged_resting contents nextId
  | append_singleton moves move ih =>
    rw [run_concat]
    exact ih.after move

end Muster.Store
