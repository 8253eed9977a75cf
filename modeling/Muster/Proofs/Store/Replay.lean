import Muster.Proofs.Contents
import Muster.Proofs.Store.Locks
import Muster.Store.Basic

/-!
# What a transaction was told stays true

The log of a transaction lists the requests that were answered, the last first, each with its reply.
`Transaction.Replays` says that contents bear a log out: asked again in the same order on those
contents, all requests get the same replies and lead to the same changes. A request that locks its
cell depends on that cell only, so contents that agree on the locked cells bear out the same logs
(`Replays.congr`).

`Store.Backs` says that a live transaction holds the locks of its whole log and that what is
committed now bears the log out. No move of another transaction takes this away: moves other than
commits do not change what is committed, and a commit changes only cells that its transaction has
locked, which nobody else can then have in a log.
-/

namespace Muster

/-- A request together with the reply it was given. -/
abbrev Answered := (r : Request) × r.Reply

namespace Transaction

/-- The requests of a log, the last of which stands first, get their replies when they are asked one
after another from `start` on with `latest` committed, and lead to the given transaction. -/
def Replays (latest : Contents) (start : Transaction) : List Answered → Transaction → Prop
  | [], tx => tx = start
  | ⟨r, reply⟩ :: log, tx =>
    ∃ before, Replays latest start log before ∧ before.perform latest r = (tx, reply)

/-- Without answers nothing has happened to the transaction. -/
theorem replays_nil {latest : Contents} {start tx : Transaction} :
    Replays latest start [] tx ↔ tx = start :=
  Iff.rfl

/-- What a request does depends on the cell that it locks and on no other. -/
theorem perform_congr (tx : Transaction) {latest latest' : Contents} {r : Request}
    (h : ∀ cell, r.lock? = some cell → latest.find? cell = latest'.find? cell) :
    tx.perform latest r = tx.perform latest' r := by
  -- The latest contents are read under a lock only, and there only the locked cell is.
  cases r with
  | read cell => rfl
  | scan dictionary => rfl
  | set cell value => rfl
  | readLocked cell =>
    have hcell := h cell rfl
    rw [perform, perform, view, view, hcell]
  | add cell value =>
    have hcell := h cell rfl
    rw [perform, perform, view, view, hcell]
  | remove cell =>
    have hcell := h cell rfl
    rw [perform, perform, view, view, hcell]

/-- Contents that agree on the locked cells of a log bear it out alike. -/
theorem Replays.congr {latest latest' : Contents} {start tx : Transaction} {log : List Answered}
    (h : Replays latest start log tx)
    (hcells : ∀ a ∈ log, ∀ cell, a.1.lock? = some cell → latest.find? cell = latest'.find? cell) :
    Replays latest' start log tx := by
  induction log generalizing tx with
  | nil => exact h
  | cons a log ih =>
    obtain ⟨before, hbefore, htx⟩ := h
    refine ⟨before, ih hbefore fun b hb => hcells b (List.mem_cons_of_mem _ hb), ?_⟩
    rw [← before.perform_congr (hcells a List.mem_cons_self), htx]

/-- A request changes no cell but the one that it locks. -/
theorem find?_changes_perform (tx : Transaction) (latest : Contents) (r : Request) {cell : Cell}
    (h : r.lock? ≠ some cell) :
    (tx.perform latest r).1.changes.find? cell = tx.changes.find? cell := by
  -- What a request buffers it buffers in the cell that it locks.
  have hbuffer : ∀ {cell' : Cell} (value : Option Bytes), r.lock? = some cell' →
      (tx.buffer cell' value).changes.find? cell = tx.changes.find? cell := by
    intro cell' value hr
    have hne : cell ≠ cell' := by
      rintro rfl
      exact h hr
    rw [buffer, SortedMap.find?_insert_of_ne _ _ hne]
  cases r with
  | read cell' => rfl
  | readLocked cell' => rfl
  | scan dictionary => rfl
  | set cell' value => exact hbuffer _ rfl
  | add cell' value =>
    rw [perform]
    split
    · rfl
    · exact hbuffer _ rfl
  | remove cell' =>
    rw [perform]
    split
    · exact hbuffer _ rfl
    · rfl

/-- A log changes no cell that it does not lock. -/
theorem Replays.find?_changes {latest : Contents} {start tx : Transaction} {log : List Answered}
    (h : Replays latest start log tx) {cell : Cell} (hcell : ∀ a ∈ log, a.1.lock? ≠ some cell) :
    tx.changes.find? cell = start.changes.find? cell := by
  induction log generalizing tx with
  | nil => rw [replays_nil.1 h]
  | cons a log ih =>
    obtain ⟨before, hbefore, htx⟩ := h
    have hstep := before.find?_changes_perform latest a.1 (hcell a List.mem_cons_self)
    rw [htx] at hstep
    rw [hstep, ih hbefore fun b hb => hcell b (List.mem_cons_of_mem _ hb)]

end Transaction

namespace Store

open Transaction (Replays)

/-- A live transaction that began on `snapshot` holds the locks of all requests of its log, and what
is committed now bears the log out. -/
structure Backs (s : Store) (id : TransactionId) (snapshot : Contents) (log : List Answered)
    (tx : Transaction) : Prop where
  /-- The transaction has not ended. -/
  live : s.live.find? id = some tx
  /-- What is committed bears the log out. -/
  replays : Replays s.committed (.begin snapshot) log tx
  /-- The cells that were locked are locked still. -/
  holds : ∀ a ∈ log, ∀ cell, a.1.lock? = some cell → s.locks.holds id cell = true

variable {s : Store} {id : TransactionId} {snapshot : Contents} {log : List Answered}
  {tx : Transaction}

/-! ## Asking -/

/-- A transaction that is not live is not answered. -/
theorem ask_of_not_live (h : s.live.find? id = none) (r : Request) : s.ask id r = (s, none) := by
  rw [ask, h]

/-- A live transaction gets the reply that the latest contents give it, or it waits. -/
theorem ask_cases (h : s.live.find? id = some tx) (r : Request) :
    ∃ locks : Locks, (∀ id' cell, s.locks.holds id' cell = true → locks.holds id' cell = true) ∧
      ((s.ask id r = ({ s with locks }, none)) ∨
      ((∀ cell, r.lock? = some cell → locks.holds id cell = true) ∧
        s.ask id r = ({ s with locks, live := s.live.insert id (tx.perform s.committed r).1 },
          some (tx.perform s.committed r).2))) := by
  rw [ask, h]
  dsimp only
  cases hr : r.lock? with
  | none => exact ⟨s.locks, fun _ _ hl => hl, .inr ⟨fun _ hc => by simp at hc, rfl⟩⟩
  | some cell =>
    -- The lock is requested in any case; only its holder is answered.
    refine ⟨s.locks.request id cell, fun _ _ hl => Locks.holds_request hl id cell, ?_⟩
    dsimp only
    split
    · rename_i hheld
      refine .inr ⟨fun cell' hc => ?_, rfl⟩
      obtain rfl := Option.some.inj hc
      exact hheld
    · exact .inl rfl

/-- A request, answered or not, does not change what is committed. -/
@[simp] theorem committed_ask (s : Store) (id : TransactionId) (r : Request) :
    (s.ask id r).1.committed = s.committed := by
  cases h : s.live.find? id with
  | none => rw [ask_of_not_live h]
  | some tx =>
    obtain ⟨locks, -, heq | ⟨-, heq⟩⟩ := ask_cases h r
    · rw [heq]
    · rw [heq]

/-- No request makes a transaction begin. -/
@[simp] theorem nextId_ask (s : Store) (id : TransactionId) (r : Request) :
    (s.ask id r).1.nextId = s.nextId := by
  cases h : s.live.find? id with
  | none => rw [ask_of_not_live h]
  | some tx =>
    obtain ⟨locks, -, heq | ⟨-, heq⟩⟩ := ask_cases h r
    · rw [heq]
    · rw [heq]

/-- A transaction stays backed if it lives on, keeps its locks and its locked cells hold what they
held. -/
theorem Backs.mono {s' : Store} (h : s.Backs id snapshot log tx)
    (hlive : s'.live.find? id = some tx)
    (hcells : ∀ a ∈ log, ∀ cell, a.1.lock? = some cell →
      s.committed.find? cell = s'.committed.find? cell)
    (hholds : ∀ cell, s.locks.holds id cell = true → s'.locks.holds id cell = true) :
    s'.Backs id snapshot log tx where
  live := hlive
  replays := h.replays.congr hcells
  holds a ha cell hcell := hholds cell (h.holds a ha cell hcell)

/-- A reply lengthens the log of the transaction that asked. -/
theorem Backs.ask (h : s.Backs id snapshot log tx) {r : Request} {reply : r.Reply}
    (hreply : (s.ask id r).2 = some reply) :
    (s.ask id r).1.Backs id snapshot (⟨r, reply⟩ :: log) (tx.perform s.committed r).1 := by
  obtain ⟨locks, hmono, heq | ⟨hheld, heq⟩⟩ := ask_cases h.live r
  · rw [heq] at hreply
    exact absurd hreply (by simp)
  · rw [heq] at hreply ⊢
    obtain rfl := Option.some.inj hreply
    refine ⟨SortedMap.find?_insert_self .., ⟨tx, h.replays, rfl⟩, ?_⟩
    intro a ha cell hcell
    rcases List.mem_cons.1 ha with rfl | ha
    · exact hheld cell hcell
    · exact hmono id cell (h.holds a ha cell hcell)

/-- Waiting leaves the transaction that asked as it is. -/
theorem Backs.ask_none (h : s.Backs id snapshot log tx) {r : Request}
    (hreply : (s.ask id r).2 = none) : (s.ask id r).1.Backs id snapshot log tx := by
  obtain ⟨locks, hmono, heq | ⟨-, heq⟩⟩ := ask_cases h.live r
  · rw [heq]
    exact h.mono h.live (fun _ _ _ _ => rfl) (hmono id)
  · rw [heq] at hreply
    exact absurd hreply (by simp)

/-- What another transaction asks for leaves this one as it is. -/
theorem Backs.ask_of_ne (h : s.Backs id snapshot log tx) {id' : TransactionId} (hne : id ≠ id')
    (r : Request) : (s.ask id' r).1.Backs id snapshot log tx := by
  cases hlive : s.live.find? id' with
  | none =>
    rw [ask_of_not_live hlive]
    exact h
  | some tx' =>
    obtain ⟨locks, hmono, heq | ⟨-, heq⟩⟩ := ask_cases hlive r
    · rw [heq]
      exact h.mono h.live (fun _ _ _ _ => rfl) (hmono id)
    · rw [heq]
      refine h.mono ?_ (fun _ _ _ _ => rfl) (hmono id)
      rw [SortedMap.find?_insert_of_ne _ _ hne, h.live]

/-! ## Beginning and ending -/

/-- A transaction begins with an empty log on what is committed. -/
theorem backs_begin (s : Store) :
    s.begin.2.Backs s.begin.1 s.committed [] (.begin s.committed) where
  live := SortedMap.find?_insert_self ..
  replays := rfl
  holds _ ha := absurd ha (by simp)

/-- Another transaction that begins takes nothing away from a live one. -/
theorem Backs.begin (h : s.Backs id snapshot log tx) (hne : id ≠ s.nextId) :
    s.begin.2.Backs id snapshot log tx := by
  refine h.mono ?_ (fun _ _ _ _ => rfl) fun _ hl => hl
  rw [Store.begin, SortedMap.find?_insert_of_ne _ _ hne, h.live]

/-- The end of a waiting leaves every transaction as it is. -/
theorem Backs.withdraw (h : s.Backs id snapshot log tx) (id' : TransactionId) (r : Request) :
    (s.withdraw id' r).Backs id snapshot log tx := by
  rw [Store.withdraw]
  cases r.lock? with
  | none => exact h
  | some cell =>
    exact h.mono h.live (fun _ _ _ _ => rfl) fun _ hl => Locks.holds_withdraw hl id' cell

/-- A transaction that is not live leaves nothing behind when it is discarded. -/
theorem discard_of_not_live (h : s.live.find? id = none) : s.discard id = s := by
  rw [discard, h]

/-- Discarding a transaction does not change what is committed. -/
@[simp] theorem committed_discard (s : Store) (id : TransactionId) :
    (s.discard id).committed = s.committed := by
  rw [discard]
  split
  · rfl
  · rfl

/-- The end of a transaction without its changes takes it off the live ones. -/
theorem find?_live_discard (s : Store) (id id' : TransactionId) :
    (s.discard id).live.find? id' = if id' = id then none else s.live.find? id' := by
  cases h : s.live.find? id with
  | none =>
    rw [discard_of_not_live h]
    split
    · rename_i hid
      rw [hid, h]
    · rfl
  | some tx =>
    rw [discard, h]
    exact SortedMap.find?_erase ..

/-- Discarding a transaction does not change the next number. -/
@[simp] theorem nextId_discard (s : Store) (id : TransactionId) :
    (s.discard id).nextId = s.nextId := by
  rw [discard]
  split
  · rfl
  · rfl

/-- Withdrawing a request does not change what is committed. -/
@[simp] theorem committed_withdraw (s : Store) (id : TransactionId) (r : Request) :
    (s.withdraw id r).committed = s.committed := by
  rw [Store.withdraw]
  split
  · rfl
  · rfl

/-- Withdrawing a request does not change the next number. -/
@[simp] theorem nextId_withdraw (s : Store) (id : TransactionId) (r : Request) :
    (s.withdraw id r).nextId = s.nextId := by
  rw [Store.withdraw]
  split
  · rfl
  · rfl

/-- Withdrawing a request does not change the live transactions. -/
@[simp] theorem live_withdraw (s : Store) (id : TransactionId) (r : Request) :
    (s.withdraw id r).live = s.live := by
  rw [Store.withdraw]
  split
  · rfl
  · rfl

/-- The end of another transaction without its changes leaves this one as it is. -/
theorem Backs.discard (h : s.Backs id snapshot log tx) {id' : TransactionId} (hne : id ≠ id') :
    (s.discard id').Backs id snapshot log tx := by
  rw [Store.discard]
  split
  · exact h
  · refine h.mono ?_ (fun _ _ _ _ => rfl) fun _ hl => Locks.holds_release hl hne
    rw [SortedMap.find?_erase_of_ne _ hne, h.live]

/-- A transaction that is not live commits nothing. -/
theorem commit_of_not_live (h : s.live.find? id = none) : s.commit id = s := by
  rw [commit, h]

/-- Committing a live transaction applies its changes and then ends it. -/
theorem commit_of_live (h : s.live.find? id = some tx) :
    s.commit id = { s with committed := s.committed.apply tx.changes }.discard id := by
  rw [commit, h]

/-- A commit takes its transaction off the live ones. -/
theorem find?_live_commit (s : Store) (id id' : TransactionId) :
    (s.commit id).live.find? id' = if id' = id then none else s.live.find? id' := by
  cases h : s.live.find? id with
  | none =>
    rw [commit_of_not_live h]
    split
    · rename_i hid
      rw [hid, h]
    · rfl
  | some tx =>
    rw [commit_of_live h, find?_live_discard]

/-- Committing a transaction does not change the next number. -/
@[simp] theorem nextId_commit (s : Store) (id : TransactionId) :
    (s.commit id).nextId = s.nextId := by
  cases h : s.live.find? id with
  | none => rw [commit_of_not_live h]
  | some tx => rw [commit_of_live h, nextId_discard]

/-- A commit applies the changes of its transaction. -/
theorem committed_commit (h : s.live.find? id = some tx) :
    (s.commit id).committed = s.committed.apply tx.changes := by
  rw [commit_of_live h, committed_discard]

/-- A commit leaves the cells alone that another transaction has locked. -/
theorem Backs.find?_committed_commit (h : s.Backs id snapshot log tx) {id' : TransactionId}
    (hne : id ≠ id') {cell : Cell} (hheld : s.locks.holds id' cell = true) :
    (s.commit id).committed.find? cell = s.committed.find? cell := by
  -- The log of the transaction that commits would hold the same lock.
  have hlog : ∀ a ∈ log, a.1.lock? ≠ some cell := fun a ha hcell =>
    hne (Locks.holder_unique (h.holds a ha cell hcell) hheld)
  rw [committed_commit h.live, Contents.find?_apply, h.replays.find?_changes hlog]
  rfl

/-- The commit of another transaction leaves this one as it is. -/
theorem Backs.commit (h : s.Backs id snapshot log tx) {id' : TransactionId} {snapshot' : Contents}
    {log' : List Answered} {tx' : Transaction} (h' : s.Backs id' snapshot' log' tx')
    (hne : id ≠ id') : (s.commit id').Backs id snapshot log tx := by
  -- Its locked cells were not changed, and its locks are not released.
  have happlied :
      Backs { s with committed := s.committed.apply tx'.changes } id snapshot log tx := by
    refine h.mono h.live (fun a ha cell hcell => ?_) fun _ hl => hl
    have hsame := h'.find?_committed_commit hne.symm (h.holds a ha cell hcell)
    rw [committed_commit h'.live] at hsame
    exact hsame.symm
  rw [commit_of_live h'.live]
  exact happlied.discard hne

end Store

end Muster
