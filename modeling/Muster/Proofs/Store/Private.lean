import Muster.Proofs.Store.Snapshot
import Muster.Proofs.Store.Vain
import Muster.Proofs.System.Perform
import Muster.Program.Operation

/-!
# Private maps

While no other transaction commits, a transaction is a private map: its requests are answered as the
same requests on a copy of the contents that it began on, and its commit puts the copy in the place
of the contents (`private_map`). The copy is plain contents, and `Contents.perform` is what a
request does to them: there is no buffer, no snapshot and no lock.

The transaction keeps a buffer over two bases, the snapshot and the latest contents. While nobody
commits both are the contents that it began on, and the copy is these contents under the buffer. So
one request on the transaction is one request on the copy (`Transaction.perform_apply`), and a log
is a run of the copy (`Transaction.Replays.performAll_eq`).

A request that fails leaves no trace. One that waits in vain is not in the log; the wait leaves the
transaction as it is, and once it is withdrawn the transaction holds the locks that it held before
(`WaitsInVain.withdraw`). One on a dictionary of another store never reaches a store
(`run_ask_foreign`).
-/

namespace Muster

/-! ## Plain contents -/

namespace Contents

/-- Does what a request asks for to plain contents. -/
def perform (c : Contents) : (r : Request) → Contents × r.Reply
  | .read cell => (c, c.find? cell)
  | .readLocked cell => (c, c.find? cell)
  | .set cell value => (c.insert cell value, ())
  | .add cell value =>
    if (c.find? cell).isSome then (c, false) else (c.insert cell value, true)
  | .remove cell => (c.erase cell, c.find? cell)
  | .scan dictionary => (c, c.rows dictionary)

/-- Does what requests ask for one after another; each is given with its reply. -/
def performAll (c : Contents) (requests : List Request) : Contents × List Answered :=
  requests.foldl
    (fun past r => ((past.1.perform r).1, past.2 ++ [⟨r, (past.1.perform r).2⟩])) (c, [])

/-- The contents after writes in the order in which they are given. -/
def write (c : Contents) (writes : List (Cell × Option Bytes)) : Contents :=
  writes.foldl (fun c write => c.change write.1 write.2) c

variable {c : Contents}

/-- The last of some requests is made on the contents that the others have left. -/
theorem performAll_concat (c : Contents) (requests : List Request) (r : Request) :
    c.performAll (requests ++ [r]) =
      (((c.performAll requests).1.perform r).1,
        (c.performAll requests).2 ++ [⟨r, ((c.performAll requests).1.perform r).2⟩]) := by
  rw [performAll, List.foldl_append]
  rfl

/-- Clearing an empty cell changes nothing. -/
theorem erase_of_none {cell : Cell} (h : c.find? cell = none) : c.erase cell = c := by
  refine SortedMap.ext_find? fun cell' => ?_
  rw [SortedMap.find?_erase]
  split
  · rename_i hcell
    rw [hcell, h]
  · rfl

/-- One more change in a buffer is one more change to the contents under it. -/
theorem apply_insert (c : Contents) (changes : Changes) (cell : Cell) (value : Option Bytes) :
    c.apply (changes.insert cell value) = (c.apply changes).change cell value := by
  refine SortedMap.ext_find? fun cell' => ?_
  rw [find?_apply, SortedMap.find?_insert, find?_change, find?_apply]
  split
  · rfl
  · rfl

/-- Changes of different cells can be made in either order. -/
theorem change_comm (c : Contents) {cell cell' : Cell} (hne : cell ≠ cell')
    (value value' : Option Bytes) :
    (c.change cell value).change cell' value' = (c.change cell' value').change cell value := by
  refine SortedMap.ext_find? fun k => ?_
  rw [find?_change, find?_change, find?_change, find?_change]
  by_cases hk : k = cell
  · rw [if_pos hk, if_pos hk, if_neg (hk ▸ hne)]
  · rw [if_neg hk, if_neg hk]

/-- In whatever order changes are walked through, the contents end up the same, because every cell
is changed once. -/
theorem write_perm (c : Contents) {changes : Changes} {writes : List (Cell × Option Bytes)}
    (h : writes.Perm changes.entries) : c.write writes = c.apply changes := by
  refine h.foldl_eq' (fun e he e' he' z => ?_) c
  by_cases hcell : e.1 = e'.1
  · -- Two changes of one cell are the same change.
    have hfind : changes.find? e.1 = some e.2 := SortedMap.find?_eq_some_iff.2 (h.mem_iff.1 he)
    have hfind' : changes.find? e'.1 = some e'.2 :=
      SortedMap.find?_eq_some_iff.2 (h.mem_iff.1 he')
    rw [hcell, hfind'] at hfind
    have heq : e = e' := Prod.ext hcell (Option.some.inj hfind).symm
    rw [heq]
  · exact z.change_comm hcell e.2 e'.2

end Contents

/-! ## A transaction beside the copy -/

namespace Transaction

/-- **What a request does to a transaction on unchanged contents it does to their copy.** -/
theorem perform_apply (tx : Transaction) (r : Request) :
    (tx.snapshot.apply tx.changes).perform r =
      (tx.snapshot.apply (tx.perform tx.snapshot r).1.changes,
        (tx.perform tx.snapshot r).2) := by
  have hview := tx.find?_apply_changes tx.snapshot
  cases r with
  | read cell => rw [Contents.perform, perform, hview]
  | readLocked cell => rw [Contents.perform, perform, hview]
  | scan dictionary => rfl
  | set cell value =>
    rw [Contents.perform, perform, buffer, Contents.apply_insert]
    rfl
  | add cell value =>
    rw [Contents.perform, perform, hview]
    split
    · rfl
    · rw [buffer, Contents.apply_insert]
      rfl
  | remove cell =>
    rw [Contents.perform, perform, hview]
    cases h : tx.view tx.snapshot cell with
    | none =>
      -- There is nothing to remove, so nothing is buffered.
      have hnone : (tx.snapshot.apply tx.changes).find? cell = none := (hview cell).trans h
      rw [Contents.erase_of_none hnone]
    | some value =>
      dsimp only
      rw [buffer, Contents.apply_insert]
      rfl

/-- A log on unchanged contents is a run of their copy. -/
theorem Replays.performAll_eq {base : Contents} {tx : Transaction} {log : List Answered}
    (h : Replays base (.begin base) log tx) :
    base.performAll (log.reverse.map Sigma.fst) = (base.apply tx.changes, log.reverse) := by
  induction log generalizing tx with
  | nil =>
    rw [replays_nil.1 h]
    rfl
  | cons a log ih =>
    -- The log grows at its front, so its last request is the last of the copy as well.
    obtain ⟨r, reply⟩ := a
    obtain ⟨before, hbefore, rfl, rfl⟩ := h.last
    have hsnapshot : before.snapshot = base := hbefore.snapshot_eq
    have hstep := before.perform_apply r
    rw [hsnapshot] at hstep
    rw [List.reverse_cons, List.map_append, List.map_singleton, Contents.performAll_concat,
      ih hbefore, hstep]

/-- The change that a transaction has buffered for a cell is the last one that its log has. -/
theorem Replays.find?_changes_eq {latest snapshot : Contents} {tx : Transaction}
    {log : List Answered} (h : Replays latest (.begin snapshot) log tx) (cell : Cell) :
    tx.changes.find? cell = (log.filterMap Answered.buffered?).lookup cell := by
  induction log generalizing tx with
  | nil =>
    rw [replays_nil.1 h]
    rfl
  | cons a log ih =>
    obtain ⟨r, reply⟩ := a
    obtain ⟨before, hbefore, rfl, rfl⟩ := h.last
    -- `set`, an `add` that finds nothing and a `remove` that finds something buffer one value, and
    -- the latest buffered value of a cell is the first of the log.
    have hbuffer : ∀ (cell' : Cell) (value : Option Bytes),
        (before.buffer cell' value).changes.find? cell =
          ((cell', value) :: log.filterMap Answered.buffered?).lookup cell := by
      intro cell' value
      rw [buffer, SortedMap.find?_insert, ih hbefore, List.lookup_cons]
      by_cases hcell : cell = cell'
      · rw [if_pos hcell, beq_iff_eq.2 hcell]
      · rw [if_neg hcell, beq_eq_false_iff_ne.2 hcell]
    cases r with
    | read cell' => exact ih hbefore
    | readLocked cell' => exact ih hbefore
    | scan dictionary => exact ih hbefore
    | set cell' value => exact hbuffer cell' (some value)
    | add cell' value =>
      rw [perform]
      split
      · exact ih hbefore
      · exact hbuffer cell' (some value)
    | remove cell' =>
      rw [perform]
      split
      · exact hbuffer cell' none
      · exact ih hbefore

end Transaction

namespace Store

variable {s : Store} {id : TransactionId} {cell : Cell} {tx : Transaction} {move : Move}
  {moves : List Move}

/-! ## Working on a copy -/

/-- A transaction works on a copy of contents: what it is told is what the copy holds, and its
commit puts the copy in the place of the contents. -/
structure WorksOn (s : Store) (id : TransactionId) (copy : Contents) : Prop where
  /-- A request that is answered is answered as on the copy. -/
  reply : ∀ r reply, (s.ask id r).2 = some reply → reply = (copy.perform r).2
  /-- One that is not waits for a lock that another transaction holds. -/
  waits : ∀ r, (s.ask id r).2 = none → ∃ cell holder, r.lock? = some cell ∧ holder ≠ id ∧
    s.locks.holds holder cell = true
  /-- A commit leaves the copy. -/
  commit : (s.commit id).committed = copy
  /-- It does so in whatever order it walks through the buffer. -/
  anyOrder : ∀ tx writes, s.live.find? id = some tx → writes.Perm tx.changes.entries →
    s.committed.write writes = copy
  /-- Any other end leaves what is committed. -/
  discard : (s.discard id).committed = s.committed
  /-- So does a drop in the middle of a request. -/
  drop : ∀ r, ((s.withdraw id r).discard id).committed = s.committed

/-- A transaction whose log what is committed bears out works on what is committed under its
changes. -/
theorem Backs.worksOn {snapshot : Contents} {log : List Answered}
    (h : s.Backs id snapshot log tx) (hsnapshot : snapshot = s.committed) :
    s.WorksOn id (s.committed.apply tx.changes) where
  reply r reply hreply := by
    have hsame : tx.snapshot = s.committed := h.replays.snapshot_eq.trans hsnapshot
    have hstep := tx.perform_apply r
    rw [hsame] at hstep
    -- An answer that came is the answer of the buffer over the snapshot, which is the contents now.
    obtain ⟨locks, -, heq | ⟨-, heq⟩⟩ := ask_cases h.live r
    · rw [heq] at hreply
      exact absurd hreply (by simp)
    · rw [heq] at hreply
      rw [hstep]
      exact (Option.some.inj hreply).symm
  waits _ hnone := exists_holder_of_ask_none h.live hnone
  commit := committed_commit h.live
  anyOrder tx' writes hlive hperm := by
    obtain rfl := Option.some.inj (h.live.symm.trans hlive)
    exact s.committed.write_perm hperm
  discard := s.committed_discard id
  drop r := by rw [committed_discard, committed_withdraw]


/-- The transaction with which the moves behind others begin has begun on what those have left. -/
theorem exists_backs_of_begin (contents : Contents) (nextId : TransactionId)
    (front rest : List Move) :
    let before := ((resting contents nextId).run front).1
    let now := before.run (.begin :: rest)
    ∀ tx, now.1.live.find? before.nextId = some tx →
      now.1.Backs before.nextId before.committed (answers now.2 before.nextId).reverse tx := by
  intro before now tx hlive
  have hfresh : answers ((resting contents nextId).run front).2 before.nextId = [] :=
    (logged_run contents nextId front).fresh (Nat.le_refl _)
  have hrun : (resting contents nextId).run (front ++ .begin :: rest) =
      (now.1, ((resting contents nextId).run front).2 ++ now.2) := run_append _ _ _
  have hlogged := logged_run contents nextId (front ++ .begin :: rest)
  rw [hrun] at hlogged
  obtain ⟨snapshot, hbacks⟩ := hlogged.backs hlive
  rw [answers_append, hfresh, List.nil_append] at hbacks
  -- Its snapshot is that with which it began.
  have hsplit : now.1 = (before.begin.2.run rest).1 := by
    have happend := run_append before [.begin] rest
    exact congrArg Prod.fst happend
  have hsnapshot : tx.snapshot = before.committed := by
    rw [hsplit] at hlive
    refine snapshot_run (Nat.lt_succ_self _) (fun tx' hlive' => ?_) rest hlive
    obtain rfl := Option.some.inj (hlive'.symm.trans before.backs_begin.live)
    rfl
  obtain rfl : tx.snapshot = snapshot := hbacks.replays.snapshot_eq
  rw [hsnapshot] at hbacks
  exact hbacks

/-- **Where nobody commits, a transaction works on the copy that its log leads to**, and its log is
what the copy has answered. -/
theorem worksOn_run (contents : Contents) (nextId : TransactionId) (front rest : List Move) :
    let before := ((resting contents nextId).run front).1
    let now := before.run (.begin :: rest)
    let copy := before.committed.performAll ((answers now.2 before.nextId).map Sigma.fst)
    (now.1.live.find? before.nextId).isSome = true → commits now.2 = [] →
      copy.2 = answers now.2 before.nextId ∧ now.1.WorksOn before.nextId copy.1 ∧
        now.1.committed = before.committed := by
  intro before now copy hlive hquiet
  obtain ⟨tx, htx⟩ := Option.isSome_iff_exists.1 hlive
  have hbacks := exists_backs_of_begin contents nextId front rest tx htx
  have hcommitted : now.1.committed = before.committed := committed_run_of_commits_eq_nil hquiet
  have hreplays := hbacks.replays
  -- Nothing was committed since the beginning, so the snapshot of the transaction is the contents
  -- that it sees, and the copy has gone through the same requests.
  rw [hcommitted] at hreplays
  have hcopy := hreplays.performAll_eq
  rw [List.reverse_reverse] at hcopy
  have hworks := hbacks.worksOn hcommitted.symm
  rw [hcommitted] at hworks
  have heq : copy = (before.committed.apply tx.changes, answers now.2 before.nextId) := hcopy
  rw [heq]
  exact ⟨rfl, hworks, hcommitted⟩

/-- A transaction that has waited in vain and has withdrawn its request works on the copy that it
worked on before. -/
theorem worksOn_of_waitsInVain (contents : Contents) (nextId : TransactionId)
    (front rest : List Move) {r : Request} {wait : List Move} {copy : Contents} :
    let before := ((resting contents nextId).run front).1
    let id := before.nextId
    let now := before.run (.begin :: rest)
    (now.1.live.find? id).isSome = true → now.1.WaitsInVain id r wait →
      ((now.1.run wait).1.withdraw id r).live.find? id = now.1.live.find? id →
      commits now.2 = [] → commits (now.1.run wait).2 = [] → now.1.WorksOn id copy →
      ((now.1.run wait).1.withdraw id r).WorksOn id copy := by
  intro before id now hlive hvain hsame hquiet hwait hworks
  -- The moves up to the withdrawal have the same log.
  have hrun : before.run (.begin :: (rest ++ (wait ++ [.withdraw id r]))) =
      ((now.1.run wait).1.withdraw id r, now.2 ++ (now.1.run wait).2) := by
    rw [← List.cons_append, run_append, run_concat]
    refine Prod.ext rfl ?_
    simp [deed?, now]
  have hlog : answers (now.2 ++ (now.1.run wait).2) id = answers now.2 id := by
    rw [answers_append, hvain.unanswered, List.append_nil]
  have hlater := worksOn_run contents nextId front (rest ++ (wait ++ [.withdraw id r]))
  have hearlier := worksOn_run contents nextId front rest hlive hquiet
  have hcopy := hworks.commit.symm.trans hearlier.2.1.commit
  dsimp only at hlater
  rw [hrun] at hlater
  dsimp only at hlater
  have hlater := hlater (by rw [hsame]; exact hlive)
    (by rw [commits_append, hquiet, hwait]; rfl)
  rw [hlog] at hlater
  rw [hcopy]
  exact hlater.2.1

/-- The commit of a live transaction changes the cells for which its log has buffered something, and
each to what was buffered last. -/
theorem Backs.find?_commit {snapshot : Contents} {log : List Answered}
    (h : s.Backs id snapshot log tx) (cell : Cell) :
    (s.commit id).committed.find? cell =
      ((log.filterMap Answered.buffered?).lookup cell).getD (s.committed.find? cell) := by
  rw [committed_commit h.live, Contents.find?_apply, h.replays.find?_changes_eq]

end Store

/-! ## Dictionaries of other stores -/

/-- A request on a dictionary of another store than that of the transaction is an attempt and then a
failure. -/
theorem Operation.run_ask_of_ne {store : String} {tx : Ticket} (h : tx.store ≠ store)
    (r : Request) :
    (ask store tx r).run = .call (.attempt store r.kind) fun failure =>
      .done (.error (.store (failure.elim (.foreign tx.id) .planned))) := by
  rw [ask]
  simp only [if_pos h]
  refine congrArg (Program.call (.attempt store r.kind)) (funext fun failure => ?_)
  cases failure with
  | none => rfl
  | some message => rfl

/-- It fails because the dictionary is of another store, unless the call was planned to fail, and it
leaves every store as it is. -/
theorem World.run_ask_foreign (w : World) (me : Context) {store : String} {tx : Ticket}
    (h : tx.store ≠ store) (r : Request) :
    let after := w.run me (Operation.ask store tx r).run
    (∃ fault, after.2.2 = .done (.error (.store fault)) ∧
      (fault = .foreign tx.id ∨ ∃ message, fault = .planned message)) ∧
    ∀ name s, w.store? name = some s → after.1.store? name = some s := by
  intro after
  -- Every fault of the outside is an answer, so the request is answered without reaching a store.
  have hreply : ∃ failure, (w.perform me (.attempt store r.kind)).2.2 = some failure := by
    rw [perform]
    dsimp only
    split
    · exact ⟨none, rfl⟩
    · exact ⟨_, rfl⟩
  obtain ⟨failure, hfailure⟩ := hreply
  have hafter : after = ((w.perform me (.attempt store r.kind)).1,
      (w.perform me (.attempt store r.kind)).2.1,
      .done (.error (.store (failure.elim (.foreign tx.id) .planned)))) := by
    show w.run me (Operation.ask store tx r).run = _
    rw [Operation.run_ask_of_ne h, World.run]
    generalize w.perform me (.attempt store r.kind) = answer at hfailure ⊢
    obtain ⟨w', me', reply⟩ := answer
    obtain rfl : reply = some failure := hfailure
    rfl
  rw [hafter]
  refine ⟨⟨_, rfl, ?_⟩, fun name s hs => store?_perform hs trivial⟩
  cases failure with
  | none => exact .inl rfl
  | some message => exact .inr ⟨message, rfl⟩

/-! ## The theorem -/

namespace Store

/-- **A transaction is a private map that a commit installs.** Take a transaction that begins at any
moment of any run and is live still, whatever it and others have done. While nobody has committed
since, its answers are those of a copy of what was committed when it began, and from here on it
works on this copy. A request that it waits for in vain and withdraws, or makes of a dictionary of
another store, fails and changes neither the copy nor the transaction with its buffer, nor the locks
that it holds. And whoever else has committed, its own commit changes exactly the cells for which it
has buffered something, each to what it has buffered last. -/
theorem private_map (contents : Contents) (nextId : TransactionId) (front rest : List Move) :
    let before := ((resting contents nextId).run front).1
    let id := before.nextId
    let now := before.run (.begin :: rest)
    let log := answers now.2 id
    let copy := before.committed.performAll (log.map Sigma.fst)
    (now.1.live.find? id).isSome = true →
      (commits now.2 = [] → copy.2 = log ∧ now.1.WorksOn id copy.1 ∧
        now.1.committed = before.committed) ∧
      (∀ r wait, now.1.WaitsInVain id r wait → ((now.1.run wait).1.ask id r).2 = none →
        let failed := (now.1.run wait).1.withdraw id r
        failed.live.find? id = now.1.live.find? id ∧
          ((∀ cell, ¬ now.1.locks.Queues id cell) →
            ∀ cell, failed.locks.holds id cell = now.1.locks.holds id cell) ∧
          (commits now.2 = [] → commits (now.1.run wait).2 = [] → failed.WorksOn id copy.1)) ∧
      (∀ (w : World) (me : Context) (name store : String) (r : Request), name ≠ store →
        let after := w.run me (Operation.ask store ⟨name, id⟩ r).run
        (∃ fault, after.2.2 = .done (.error (.store fault)) ∧
          (fault = .foreign id ∨ ∃ message, fault = .planned message)) ∧
        (w.store? name = some now.1 → after.1.store? name = some now.1)) ∧
      ∀ cell, (now.1.commit id).committed.find? cell =
        ((log.filterMap Answered.buffered?).reverse.lookup cell).getD
          (now.1.committed.find? cell) := by
  -- The transaction is the one that `begin` made, and its copy goes along with it.
  intro before id now log copy hlive
  obtain ⟨tx, htx⟩ := Option.isSome_iff_exists.1 hlive
  have hbacks := exists_backs_of_begin contents nextId front rest tx htx
  have hcopy := worksOn_run contents nextId front rest hlive
  have hlt : id < now.1.nextId := by
    have hnow : now.1 = (before.begin.2.run rest).1 :=
      congrArg Prod.fst (run_append before [.begin] rest)
    rw [hnow]
    exact nextId_le_run before.begin.2 rest
  -- The copy; a wait that is given up; a request on a foreign store; what a commit leaves.
  refine ⟨hcopy, fun r wait hvain hlast => ?_, fun w me name store r hne => ?_, fun cell => ?_⟩
  · obtain ⟨hsame, hlocks⟩ := hvain.withdraw htx hlt hlast
    have hsame := hsame.trans htx.symm
    exact ⟨hsame, hlocks, fun hquiet hwait =>
      worksOn_of_waitsInVain contents nextId front rest hlive hvain hsame hquiet hwait
        (hcopy hquiet).2.1⟩
  · have hforeign : (⟨name, id⟩ : Ticket).store ≠ store := hne
    obtain ⟨hfails, hstores⟩ := w.run_ask_foreign me hforeign r
    exact ⟨hfails, hstores name now.1⟩
  · rw [← List.filterMap_reverse]
    exact hbacks.find?_commit cell

/-! ## A transaction that changes its mind -/

namespace Sample

/-- While another transaction holds the lock of one cell, a transaction removes a cell and adds it
again, adds one and removes it again, and waits in vain for the lock of the other. -/
def undecidedMoves : List Move :=
  [.ask 1 (.set filled [2]), .ask 2 (.remove removed), .ask 2 (.add removed [5]),
    .ask 2 (.add added [4]), .ask 2 (.remove added), .ask 2 (.readLocked filled),
    .withdraw 2 (.readLocked filled), .ask 2 (.remove added), .ask 2 (.scan "d")]

end Sample

/-- It sees the one cell with its new value, and its commit leaves just that. -/
theorem private_map_undecidedMoves :
    let before := ((resting Sample.contents 1).run [.begin]).1
    let id := before.nextId
    let now := before.run (.begin :: Sample.undecidedMoves)
    (now.1.live.find? id).isSome = true ∧ commits now.2 = [] ∧
      answers now.2 id = [⟨.remove Sample.removed, some [1]⟩, ⟨.add Sample.removed [5], true⟩,
        ⟨.add Sample.added [4], true⟩, ⟨.remove Sample.added, some [4]⟩,
        ⟨.remove Sample.added, none⟩, ⟨.scan "d", [("a", [5])]⟩] ∧
      (now.1.commit id).committed.rows "d" = [("a", [5])] ∧
      (now.1.commit id).committed =
        (before.committed.performAll ((answers now.2 id).map Sigma.fst)).1 := by
  have hlive : ((((resting Sample.contents 1).run [.begin]).1.run
      (.begin :: Sample.undecidedMoves)).1.live.find?
        ((resting Sample.contents 1).run [.begin]).1.nextId).isSome = true := by decide +kernel
  have hquiet : commits (((resting Sample.contents 1).run [.begin]).1.run
      (.begin :: Sample.undecidedMoves)).2 = [] := by decide +kernel
  obtain ⟨hcopy, -, -, -⟩ := private_map Sample.contents 1 [.begin] Sample.undecidedMoves hlive
  exact ⟨hlive, hquiet, rfl, by decide +kernel, (hcopy hquiet).2.1.commit⟩

end Store

end Muster
