import Muster.Proofs.Store.Discipline
import Muster.Proofs.Store.Handover
import Muster.Proofs.Store.Run

/-!
# A store in use and a store of moves

A store in use, with its mutexes and its many steps, is a store that makes moves, of which the ones
about locks come in parts (`Part`): a request enters the line before it asks, and it may let go of
the lock at any moment. Every step of a transaction is such a part or shows nothing (`Step.part?`);
above all a commit is one move, at the moment when it makes its changes, although the guards are
given back only later and one by one (`Sound.makes_part`). So every run is a run of parts
(`Sound.run_parts`). Where nothing comes between them, the parts are again the moves
(`ask_of_request`, `withdraw_eq_letGo`).
-/

namespace Muster

namespace Locks

variable {locks : Locks} {id : TransactionId} {cell : Cell}

/-- A lock that a transaction holds is not requested again. -/
theorem request_of_holds (h : locks.holds id cell = true) : locks.request id cell = locks := by
  obtain ⟨lock, hlock, hholder⟩ := holds_iff.1 h
  rw [request, hlock]
  dsimp only
  rw [if_pos hholder]

/-- A second request changes nothing. -/
theorem request_request (locks : Locks) (id : TransactionId) (cell : Cell) :
    (locks.request id cell).request id cell = locks.request id cell := by
  have hagain : ∀ {lock : Lock}, (lock.queue id).holder ≠ id →
      request (SortedMap.insert locks cell (lock.queue id)) id cell =
        SortedMap.insert locks cell (lock.queue id) := by
    intro lock hholder
    -- It stands in the queue, and does not enter it twice.
    have hqueue : (lock.queue id).queue id = lock.queue id := by
      have hmem : id ∈ (lock.queue id).waiting := by
        rw [Lock.queue]
        split
        · assumption
        · simp
      rw [Lock.queue, if_pos hmem]
    rw [request, SortedMap.find?_insert_self]
    dsimp only
    rw [if_neg hholder, hqueue]
    refine SortedMap.ext_find? fun cell' => ?_
    rw [SortedMap.find?_insert, SortedMap.find?_insert]
    split
    · rfl
    · rfl
  cases hfind : locks.find? cell with
  | none =>
    have htaken : (locks.request id cell).holds id cell = true := by
      rw [holds_iff, request, hfind]
      exact ⟨_, SortedMap.find?_insert_self .., rfl⟩
    exact request_of_holds htaken
  | some lock =>
    by_cases hholder : lock.holder = id
    · have hsame : locks.request id cell = locks :=
        request_of_holds (holds_iff.2 ⟨lock, hfind, hholder⟩)
      rw [hsame, hsame]
    · have hqueue : locks.request id cell = SortedMap.insert locks cell (lock.queue id) := by
        rw [request, hfind]
        dsimp only
        rw [if_neg hholder]
      rw [hqueue]
      exact hagain (by rwa [holder_queue])

/-- One that does not hold a lock only waits no longer when it lets go. -/
theorem letGo_of_not_holds (hnot : locks.holds id cell = false) :
    locks.letGo id cell = locks.withdraw id cell := by
  refine SortedMap.ext_find? fun cell' => ?_
  rw [find?_letGo, withdraw]
  cases hlock : locks.find? cell with
  | none =>
    split
    · rename_i hcell
      rw [hcell, hlock]
      rfl
    · rfl
  | some lock =>
    -- The holder is not `id`, so taking `id` out of the line takes it out of the queue.
    have hholder : lock.holder ≠ id := by
      intro hholder
      rw [holds_iff.2 ⟨lock, hlock, hholder⟩] at hnot
      exact absurd hnot (by simp)
    dsimp only
    rw [SortedMap.find?_insert, Option.bind_some, List.filter_cons_of_pos (by simp [hholder])]
    rfl

end Locks

namespace Store

/-- A part of a move, or a whole one. -/
inductive Part
  /-- A whole move. -/
  | move (move : Move)
  /-- A transaction requests a lock. -/
  | request (id : TransactionId) (cell : Cell)
  /-- A transaction lets go of a lock, be it that it waits for it or that it has been handed it. -/
  | letGo (id : TransactionId) (cell : Cell)

/-- A store with what its transactions were told, the last first. -/
abbrev Face := Store × List (TransactionId × Answered)

/-- What is told by a move. -/
def tells (s : Store) : Move → List (TransactionId × Answered)
  | .ask id r =>
    match (s.ask id r).2 with
    | some reply => [(id, ⟨r, reply⟩)]
    | none => []
  | _ => []

/-- The store after a part of a move, with what was told. -/
def Face.take (face : Face) : Part → Face
  | .move move => (face.1.after move, face.1.tells move ++ face.2)
  | .request id cell => ({ face.1 with locks := face.1.locks.request id cell }, face.2)
  | .letGo id cell => ({ face.1 with locks := face.1.locks.letGo id cell }, face.2)

/-- The part of a move that a step is, if it shows at all. -/
def Step.part? (id : TransactionId) (phase : Phase) : Step → Option Part
  | .ask r =>
    match r.lock? with
    | none => some (.move (.ask id r))
    | some _ => none
  | .poll =>
    match phase with
    | .cloned _ cell _ => some (.request id cell)
    | _ => none
  | .perform => phase.request?.map fun r => .move (.ask id r)
  | .timeOut => phase.wanted?.map fun cell => .letGo id cell
  | .giveUp => phase.wanted?.map fun cell => .letGo id cell
  | .drop => none
  | .prune => none
  | .publish => some (.move (.commit id))
  | .close => some (.move (.discard id))
  | .release _ => none
  | .finish => none

/-! ## Parts that make a move -/

section Parts

variable {s : Store} {id : TransactionId} {tx : Transaction} {r : Request} {cell : Cell}

/-- To ask for something is first to request its lock. -/
theorem ask_of_request (hlive : s.live.find? id = some tx) (hlock : r.lock? = some cell) :
    Store.ask { s with locks := s.locks.request id cell } id r = s.ask id r := by
  rw [Store.ask, Store.ask, hlive, hlock]
  dsimp only
  rw [Locks.request_request]

/-- To wait no longer is to let go of a lock that has not been handed over. -/
theorem withdraw_eq_letGo (hlock : r.lock? = some cell)
    (hnot : s.locks.holds id cell = false) :
    s.withdraw id r = { s with locks := s.locks.letGo id cell } := by
  rw [Store.withdraw, hlock, Locks.letGo_of_not_holds hnot]

end Parts

namespace Usage

variable {u u' : Usage} {id id' : TransactionId} {p p' : Party} {cell : Cell} {mutex : MutexId}
  {r : Request} {step : Step}

/-! ## What shows of a store in use -/

/-- What shows of a store in use. -/
def face (u : Usage) : Face :=
  (u.store, u.told)

/-- A live transaction of the store is one that has not come to its end. -/
theorem find?_live_store (u : Usage) (id : TransactionId) : u.store.live.find? id =
    (u.parties.find? id).bind fun p => if p.standing = .active then some p.tx else none :=
  SortedMap.find?_filterMap ..

/-- It is live there. -/
theorem find?_live_of_active (hp : u.parties.find? id = some p) (hactive : p.standing = .active) :
    u.store.live.find? id = some p.tx := by
  rw [find?_live_store, hp, Option.bind_some, if_pos hactive]

/-- Whether a transaction counts. -/
theorem isActive_of_find? (hp : u.parties.find? id = some p) :
    u.isActive id = decide (p.standing = .active) := by
  rw [isActive, hp]

/-- Where one transaction has changed, but has come to its end no more than before, the same ones
count. -/
theorem isActive_insert (hp : u.parties.find? id = some p) (hu : u'.parties = u.parties.insert id p')
    (hstanding : p'.standing = p.standing) : u'.isActive = u.isActive := by
  funext id'
  rw [isActive, hu]
  by_cases hid : id' = id
  · rw [hid, SortedMap.find?_insert_self, isActive_of_find? hp, ← hstanding]
  · rw [SortedMap.find?_insert_of_ne _ _ hid, isActive]

/-- A store of moves is given by what is committed, by the live transactions and by the locks. -/
theorem store_eq {s : Store} (hcommitted : u.committed = s.committed)
    (hlive : ∀ id, u.store.live.find? id = s.live.find? id)
    (hlocks : u.mutexes.locks u.isActive = s.locks) (hnext : u.nextId = s.nextId) :
    u.store = s := by
  have hlive : u.store.live = s.live := SortedMap.ext_find? hlive
  obtain ⟨committed, live, locks, nextId⟩ := s
  obtain rfl : u.committed = committed := hcommitted
  obtain rfl : u.store.live = live := hlive
  obtain rfl : u.mutexes.locks u.isActive = locks := hlocks
  obtain rfl : u.nextId = nextId := hnext
  rfl

/-- Where the mutexes have changed, and what a transaction has of them, the store has changed in the
locks. -/
theorem store_put (hp : u.parties.find? id = some p) (table : MutexTable)
    (guards : SortedMap Cell MutexId) (phase : Phase) :
    (Usage.put { u with mutexes := table } id { p with guards, phase }).store =
      { u.store with locks := table.locks u.isActive } := by
  refine store_eq rfl (fun id' => ?_) ?_ rfl
  · rw [find?_live_store, find?_live_store, Usage.put]
    dsimp only
    by_cases hid : id' = id
    · rw [hid, SortedMap.find?_insert_self, hp, Option.bind_some, Option.bind_some]
    · rw [SortedMap.find?_insert_of_ne _ _ hid]
  · rw [isActive_insert hp (by rfl) (by rfl)]
    rfl

/-- Where the locks are the same, nothing shows. -/
theorem face_put (hp : u.parties.find? id = some p) {table : MutexTable}
    {guards : SortedMap Cell MutexId} {phase : Phase}
    (hlocks : table.locks u.isActive = u.mutexes.locks u.isActive) :
    (Usage.put { u with mutexes := table } id { p with guards, phase }).face = u.face := by
  rw [face, store_put hp, hlocks]
  rfl

/-! ## What shows of a step -/

/-- A request that is done has been asked for and told. -/
theorem face_answer (hp : u.parties.find? id = some p) (hactive : p.standing = .active)
    (hlock : ∀ cell, r.lock? = some cell → u.store.locks.holds id cell = true) :
    (u.answer id p r).face = u.face.take (.move (.ask id r)) := by
  obtain ⟨tx, htx⟩ : ∃ tx, (p.tx.perform u.committed r).1 = tx := ⟨_, rfl⟩
  -- The store grants the lock at once, since `id` has it, and answers with the same transaction.
  have hask : u.store.ask id r = ({ u.store with live := u.store.live.insert id tx },
      some (p.tx.perform u.committed r).2) := by
    rw [Store.ask, find?_live_of_active hp hactive, ← htx]
    dsimp only
    split
    · rfl
    · rename_i cell hcell
      rw [Locks.request_of_holds (hlock cell hcell), if_pos (hlock cell hcell)]
      rfl
  -- And the usage changes the same record: `id` alone, and nobody stops being active.
  have hstore : (u.answer id p r).store =
      { u.store with live := u.store.live.insert id tx } := by
    refine store_eq rfl (fun id' => ?_) ?_ rfl
    · rw [find?_live_store, SortedMap.find?_insert, find?_live_store, Usage.answer, Usage.put,
        ← htx]
      dsimp only
      split
      · rename_i hid
        rw [hid, SortedMap.find?_insert_self, Option.bind_some, if_pos hactive]
      · rename_i hid
        rw [SortedMap.find?_insert_of_ne _ _ hid]
    · rw [isActive_insert hp (by rfl) (by rfl)]
      rfl
  rw [face, hstore, Face.take, Store.after, tells, face, hask]
  rfl

/-- A transaction that comes to its end is live no longer, and its locks are released at once. -/
theorem Sound.store_ended (h : u.Sound) (hp : u.parties.find? id = some p)
    (hactive : p.standing = .active) (hidle : p.phase = .idle) {standing : Standing}
    (hending : standing ≠ .active) (committed : Contents) :
    store { u.put id { p with standing } with committed } =
      Store.discard { u.store with committed } id := by
  have hdiscard : Store.discard { u.store with committed } id =
      ⟨committed, u.store.live.erase id, u.store.locks.release id, u.nextId⟩ := by
    rw [Store.discard]
    dsimp only
    rw [find?_live_of_active hp hactive]
    rfl
  rw [hdiscard]
  refine store_eq rfl (fun id' => ?_) ?_ rfl
  · rw [find?_live_store, SortedMap.find?_erase, find?_live_store, Usage.put]
    dsimp only
    split
    · rename_i hid
      rw [hid, SortedMap.find?_insert_self, Option.bind_some, if_neg hending]
    · rename_i hid
      rw [SortedMap.find?_insert_of_ne _ _ hid]
  · have hcounts : isActive { u.put id { p with standing } with committed } =
        fun id' => u.isActive id' && id' ≠ id := by
      funext id'
      rw [isActive, Usage.put]
      dsimp only
      by_cases hid : id' = id
      · simp [hid, hending]
      · simp [SortedMap.find?_insert_of_ne _ _ hid, isActive, hid]
    rw [hcounts]
    -- A transaction with nothing to do has guards only.
    refine h.serves.locks_release (fun cell mutex grip hgrip => ?_) ?_
    · rw [gripsOf_of_find? hp] at hgrip
      rcases Party.guard_of_grip? hgrip with ⟨-, hguard⟩ | ⟨-, hphase⟩
      · exact hguard
      · rw [hidle] at hphase
        exact absurd hphase (by simp [Phase.grip?])
    · rw [isActive_of_find? hp, hactive]
      rfl

/-- A transaction that has a guard holds the lock of its cell, until it comes to its end. -/
theorem Sound.holds_of_guard (h : u.Sound) (hp : u.parties.find? id = some p)
    (hactive : p.standing = .active) (hguard : p.guards.find? cell = some mutex) :
    u.store.locks.holds id cell = true := by
  have hgrip := (gripsOf_of_find? hp cell).trans (Party.grip?_of_guard hguard)
  refine h.serves.holds_of_guard hgrip ?_
  rw [isActive_of_find? hp, hactive]
  rfl

/-- Of a request that is polled the locks show that there are then. -/
theorem face_await (hp : u.parties.find? id = some p) (table : MutexTable) :
    (await { u with mutexes := table } id p r cell mutex).face =
      ({ u.store with locks := table.locks u.isActive }, u.told) := by
  rw [Usage.await]
  split
  · exact congrArg (·, u.told) (store_put hp table _ _)
  · exact congrArg (·, u.told) (store_put hp table _ _)

/-- Nothing shows of the rest of an end. -/
theorem face_finish (hp : u.parties.find? id = some p) (hending : p.standing ≠ .active) :
    face { u with parties := u.parties.erase id } = u.face := by
  -- Only the active ones are seen from above, and `id` is not one of them any more.
  refine congrArg (·, u.told) (store_eq rfl (fun id' => ?_) ?_ rfl)
  · rw [find?_live_store, find?_live_store]
    dsimp only
    by_cases hid : id' = id
    · rw [hid, SortedMap.find?_erase_self, hp, Option.bind_some, if_neg hending]
      rfl
    · rw [SortedMap.find?_erase_of_ne _ hid]
  · have hcounts : isActive { u with parties := u.parties.erase id } = u.isActive := by
      funext id'
      rw [isActive]
      dsimp only
      by_cases hid : id' = id
      · rw [hid, SortedMap.find?_erase_self, isActive_of_find? hp]
        simp [hending]
      · rw [SortedMap.find?_erase_of_ne _ hid, isActive]
    rw [hcounts]
    rfl

/-- A transaction that begins is a new live one. -/
theorem Sound.face_begin (h : u.Sound) : u.begin.face = u.face.take (.move .begin) := by
  refine congrArg (·, u.told) (store_eq rfl (fun id => ?_) ?_ rfl)
  · show _ = (u.store.live.insert u.nextId (.begin u.committed)).find? id
    rw [SortedMap.find?_insert, find?_live_store, find?_live_store, Usage.begin, Usage.put]
    dsimp only
    split
    · rename_i hid
      rw [hid, SortedMap.find?_insert_self]
      rfl
    · rename_i hid
      rw [SortedMap.find?_insert_of_ne _ _ hid]
  · -- The new transaction stands in no line, so it does not matter that it counts.
    refine h.serves.locks_congr fun id cell hgrip => ?_
    have hne : id ≠ u.nextId := by
      rintro rfl
      obtain ⟨grip, hgrip⟩ := Option.ne_none_iff_exists'.1 hgrip
      obtain ⟨p, hp, -⟩ := Option.bind_eq_some_iff.1 hgrip
      exact Nat.lt_irrefl _ (h.begun hp)
    rw [isActive, isActive, Usage.begin, Usage.put]
    dsimp only
    rw [SortedMap.find?_insert_of_ne _ _ hne]

/-! ## Every step is a part -/

/-- **What shows of a step is the part of a move that it is.** -/
theorem Sound.makes_part (h : u.Sound) (hp : u.parties.find? id = some p)
    (hu : u.Makes id p step u') :
    u'.face = (step.part? id p.phase).elim u.face u.face.take := by
  have hleave : ∀ {r cell mutex}, p.phase = .cloned r cell mutex ∨
      p.phase = .queued r cell mutex → ∀ isPruning,
      (u.leave id p cell mutex isPruning).face =
        (p.phase.wanted?.map fun cell => Part.letGo id cell).elim u.face u.face.take := by
    intro r cell mutex hphase isPruning
    have hwanted : p.phase.wanted? = some cell := by
      rcases hphase with hphase | hphase
      · rw [hphase]
        rfl
      · rw [hphase]
        rfl
    obtain ⟨grip, hgrip⟩ := h.grip_of_waiting hp hphase
    rw [hwanted]
    refine congrArg (·, u.told) ((store_put hp _ _ _).trans ?_)
    rw [h.serves.locks_leave hgrip]
    rfl
  cases hu with
  | @read r active idle lock =>
    rw [Step.part?, lock]
    exact face_answer hp active fun cell hcell => absurd (lock.symm.trans hcell) (by simp)
  | again active idle lock guard =>
    rw [Step.part?, lock]
    exact face_put hp rfl
  | @share r cell active idle lock guard =>
    rw [Step.part?, lock]
    exact face_put hp (h.serves.locks_share cell)
  | @enter r cell mutex phase =>
    rw [phase]
    obtain ⟨hactive, -, hnone, -⟩ := h.waiting hp (.inl phase)
    have hclone := (gripsOf_of_find? hp cell).trans
      (Party.grip?_of_phase hnone (by rw [phase]; rfl))
    have hcounts : u.isActive id = true := by
      rw [isActive_of_find? hp, hactive]
      rfl
    refine (face_await hp _).trans ?_
    rw [h.serves.locks_enter hclone hcounts]
    rfl
  | await phase =>
    rw [phase]
    exact face_await hp u.mutexes
  | @perform r phase =>
    rw [Step.part?, phase]
    have hactive := (h.fits hp).active (by rw [phase]; rfl)
    obtain ⟨cell, mutex, hlock, hguard⟩ := (h.fits hp).ready phase
    refine face_answer hp hactive fun cell' hcell => ?_
    rw [← Option.some.inj (hlock.symm.trans hcell)]
    exact h.holds_of_guard hp hactive hguard
  | timeOut phase => exact hleave phase true
  | giveUp phase => exact hleave phase false
  | forget phase =>
    rw [Step.part?, phase]
    exact face_put hp rfl
  | @drop cell mutex isPruning phase =>
    have hgrip : p.phase.grip? = some (cell, mutex, .clone) := by
      rw [phase]
      rfl
    have hclone := (gripsOf_of_find? hp cell).trans
      (Party.grip?_of_phase ((h.fits hp).apart hgrip) hgrip)
    exact face_put hp (h.serves.locks_unshare hclone)
  | prune phase => exact face_put hp (h.serves.locks_prune _)
  | publish active idle =>
    have hcommit := commit_of_live (find?_live_of_active hp active)
    exact congrArg (·, u.told) ((h.store_ended hp active idle (by simp) _).trans hcommit.symm)
  | close active idle =>
    exact congrArg (·, u.told) (h.store_ended hp active idle (by simp) u.committed)
  | @release cell mutex ending idle guard =>
    -- It does not count any more, and leaves a lock that it has let go of before.
    have hguard := (gripsOf_of_find? hp cell).trans (Party.grip?_of_guard guard)
    refine face_put hp ?_
    rw [h.serves.locks_leave hguard]
    refine MutexTable.letGo_locks_of_not_counts ?_ cell
    rw [isActive_of_find? hp]
    simpa using ending
  | finish ending idle guards => exact face_finish hp ending

/-! ## Every run is one of parts -/

/-- The part of a move that an incident is, if it can happen and shows at all. -/
def part? (u : Usage) : Incident → Option Part
  | .begin => some (.move .begin)
  | .does id step =>
    (u.parties.find? id).bind fun p => (u.act id p step).bind fun _ => step.part? id p.phase

/-- The parts of moves that incidents are. -/
def parts (u : Usage) : List Incident → List Part
  | [] => []
  | incident :: rest => (u.part? incident).toList ++ (u.after incident).parts rest

/-- What shows of an incident is the part of a move that it is. -/
theorem Sound.after_part (h : u.Sound) (incident : Incident) :
    (u.after incident).face = (u.part? incident).toList.foldl Face.take u.face := by
  cases incident with
  -- An incident of nobody, or one that its guard refuses, is a part of nothing and changes nothing.
  | begin => exact h.face_begin
  | does id step =>
    rw [Usage.after, Usage.step, part?]
    cases hp : u.parties.find? id with
    | none => rfl
    | some p =>
      rw [Option.bind_some]
      dsimp only
      cases hact : u.act id p step with
      | none => rfl
      | some u' =>
        rw [Option.bind_some, Option.getD_some, h.makes_part hp (makes_of_act hact)]
        cases step.part? id p.phase with
        | none => rfl
        | some part => rfl

/-- **Every run of a store in use is a run of parts of moves.** In whatever order the steps of
transactions come, what is committed, what the transactions have read and written, who holds which
lock and who waits for it, and what was told, are what the parts make of them. -/
theorem Sound.run_parts (h : u.Sound) (incidents : List Incident) :
    (u.run incidents).face = (u.parts incidents).foldl Face.take u.face := by
  induction incidents generalizing u with
  | nil => rfl
  | cons incident rest ih =>
    rw [parts, List.foldl_append, ← h.after_part incident]
    exact ih (h.after incident)

/-- Above all a store that nobody has used before is one of moves at rest. -/
theorem run_rest_parts (contents : Contents) (nextId : TransactionId)
    (incidents : List Incident) :
    ((rest contents nextId).run incidents).face =
      ((rest contents nextId).parts incidents).foldl Face.take (resting contents nextId, []) :=
  (sound_rest contents nextId).run_parts incidents

end Usage

end Store

end Muster
