import Muster.Proofs.Store.Parties

/-!
# The discipline of locks

Whatever happens in a store in use, and in whatever order, its locks keep their discipline
(`Usage.Sound`). It has two halves. The mutexes serve the grips that the transactions have
(`MutexTable.Serves`), which is about all of them at once. And every transaction fits the store
(`Party.Fits`): it has the guards of all cells that it has buffered a write of until it ends, and
as long as it has a guard behind its commit, the write shows in what is committed. A step changes
one transaction and what it has of one mutex (`Sound.put`), so each kind of step is one case
(`Sound.makes`), and every run follows (`Sound.run`).
-/

namespace Muster.Store

namespace Usage

variable {u u' : Usage} {id id' : TransactionId} {p p' : Party} {cell cell' : Cell}
  {mutex : MutexId} {r : Request} {step : Step}

/-! ## The discipline -/

/-- A transaction was answered a request that locks a cell, whatever the answer was. -/
def Locked (u : Usage) (id : TransactionId) (cell : Cell) : Prop :=
  ∃ a, (id, a) ∈ u.told ∧ a.1.lock? = some cell

/-- The discipline of locks at a moment. -/
structure Sound (u : Usage) : Prop where
  /-- Transactions that have not ended have begun. -/
  begun : ∀ {id p}, u.parties.find? id = some p → id < u.nextId
  /-- So have those that were answered. -/
  fresh : ∀ {id a}, (id, a) ∈ u.told → id < u.nextId
  /-- The mutexes serve the grips of the transactions. -/
  serves : u.mutexes.Serves (gripsOf u.parties)
  /-- Every transaction fits the store. -/
  fits : ∀ {id p}, u.parties.find? id = some p → p.Fits u.committed
  /-- Until it is about to end it has the guards of all cells of which it was answered a request
  that locks them. -/
  kept : ∀ {id p cell}, u.parties.find? id = some p → p.standing = .active → u.Locked id cell →
    ∃ mutex, p.guards.find? cell = some mutex

/-- At first nobody has anything. -/
theorem sound_rest (contents : Contents) (nextId : TransactionId) :
    (rest contents nextId).Sound where
  begun h := absurd h (by simp [rest])
  fresh h := absurd h (by simp [rest])
  serves := MutexTable.serves_empty fun id cell => by simp [gripsOf, rest]
  fits h := absurd h (by simp [rest])
  kept h := absurd h (by simp [rest])

/-- **A cell has one guard.** -/
theorem Sound.guard_unique (h : u.Sound) (hp : u.parties.find? id = some p)
    (hp' : u.parties.find? id' = some p') {mutex' : MutexId}
    (hguard : p.guards.find? cell = some mutex) (hguard' : p'.guards.find? cell = some mutex') :
    id = id' := by
  have hgrip := (gripsOf_of_find? hp cell).trans (Party.grip?_of_guard hguard)
  have hgrip' := (gripsOf_of_find? hp' cell).trans (Party.grip?_of_guard hguard')
  exact h.serves.guard_unique hgrip hgrip'

/-! ## One transaction changes -/

/-- **What a step has to keep.** It changes one transaction, what this one was told, and the table
of mutexes. -/
theorem Sound.put (h : u.Sound) (hp : u.parties.find? id = some p) {table : MutexTable}
    {told : List (TransactionId × Answered)}
    (hserves : table.Serves (gripsOf (u.parties.insert id p'))) (hfits : p'.Fits u.committed)
    (htold : ∀ id' a, (id', a) ∈ told → (id', a) ∈ u.told ∨ id' = id)
    (hkept : p'.standing = .active → ∀ a, (id, a) ∈ told → ∀ cell, a.1.lock? = some cell →
      ∃ mutex, p'.guards.find? cell = some mutex) :
    Sound ⟨u.committed, table, u.parties.insert id p', u.nextId, told⟩ where
  -- Each clause is asked about `id` and about another party; the other one is as it was.
  begun hfind := by
    rcases SortedMap.find?_insert_cases hfind with ⟨rfl, -⟩ | ⟨-, hold⟩
    · exact h.begun hp
    · exact h.begun hold
  fresh ha := by
    rcases htold _ _ ha with hold | rfl
    · exact h.fresh hold
    · exact h.begun hp
  serves := hserves
  fits hfind := by
    rcases SortedMap.find?_insert_cases hfind with ⟨-, rfl⟩ | ⟨-, hold⟩
    · exact hfits
    · exact h.fits hold
  kept hfind hactive hlocked := by
    -- An answer to `id` comes with its guard (`hkept`); what was told to others was told before.
    obtain ⟨a, ha, hlock⟩ := hlocked
    rcases SortedMap.find?_insert_cases hfind with ⟨rfl, rfl⟩ | ⟨hne, hold⟩
    · exact hkept hactive a ha _ hlock
    · have hwas := (htold _ _ ha).resolve_right hne
      exact h.kept hold hactive ⟨a, hwas, hlock⟩

/-! ## What a step does -/

/-- The steps that a transaction can make, one case for each way in which it can go on. -/
inductive Makes (u : Usage) (id : TransactionId) (p : Party) : Step → Usage → Prop
  /-- A request that locks nothing is done at once. -/
  | read {r : Request} (active : p.standing = .active) (idle : p.phase = .idle)
      (lock : r.lock? = none) : Makes u id p (.ask r) (u.answer id p r)
  /-- A request of a cell whose guard the transaction has goes on with it. -/
  | again {r : Request} {cell : Cell} {mutex : MutexId} (active : p.standing = .active)
      (idle : p.phase = .idle) (lock : r.lock? = some cell)
      (guard : p.guards.find? cell = some mutex) :
      Makes u id p (.ask r) (u.put id { p with phase := .locked r })
  /-- Another takes a reference to the mutex of its cell. -/
  | share {r : Request} {cell : Cell} (active : p.standing = .active) (idle : p.phase = .idle)
      (lock : r.lock? = some cell) (guard : p.guards.find? cell = none) :
      Makes u id p (.ask r) ({ u with mutexes := (u.mutexes.share cell).2 }.put id
        { p with phase := .cloned r cell (u.mutexes.share cell).1 })
  /-- Polled for the first time it enters the line. -/
  | enter {r : Request} {cell : Cell} {mutex : MutexId} (phase : p.phase = .cloned r cell mutex) :
      Makes u id p .poll (u.enter id p r cell mutex)
  /-- Polled again it sees whether it stands first. -/
  | await {r : Request} {cell : Cell} {mutex : MutexId} (phase : p.phase = .queued r cell mutex) :
      Makes u id p .poll (u.await id p r cell mutex)
  /-- With the lock it is done. -/
  | perform {r : Request} (phase : p.phase = .locked r) : Makes u id p .perform (u.answer id p r)
  /-- Or it leaves, because it has waited too long. -/
  | timeOut {r : Request} {cell : Cell} {mutex : MutexId}
      (phase : p.phase = .cloned r cell mutex ∨ p.phase = .queued r cell mutex) :
      Makes u id p .timeOut (u.leave id p cell mutex true)
  /-- Or it leaves, because it is dropped. -/
  | giveUp {r : Request} {cell : Cell} {mutex : MutexId}
      (phase : p.phase = .cloned r cell mutex ∨ p.phase = .queued r cell mutex) :
      Makes u id p .giveUp (u.leave id p cell mutex false)
  /-- If it is dropped when it has the lock, the guard stays with the transaction. -/
  | forget {r : Request} (phase : p.phase = .locked r) :
      Makes u id p .giveUp (u.put id { p with phase := .idle })
  /-- Behind that it drops its reference. -/
  | drop {cell : Cell} {mutex : MutexId} {isPruning : Bool}
      (phase : p.phase = .leaving cell mutex isPruning) :
      Makes u id p .drop (u.drop id p cell mutex isPruning)
  /-- And the table is pruned. -/
  | prune {cell : Cell} (phase : p.phase = .unpruned cell) :
      Makes u id p .prune (u.prune id p cell)
  /-- A commit makes the changes. -/
  | publish (active : p.standing = .active) (idle : p.phase = .idle) :
      Makes u id p .publish (u.publish id p)
  /-- Another end makes none. -/
  | close (active : p.standing = .active) (idle : p.phase = .idle) :
      Makes u id p .close (u.put id { p with standing := .ending false })
  /-- Then the guards are given back. -/
  | release {cell : Cell} {mutex : MutexId} (ending : p.standing ≠ .active)
      (idle : p.phase = .idle) (guard : p.guards.find? cell = some mutex) :
      Makes u id p (.release cell)
        (u.leave id { p with guards := p.guards.erase cell } cell mutex true)
  /-- And the transaction has ended. -/
  | finish (ending : p.standing ≠ .active) (idle : p.phase = .idle)
      (guards : p.guards.entries = []) :
      Makes u id p .finish { u with parties := u.parties.erase id }

/-- Every step is one of them. -/
theorem makes_of_act (h : u.act id p step = some u') : u.Makes id p step u' := by
  cases step with
  | ask r =>
    rw [act] at h
    split at h
    · rename_i hready
      obtain rfl := Option.some.inj h
      rw [ask]
      split
      · exact .read hready.1 hready.2 ‹_›
      · split
        · exact .again hready.1 hready.2 ‹_› ‹_›
        · exact .share hready.1 hready.2 ‹_› ‹_›
    · exact absurd h (by simp)
  | poll =>
    rw [act] at h
    split at h
    · obtain rfl := Option.some.inj h
      exact .enter ‹_›
    · obtain rfl := Option.some.inj h
      exact .await ‹_›
    · exact absurd h (by simp)
  | perform =>
    rw [act] at h
    split at h
    · obtain rfl := Option.some.inj h
      exact .perform ‹_›
    · exact absurd h (by simp)
  | timeOut =>
    rw [act] at h
    split at h
    · obtain rfl := Option.some.inj h
      exact .timeOut (.inl ‹_›)
    · obtain rfl := Option.some.inj h
      exact .timeOut (.inr ‹_›)
    · exact absurd h (by simp)
  | giveUp =>
    rw [act] at h
    split at h
    · obtain rfl := Option.some.inj h
      exact .giveUp (.inl ‹_›)
    · obtain rfl := Option.some.inj h
      exact .giveUp (.inr ‹_›)
    · obtain rfl := Option.some.inj h
      exact .forget ‹_›
    · exact absurd h (by simp)
  | drop =>
    rw [act] at h
    split at h
    · obtain rfl := Option.some.inj h
      exact .drop ‹_›
    · exact absurd h (by simp)
  | prune =>
    rw [act] at h
    split at h
    · obtain rfl := Option.some.inj h
      exact .prune ‹_›
    · exact absurd h (by simp)
  | publish =>
    rw [act] at h
    split at h
    · rename_i hready
      obtain rfl := Option.some.inj h
      exact .publish hready.1 hready.2
    · exact absurd h (by simp)
  | close =>
    rw [act] at h
    split at h
    · rename_i hready
      obtain rfl := Option.some.inj h
      exact .close hready.1 hready.2
    · exact absurd h (by simp)
  | release cell =>
    rw [act] at h
    split at h
    · rename_i hready
      split at h
      · obtain rfl := Option.some.inj h
        exact .release hready.1 hready.2 ‹_›
      · exact absurd h (by simp)
    · exact absurd h (by simp)
  | finish =>
    rw [act] at h
    split at h
    · rename_i hready
      obtain rfl := Option.some.inj h
      exact .finish hready.1 hready.2.1 hready.2.2
    · exact absurd h (by simp)

/-- What an incident that can happen is: a transaction begins, or one makes a step. -/
theorem step_cases {incident : Incident} (h : u.step incident = some u') :
    incident = .begin ∧ u' = u.begin ∨
      ∃ id p step, incident = .does id step ∧ u.parties.find? id = some p ∧
        u.Makes id p step u' := by
  cases incident with
  | begin => exact .inl ⟨rfl, (Option.some.inj h).symm⟩
  | does id step =>
    rw [Usage.step] at h
    split at h
    · rename_i p hp
      exact .inr ⟨id, p, step, rfl, hp, makes_of_act h⟩
    · exact absurd h (by simp)

/-! ## Every step keeps the discipline -/

/-- What a transaction was told before binds it still. -/
theorem Sound.kept_told (h : u.Sound) (hp : u.parties.find? id = some p)
    (hactive : p.standing = .active) (a : Answered) (ha : (id, a) ∈ u.told) (cell : Cell)
    (hlock : a.1.lock? = some cell) : ∃ mutex, p.guards.find? cell = some mutex :=
  h.kept hp hactive ⟨a, ha, hlock⟩

/-- Only the phase of a transaction changes, and not what it has. -/
theorem Sound.put_phase (h : u.Sound) (hp : u.parties.find? id = some p) {phase : Phase}
    (hgrip : phase.grip? = p.phase.grip?)
    (hfits : Party.Fits { p with phase } u.committed) : (u.put id { p with phase }).Sound := by
  refine h.put hp ?_ hfits (fun _ _ ha => .inl ha) fun hactive => h.kept_told (p := p) hp hactive
  exact h.serves.congr (gripsOf_insert hp rfl hgrip)

/-- A request is done for which the transaction has the guard. -/
theorem Sound.answer (h : u.Sound) (hp : u.parties.find? id = some p)
    (hgrip : p.phase.grip? = none) (hactive : p.standing = .active)
    (hguard : ∀ cell, r.lock? = some cell → ∃ mutex, p.guards.find? cell = some mutex) :
    (u.answer id p r).Sound := by
  refine h.put hp ?_ ((h.fits hp).perform hactive hguard) (fun id' a ha => ?_)
    fun _ a ha cell hlock => ?_
  -- The answer moves no reference, so the mutexes serve the same grips.
  · exact h.serves.congr (gripsOf_insert hp rfl (by rw [hgrip]; rfl))
  · rcases List.mem_cons.1 ha with heq | ha
    · exact .inr (Prod.mk.inj heq).1
    · exact .inl ha
  · rcases List.mem_cons.1 ha with heq | ha
    · obtain rfl := (Prod.mk.inj heq).2
      exact hguard cell hlock
    · exact h.kept_told hp hactive a ha cell hlock

/-- A request of a cell that the transaction has not locked takes a reference. -/
theorem Sound.share (h : u.Sound) (hp : u.parties.find? id = some p)
    (hactive : p.standing = .active) (hidle : p.phase = .idle) (hlock : r.lock? = some cell)
    (hnone : p.guards.find? cell = none) :
    ({ u with mutexes := (u.mutexes.share cell).2 }.put id
      { p with phase := .cloned r cell (u.mutexes.share cell).1 }).Sound := by
  have hquiet : p.phase.grip? = none := by
    rw [hidle]
    rfl
  refine h.put hp ?_ ((h.fits hp).waiting hactive hlock hnone (.inl rfl)) (fun _ _ ha => .inl ha)
    fun _ => h.kept_told (p := p) hp hactive
  have hfree := (gripsOf_of_find? hp cell).trans (Party.grip?_of_none hnone hquiet)
  exact h.serves.share hfree (turns_insert hp (Phase.isAt_of_none hquiet cell)
    (Phase.isAt_of_some rfl) (fun _ _ => rfl) (Party.grip?_of_phase hnone rfl))

/-- A request that waits, with its cell. -/
theorem Sound.waiting (h : u.Sound) (hp : u.parties.find? id = some p)
    (hphase : p.phase = .cloned r cell mutex ∨ p.phase = .queued r cell mutex) :
    p.standing = .active ∧ r.lock? = some cell ∧ p.guards.find? cell = none ∧
      p.phase.IsAt cell := by
  have hfits := h.fits hp
  rcases hphase with hphase | hphase
  · exact ⟨hfits.active (by rw [hphase]; rfl), hfits.asked (by rw [hphase]; rfl)
      (by rw [hphase]; rfl), hfits.apart (by rw [hphase]; rfl),
      Phase.isAt_of_some (by rw [hphase]; rfl)⟩
  · exact ⟨hfits.active (by rw [hphase]; rfl), hfits.asked (by rw [hphase]; rfl)
      (by rw [hphase]; rfl), hfits.apart (by rw [hphase]; rfl),
      Phase.isAt_of_some (by rw [hphase]; rfl)⟩

/-- It has a grip on the mutex that it waits for. -/
theorem Sound.grip_of_waiting (h : u.Sound) (hp : u.parties.find? id = some p)
    (hphase : p.phase = .cloned r cell mutex ∨ p.phase = .queued r cell mutex) :
    ∃ grip, gripsOf u.parties id cell = some (mutex, grip) := by
  obtain ⟨-, -, hnone, -⟩ := h.waiting hp hphase
  rw [gripsOf_of_find? hp]
  rcases hphase with hphase | hphase
  · exact ⟨.clone, Party.grip?_of_phase hnone (by rw [hphase]; rfl)⟩
  · exact ⟨.place, Party.grip?_of_phase hnone (by rw [hphase]; rfl)⟩

/-- A request that stands in line takes the guard if it stands first. -/
theorem Sound.await (h : u.Sound) (table : MutexTable) (hp : u.parties.find? id = some p)
    (hphase : p.phase = .cloned r cell mutex ∨ p.phase = .queued r cell mutex)
    (hserves : ∀ {G : Grips}, (gripsOf u.parties).Turns G id cell
      (some (mutex, if table.isFirst mutex id then .guard else .place)) → table.Serves G) :
    (await { u with mutexes := table } id p r cell mutex).Sound := by
  obtain ⟨hactive, hlock, hnone, hat⟩ := h.waiting hp hphase
  rw [Usage.await]
  split
  · rename_i hfirst
    -- The guard comes in the place of the wait.
    have hguard := SortedMap.find?_insert_self p.guards cell mutex
    have hidle := (h.fits hp).idle
    have hfits := (hidle.insert_guard hactive rfl cell mutex).locked hactive hlock hguard
    refine h.put hp (hserves ?_) hfits (fun _ _ ha => .inl ha) fun _ a ha cell' ha' => ?_
    · refine turns_insert hp hat (Phase.isAt_of_none rfl cell) (fun cell' hne => ?_) ?_
      · exact SortedMap.find?_insert_of_ne _ _ hne
      · rw [if_pos hfirst]
        exact Party.grip?_of_guard hguard
    · obtain ⟨mutex', hold⟩ := h.kept_told hp hactive a ha cell' ha'
      by_cases hcell : cell' = cell
      · exact ⟨mutex, hcell ▸ hguard⟩
      · exact ⟨mutex', (SortedMap.find?_insert_of_ne _ _ hcell).trans hold⟩
  · rename_i hfirst
    refine h.put hp (hserves ?_) ((h.fits hp).waiting hactive hlock hnone (.inr rfl))
      (fun _ _ ha => .inl ha) fun _ => h.kept_told (p := p) hp hactive
    refine turns_insert hp hat (Phase.isAt_of_some rfl) (fun _ _ => rfl) ?_
    rw [if_neg hfirst]
    exact Party.grip?_of_phase hnone rfl

/-- The first poll enters the line. -/
theorem Sound.enter (h : u.Sound) (hp : u.parties.find? id = some p)
    (hphase : p.phase = .cloned r cell mutex) : (u.enter id p r cell mutex).Sound := by
  obtain ⟨-, -, hnone, -⟩ := h.waiting hp (.inl hphase)
  refine h.await _ hp (.inl hphase) fun hturns => h.serves.enter ?_ hturns
  rw [gripsOf_of_find? hp, Party.grip?_of_phase hnone (by rw [hphase]; rfl)]

/-- Another poll changes nothing in the line. -/
theorem Sound.poll (h : u.Sound) (hp : u.parties.find? id = some p)
    (hphase : p.phase = .queued r cell mutex) : (u.await id p r cell mutex).Sound := by
  obtain ⟨-, -, hnone, -⟩ := h.waiting hp (.inr hphase)
  have hplace : gripsOf u.parties id cell = some (mutex, .place) := by
    rw [gripsOf_of_find? hp, Party.grip?_of_phase hnone (by rw [hphase]; rfl)]
  refine h.await u.mutexes hp (.inr hphase) fun hturns => ?_
  by_cases hfirst : u.mutexes.isFirst mutex id = true
  · rw [if_pos hfirst] at hturns
    exact h.serves.take hplace hfirst hturns
  · -- The transaction has the place that it had.
    rw [if_neg hfirst] at hturns
    refine h.serves.congr fun id' cell' => ?_
    by_cases hid : id' = id ∧ cell' = cell
    · rw [hid.1, hid.2, hturns.self, hplace]
    · exact hturns.others id' cell' hid

/-- A transaction leaves a line. It has a grip on the mutex, be it a guard that it gives back. -/
theorem Sound.leave (h : u.Sound) (hp : u.parties.find? id = some p) {grip : Grip}
    (hgrip : p.grip? cell = some (mutex, grip)) (hat : p.phase.IsAt cell)
    (hfits : p'.Fits u.committed) (hnone : p'.guards.find? cell = none)
    (hguards : ∀ cell', cell' ≠ cell → p'.guards.find? cell' = p.guards.find? cell')
    (hkept : p'.standing = .active → p.standing = .active ∧ p'.guards = p.guards)
    (isPruning : Bool) : (u.leave id p' cell mutex isPruning).Sound := by
  -- The reference moves from the line to the way out, which no clause of the party asks about.
  have hleaving : Party.Fits { p' with phase := .leaving cell mutex isPruning } u.committed := by
    refine hfits.quiet rfl fun {cell' mutex' grip'} hgrip' => ?_
    rw [← (Prod.mk.inj (Option.some.inj hgrip')).1]
    exact hnone
  -- The mutexes first; then what the party was told, which it keeps while it is active.
  refine h.put hp ?_ hleaving (fun _ _ ha => .inl ha) fun hactive => ?_
  · refine h.serves.leave ((gripsOf_of_find? hp cell).trans hgrip) ?_
    exact turns_insert hp hat (Phase.isAt_of_some rfl) hguards (Party.grip?_of_phase hnone rfl)
  · obtain ⟨hwas, hsame⟩ := hkept hactive
    intro a ha cell' ha'
    obtain ⟨mutex', hguard⟩ := h.kept_told hp hwas a ha cell' ha'
    exact ⟨mutex', by rw [← hguard, ← hsame]⟩

/-- One that waits leaves, whatever the reason. -/
theorem Sound.leave_waiting (h : u.Sound) (hp : u.parties.find? id = some p)
    (hphase : p.phase = .cloned r cell mutex ∨ p.phase = .queued r cell mutex)
    (isPruning : Bool) : (u.leave id p cell mutex isPruning).Sound := by
  obtain ⟨-, -, hnone, hat⟩ := h.waiting hp hphase
  obtain ⟨grip, hgrip⟩ := h.grip_of_waiting hp hphase
  rw [gripsOf_of_find? hp] at hgrip
  exact h.leave hp hgrip hat (h.fits hp) hnone (fun _ _ => rfl) (fun hactive => ⟨hactive, rfl⟩)
    isPruning

/-- One that is about to end leaves with a guard. -/
theorem Sound.release (h : u.Sound) (hp : u.parties.find? id = some p)
    (hending : p.standing ≠ .active) (hidle : p.phase = .idle)
    (hguard : p.guards.find? cell = some mutex) :
    (u.leave id { p with guards := p.guards.erase cell } cell mutex true).Sound := by
  have hat : p.phase.IsAt cell := Phase.isAt_of_none (by rw [hidle]; rfl) cell
  exact h.leave hp (Party.grip?_of_guard hguard) hat
    ((h.fits hp).erase_guard hending hidle cell) (SortedMap.find?_erase_self ..)
    (fun _ hne => SortedMap.find?_erase_of_ne _ hne) (fun hactive => absurd hactive hending) true

/-- A reference is dropped. -/
theorem Sound.drop (h : u.Sound) (hp : u.parties.find? id = some p) {isPruning : Bool}
    (hphase : p.phase = .leaving cell mutex isPruning) :
    (u.drop id p cell mutex isPruning).Sound := by
  have hgrip : p.phase.grip? = some (cell, mutex, .clone) := by
    rw [hphase]
    rfl
  have hnone := (h.fits hp).apart hgrip
  -- Whether the entry is pruned or not, the step lets go of the reference and asks nothing.
  have hquiet : ∀ isPruning : Bool,
      (if isPruning then Phase.unpruned cell else .idle).grip? = none ∧
        (if isPruning then Phase.unpruned cell else .idle).request? = none := by
    intro isPruning
    cases isPruning with
    | true => exact ⟨rfl, rfl⟩
    | false => exact ⟨rfl, rfl⟩
  have hfits := (h.fits hp).quiet (hquiet isPruning).2 fun hnow =>
    absurd ((hquiet isPruning).1.symm.trans hnow) (by simp)
  refine h.put hp ?_ hfits (fun _ _ ha => .inl ha) fun hactive =>
    h.kept_told (p := p) hp hactive
  refine h.serves.unshare ((gripsOf_of_find? hp cell).trans (Party.grip?_of_phase hnone hgrip)) ?_
  exact turns_insert hp (Phase.isAt_of_some hgrip)
    (Phase.isAt_of_none (hquiet isPruning).1 cell) (fun _ _ => rfl)
    (Party.grip?_of_none hnone (hquiet isPruning).1)

/-- The table is pruned. -/
theorem Sound.prune (h : u.Sound) (hp : u.parties.find? id = some p)
    (hphase : p.phase = .unpruned cell) : (u.prune id p cell).Sound := by
  refine h.put hp ?_ (h.fits hp).idle (fun _ _ ha => .inl ha) fun hactive =>
    h.kept_told (p := p) hp hactive
  exact (h.serves.prune cell).congr (gripsOf_insert hp rfl (by rw [hphase]; rfl))

/-- The changes of a transaction are committed. It has the guards of all cells that it changes, so
nobody else has one of them. -/
theorem Sound.publish (h : u.Sound) (hp : u.parties.find? id = some p)
    (hactive : p.standing = .active) (hidle : p.phase = .idle) : (u.publish id p).Sound where
  begun hfind := by
    rcases SortedMap.find?_insert_cases hfind with ⟨rfl, -⟩ | ⟨-, hold⟩
    · exact h.begun hp
    · exact h.begun hold
  fresh := h.fresh
  serves := h.serves.congr (gripsOf_insert hp rfl rfl)
  fits {id' p'} hfind := by
    rcases SortedMap.find?_insert_cases hfind with ⟨-, rfl⟩ | ⟨hne, hold⟩
    -- The other parties still find their cells as they read them: what `id` publishes is under its
    -- guards, and a guard is held once.
    · exact Party.Fits.publish hidle
    · refine (h.fits hold).apply fun {cell mutex} hguard => ?_
      cases hchange : p.tx.changes.find? cell with
      | none => rfl
      | some value =>
        obtain ⟨mutex', hguard'⟩ := (h.fits hp).buffered hactive (by rw [hchange]; simp)
        exact absurd (h.guard_unique hold hp hguard hguard') hne
  kept hfind hnow hlocked := by
    rcases SortedMap.find?_insert_cases hfind with ⟨-, rfl⟩ | ⟨-, hold⟩
    · exact absurd hnow (by simp)
    · exact h.kept hold hnow hlocked

/-- A transaction comes to its end without its changes. -/
theorem Sound.close (h : u.Sound) (hp : u.parties.find? id = some p) (hidle : p.phase = .idle) :
    (u.put id { p with standing := .ending false }).Sound := by
  refine h.put hp ?_ (Party.Fits.close hidle) (fun _ _ ha => .inl ha) fun hactive =>
    absurd hactive (by simp)
  exact h.serves.congr (gripsOf_insert hp rfl rfl)

/-- A transaction without guards has ended. -/
theorem Sound.finish (h : u.Sound) (hp : u.parties.find? id = some p) (hidle : p.phase = .idle)
    (hguards : p.guards.entries = []) :
    Sound { u with parties := u.parties.erase id } := by
  have hold : ∀ {id' p'}, (u.parties.erase id).find? id' = some p' →
      id' ≠ id ∧ u.parties.find? id' = some p' := by
    intro id' p' hfind
    rw [SortedMap.find?_erase] at hfind
    split at hfind
    · exact absurd hfind (by simp)
    · exact ⟨‹_›, hfind⟩
  -- The transaction has no grip on anything, so none is lost with it.
  have hgrips : ∀ id' cell, gripsOf (u.parties.erase id) id' cell = gripsOf u.parties id' cell := by
    intro id' cell
    by_cases hid : id' = id
    · have hnone : p.guards.find? cell = none := by
        rw [SortedMap.find?, hguards]
        rfl
      rw [hid, gripsOf_of_find? hp, Party.grip?_of_none hnone (by rw [hidle]; rfl), gripsOf,
        SortedMap.find?_erase_self]
      rfl
    · rw [gripsOf, gripsOf, SortedMap.find?_erase_of_ne _ hid]
  exact {
    begun := fun hfind => h.begun (hold hfind).2
    fresh := h.fresh
    serves := h.serves.congr hgrips
    fits := fun hfind => h.fits (hold hfind).2
    kept := fun hfind => h.kept (hold hfind).2 }

/-- A transaction that begins has nothing, and was told nothing. -/
theorem Sound.begin (h : u.Sound) : u.begin.Sound where
  begun hfind := by
    rcases SortedMap.find?_insert_cases hfind with ⟨rfl, -⟩ | ⟨-, hold⟩
    · exact Nat.lt_succ_self _
    · exact Nat.lt_succ_of_lt (h.begun hold)
  fresh ha := Nat.lt_succ_of_lt (h.fresh ha)
  serves := by
    refine h.serves.congr fun id cell => ?_
    by_cases hid : id = u.nextId
    -- The new party holds nothing, which is what the mutexes knew of its number before.
    · have hnone : u.parties.find? id = none := by
        cases hfind : u.parties.find? id with
        | none => rfl
        | some p => exact absurd (h.begun hfind) (hid ▸ Nat.lt_irrefl _)
      subst hid
      rw [gripsOf, gripsOf, hnone]
      exact (gripsOf_of_find? (SortedMap.find?_insert_self ..) cell).trans
        (Party.grip?_of_none (SortedMap.find?_empty _) rfl)
    · rw [gripsOf, gripsOf, Usage.begin, Usage.put]
      dsimp only
      rw [SortedMap.find?_insert_of_ne _ _ hid]
  fits hfind := by
    rcases SortedMap.find?_insert_cases hfind with ⟨-, rfl⟩ | ⟨-, hold⟩
    · exact Party.fits_begin _
    · exact h.fits hold
  kept hfind hactive hlocked := by
    rcases SortedMap.find?_insert_cases hfind with ⟨rfl, -⟩ | ⟨-, hold⟩
    · -- Nobody has been told anything under the new number.
      obtain ⟨a, ha, -⟩ := hlocked
      exact absurd (h.fresh ha) (Nat.lt_irrefl _)
    · exact h.kept hold hactive hlocked

/-- **Every step keeps the discipline.** -/
theorem Sound.makes (h : u.Sound) (hp : u.parties.find? id = some p)
    (hu : u.Makes id p step u') : u'.Sound := by
  cases hu with
  -- A reading without a lock is answered at once; every other step has its lemma above.
  | read active idle lock =>
    exact h.answer hp (by rw [idle]; rfl) active fun cell hcell =>
      absurd (lock.symm.trans hcell) (by simp)
  | again active idle lock guard =>
    exact h.put_phase hp (by rw [idle]; rfl) ((h.fits hp).locked active lock guard)
  | share active idle lock guard => exact h.share hp active idle lock guard
  | enter phase => exact h.enter hp phase
  | await phase => exact h.poll hp phase
  | perform phase =>
    obtain ⟨cell, mutex, hlock, hguard⟩ := (h.fits hp).ready phase
    refine h.answer hp (by rw [phase]; rfl) ((h.fits hp).active (by rw [phase]; rfl))
      fun cell' hcell => ⟨mutex, ?_⟩
    rw [← Option.some.inj (hlock.symm.trans hcell)]
    exact hguard
  | timeOut phase => exact h.leave_waiting hp phase true
  | giveUp phase => exact h.leave_waiting hp phase false
  | forget phase => exact h.put_phase hp (by rw [phase]; rfl) (h.fits hp).idle
  | drop phase => exact h.drop hp phase
  | prune phase => exact h.prune hp phase
  | publish active idle => exact h.publish hp active idle
  | close active idle => exact h.close hp idle
  | release ending idle guard => exact h.release hp ending idle guard
  | finish ending idle guards => exact h.finish hp idle guards

/-- Every incident does. -/
theorem Sound.after (h : u.Sound) (incident : Incident) : (u.after incident).Sound := by
  rw [Usage.after]
  cases hstep : u.step incident with
  | none => exact h
  | some u' =>
    rcases step_cases hstep with ⟨-, rfl⟩ | ⟨id, p, step, -, hp, hu⟩
    · exact h.begin
    · exact h.makes hp hu

/-- **Every run keeps the discipline.** -/
theorem Sound.run (h : u.Sound) (incidents : List Incident) : (u.run incidents).Sound := by
  induction incidents generalizing u with
  | nil => exact h
  | cons incident rest ih => exact ih (h.after incident)

end Usage

end Muster.Store
