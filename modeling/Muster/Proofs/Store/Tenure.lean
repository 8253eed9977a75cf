import Mathlib.Data.List.Induction
import Muster.Proofs.Store.Discipline
import Muster.Proofs.Store.Snapshot

/-!
# How long a lock is held

What becomes of a transaction in a step is said once (`Party.Becomes`): it loses a guard only by
giving it back, behind its end; it gains one only where it waits; and it comes to wait only when it
is asked. So a transaction keeps its locks until it ends (`Sound.returns`), and one that was told
nothing about a cell and waits for nothing there has no part in it until it is asked
(`Usage.IsClear`). What is committed changes by a commit alone, which has the guards of all cells
that it changes (`Sound.exists_committer`), and behind which the guards are given back. The main
statement `lock_discipline` puts this together for all runs.
-/

namespace Muster.Store

variable {p p' : Party} {cell cell' : Cell} {step : Step}

/-! ## What becomes of a transaction -/

/-- The grip of a phase that is more than a reference is a place in the line of what is wanted. -/
theorem Phase.wanted?_of_grip? {phase : Phase} {mutex : MutexId} {grip : Grip}
    (h : phase.grip? = some (cell, mutex, grip)) (hne : grip ≠ .clone) :
    phase.wanted? = some cell := by
  cases phase with
  | queued r cell' mutex' => exact congrArg some (Prod.mk.inj (Option.some.inj h)).1
  | cloned r cell' mutex' =>
    exact absurd (Prod.mk.inj (Prod.mk.inj (Option.some.inj h)).2).2 hne.symm
  | leaving cell' mutex' isPruning =>
    exact absurd (Prod.mk.inj (Prod.mk.inj (Option.some.inj h)).2).2 hne.symm
  | idle => exact absurd h (by simp [Phase.grip?])
  | locked r => exact absurd h (by simp [Phase.grip?])
  | unpruned cell' => exact absurd h (by simp [Phase.grip?])

/-- What a step makes of the transaction that makes it. -/
structure Party.Becomes (p : Party) (step : Step) (p' : Party) : Prop where
  /-- It loses a guard by giving it back, when it has come to its end. -/
  lost : ∀ {cell}, p.guards.find? cell ≠ none → p'.guards.find? cell = none →
    step = .release cell ∧ p.standing ≠ .active
  /-- It gains none where it does not wait. -/
  gained : ∀ {cell}, p.guards.find? cell = none → p.phase.wanted? ≠ some cell →
    p'.guards.find? cell = none
  /-- It waits where it has waited, or where it is asked for something. -/
  wanted : ∀ {cell}, p'.phase.wanted? = some cell →
    p.phase.wanted? = some cell ∨ ∃ r, step = .ask r ∧ r.lock? = some cell
  /-- It is committed once, with what it has buffered by then. -/
  committed : p'.standing = .ending true →
    p'.tx = p.tx ∧ (p.standing = .ending true ∨ step = .publish ∧ p.standing = .active)

/-- A transaction of which only the phase changes, to one in which it does not wait. -/
theorem Party.becomes_phase {phase : Phase} (hwanted : phase.wanted? = none) :
    p.Becomes step { p with phase } where
  lost hsome hnone := absurd hnone hsome
  gained hnone _ := hnone
  wanted h := absurd (hwanted.symm.trans h) (by simp)
  committed h := ⟨rfl, .inl h⟩

/-- A transaction that goes on waiting. -/
theorem Party.becomes_waiting {phase : Phase} (hwanted : phase.wanted? = p.phase.wanted?) :
    p.Becomes step { p with phase } where
  lost hsome hnone := absurd hnone hsome
  gained hnone _ := hnone
  wanted h := .inl (hwanted ▸ h)
  committed h := ⟨rfl, .inl h⟩

/-- A transaction that is asked for something begins to wait for the lock. -/
theorem Party.becomes_share (hlock : r.lock? = some cell) (mutex : MutexId) :
    p.Becomes (.ask r) { p with phase := .cloned r cell mutex } where
  lost hsome hnone := absurd hnone hsome
  gained hnone _ := hnone
  wanted h := .inr ⟨r, rfl, hlock.trans h⟩
  committed h := ⟨rfl, .inl h⟩

/-- A transaction that comes to its end, which is with its changes if they have been made. -/
theorem Party.becomes_ending {isCommitted : Bool}
    (hpublish : isCommitted = true → step = .publish ∧ p.standing = .active) :
    p.Becomes step { p with standing := .ending isCommitted } where
  lost hsome hnone := absurd hnone hsome
  gained hnone _ := hnone
  wanted h := .inl h
  committed h := ⟨rfl, .inr (hpublish (Standing.ending.inj h))⟩

/-- A transaction that takes the guard of the cell for which it waits. -/
theorem Party.becomes_take (hwanted : p.phase.wanted? = some cell) (mutex : MutexId)
    (r : Request) :
    p.Becomes step { p with guards := p.guards.insert cell mutex, phase := .locked r } where
  lost {cell'} hsome hnone := by
    rw [SortedMap.find?_insert] at hnone
    split at hnone
    · exact absurd hnone (by simp)
    · exact absurd hnone hsome
  gained {cell'} hnone hnot := by
    have hne : cell' ≠ cell := fun hcell => hnot (hcell ▸ hwanted)
    exact (SortedMap.find?_insert_of_ne _ _ hne).trans hnone
  wanted h := absurd h (by simp [Phase.wanted?])
  committed h := ⟨rfl, .inl h⟩

/-- A transaction that does what it is asked for. -/
theorem Party.becomes_perform (hactive : p.standing = .active) (tx : Transaction) :
    p.Becomes step { p with tx, phase := .idle } where
  lost hsome hnone := absurd hnone hsome
  gained hnone _ := hnone
  wanted h := absurd h (by simp [Phase.wanted?])
  committed h := absurd (hactive.symm.trans h) (by simp)

/-- A transaction that gives a guard back. -/
theorem Party.becomes_release (hending : p.standing ≠ .active) (cell : Cell) (mutex : MutexId) :
    p.Becomes (.release cell)
      { p with guards := p.guards.erase cell, phase := .leaving cell mutex true } where
  lost {cell'} hsome hnone := by
    rw [SortedMap.find?_erase] at hnone
    -- Only the guard of this cell goes, and it goes because the transaction is ending.
    split at hnone
    · rename_i hcell
      exact ⟨by rw [hcell], hending⟩
    · exact absurd hnone hsome
  gained {cell'} hnone _ := by
    rw [SortedMap.find?_erase]
    split
    · rfl
    · exact hnone
  wanted h := absurd h (by simp [Phase.wanted?])
  committed h := ⟨rfl, .inl h⟩

namespace Usage

variable {u u' : Usage} {id id' : TransactionId} {mutex : MutexId} {r : Request}
  {incident : Incident} {incidents : List Incident}

/-- The transactions after a step: one of them has changed, or it has ended. -/
theorem Makes.parties (hu : u.Makes id p step u') (hfits : p.Fits u.committed) :
    (∃ p', u'.parties = u.parties.insert id p' ∧ p.Becomes step p') ∨
      u'.parties = u.parties.erase id ∧ p.guards.entries = [] := by
  -- Who is polled takes the guard, being first in the line, or waits on.
  have hawait : ∀ {u : Usage} {r cell mutex}, p.phase.wanted? = some cell →
      ∃ p', (u.await id p r cell mutex).parties = u.parties.insert id p' ∧ p.Becomes step p' := by
    intro u r cell mutex hwanted
    rw [Usage.await]
    split
    · exact ⟨_, rfl, Party.becomes_take hwanted mutex r⟩
    · exact ⟨_, rfl, Party.becomes_waiting hwanted.symm⟩
  cases hu with
  | read active idle lock => exact .inl ⟨_, rfl, Party.becomes_perform active _⟩
  | again active idle lock guard => exact .inl ⟨_, rfl, Party.becomes_phase rfl⟩
  | @share r cell active idle lock guard =>
    exact .inl ⟨_, rfl, Party.becomes_share lock _⟩
  | enter phase => exact .inl (hawait (by rw [phase]; rfl))
  | await phase => exact .inl (hawait (by rw [phase]; rfl))
  | perform phase =>
    exact .inl ⟨_, rfl, Party.becomes_perform (hfits.active (by rw [phase]; rfl)) _⟩
  | timeOut phase => exact .inl ⟨_, rfl, Party.becomes_phase rfl⟩
  | giveUp phase => exact .inl ⟨_, rfl, Party.becomes_phase rfl⟩
  | forget phase => exact .inl ⟨_, rfl, Party.becomes_phase rfl⟩
  | @drop cell mutex isPruning phase =>
    refine .inl ⟨_, rfl, Party.becomes_phase ?_⟩
    cases isPruning with
    | true => rfl
    | false => rfl
  | prune phase => exact .inl ⟨_, rfl, Party.becomes_phase rfl⟩
  | publish active idle =>
    exact .inl ⟨_, rfl, Party.becomes_ending fun _ => ⟨rfl, active⟩⟩
  | close active idle =>
    exact .inl ⟨_, rfl, Party.becomes_ending fun hcommitted => absurd hcommitted (by simp)⟩
  | release ending idle guard => exact .inl ⟨_, rfl, Party.becomes_release ending _ _⟩
  | finish ending idle guards => exact .inr ⟨rfl, guards⟩

/-- A commit makes the changes of its transaction. -/
theorem Makes.apply (hu : u.Makes id p .publish u') :
    p.standing = .active ∧ u'.committed = u.committed.apply p.tx.changes := by
  cases hu with
  | publish active idle => exact ⟨active, rfl⟩

/-- No other step changes what is committed. -/
theorem Makes.committed (hu : u.Makes id p step u') (hne : step ≠ .publish) :
    u'.committed = u.committed := by
  -- Waiting and taking the guard change the mutexes and one party, nothing that was committed.
  have hawait : ∀ {u : Usage} {r cell mutex},
      (u.await id p r cell mutex).committed = u.committed := by
    intro u r cell mutex
    rw [Usage.await]
    split
    · rfl
    · rfl
  cases hu with
  | enter phase => exact hawait
  | await phase => exact hawait
  | publish active idle => exact absurd rfl hne
  | _ => rfl

/-- What was told is never forgotten. -/
theorem Makes.told (hu : u.Makes id p step u') : ∀ a ∈ u.told, a ∈ u'.told := by
  have hawait : ∀ {u : Usage} {r cell mutex}, (u.await id p r cell mutex).told = u.told := by
    intro u r cell mutex
    rw [Usage.await]
    split
    · rfl
    · rfl
  -- An answer joins those that were told, and none is ever taken back.
  intro a ha
  cases hu with
  | read active idle lock => exact List.mem_cons_of_mem _ ha
  | perform phase => exact List.mem_cons_of_mem _ ha
  | enter phase =>
    rw [Usage.enter, hawait]
    exact ha
  | await phase =>
    rw [hawait]
    exact ha
  | _ => exact ha

/-! ## From one moment to the next -/

/-- A transaction has begun and not come to its end. -/
def IsOpen (u : Usage) (id : TransactionId) : Prop :=
  ∃ p, u.parties.find? id = some p ∧ p.standing = .active

/-- A transaction holds the lock of a cell: it has the guard. -/
def Holds (u : Usage) (id : TransactionId) (cell : Cell) : Prop :=
  ∃ p, u.parties.find? id = some p ∧ p.guards.find? cell ≠ none

/-- A transaction waits for the lock of a cell. -/
def Waits (u : Usage) (id : TransactionId) (cell : Cell) : Prop :=
  ∃ p, u.parties.find? id = some p ∧ p.phase.wanted? = some cell

/-- A transaction that has not come to its end has buffered a write of a cell. -/
def Buffers (u : Usage) (id : TransactionId) (cell : Cell) : Prop :=
  ∃ p, u.parties.find? id = some p ∧ p.standing = .active ∧ p.tx.changes.find? cell ≠ none

/-- The other transactions are as they were. -/
theorem Makes.find?_of_ne (hu : u.Makes id p step u') (hfits : p.Fits u.committed)
    (hne : id' ≠ id) : u'.parties.find? id' = u.parties.find? id' := by
  rcases hu.parties hfits with ⟨p', hparties, -⟩ | ⟨hparties, -⟩
  · rw [hparties, SortedMap.find?_insert_of_ne _ _ hne]
  · rw [hparties, SortedMap.find?_erase_of_ne _ hne]

/-- **What is committed in a cell is changed by a commit of the holder of its lock.** -/
theorem Sound.exists_committer (h : u.Sound) (hstep : u.step incident = some u')
    (hne : u'.committed.find? cell ≠ u.committed.find? cell) :
    ∃ id, incident = .does id .publish ∧ u.Holds id cell := by
  rcases step_cases hstep with ⟨-, rfl⟩ | ⟨id, p, step, rfl, hp, hu⟩
  · exact absurd rfl hne
  · by_cases hpublish : step = .publish
    · subst hpublish
      obtain ⟨hactive, happly⟩ := hu.apply
      refine ⟨id, rfl, p, hp, ?_⟩
      -- The cell is one that the transaction has buffered, so it has the guard.
      have hchange : p.tx.changes.find? cell ≠ none := by
        intro hnone
        refine hne ?_
        rw [happly, Contents.find?_apply, hnone]
        rfl
      obtain ⟨mutex, hguard⟩ := (h.fits hp).buffered hactive hchange
      rw [hguard]
      simp
    · exact absurd (by rw [hu.committed hpublish]) hne

/-- A transaction gives back the guard of a cell: it has come to its end, and if it was committed,
all its writes of cells whose guards it has show by then. -/
structure Returns (u : Usage) (id : TransactionId) (cell : Cell) (incident : Incident) : Prop where
  /-- It makes the step itself. -/
  own : incident = .does id (.release cell)
  /-- It has come to its end. -/
  ending : ¬ u.IsOpen id
  /-- Its writes show. -/
  visible : ∀ p, u.parties.find? id = some p → p.standing = .ending true → ∀ cell' value,
    u.Holds id cell' → p.tx.changes.find? cell' = some value → u.committed.find? cell' = value

/-- **A lock is let go by the end of its holder.** -/
theorem Sound.returns (h : u.Sound) (hstep : u.step incident = some u') (hholds : u.Holds id cell)
    (hnot : ¬ u'.Holds id cell) : u.Returns id cell incident := by
  obtain ⟨p, hp, hguard⟩ := hholds
  rcases step_cases hstep with ⟨-, rfl⟩ | ⟨id', p', step, rfl, hp', hu⟩
  · -- One that begins is another.
    have hne : id ≠ u.nextId := Nat.ne_of_lt (h.begun hp)
    exact absurd ⟨p, (SortedMap.find?_insert_of_ne _ _ hne).trans hp, hguard⟩ hnot
  · by_cases hid : id = id'
    · subst hid
      obtain rfl : p' = p := Option.some.inj (hp'.symm.trans hp)
      rcases hu.parties (h.fits hp) with ⟨q, hparties, hbecomes⟩ | ⟨-, hnone⟩
      · have hlost : q.guards.find? cell = none := by
          cases hq : q.guards.find? cell with
          | none => rfl
          | some mutex =>
            refine absurd ⟨q, ?_, by rw [hq]; simp⟩ hnot
            rw [hparties]
            exact SortedMap.find?_insert_self ..
        obtain ⟨rfl, hending⟩ := hbecomes.lost hguard hlost
        refine ⟨rfl, ?_, ?_⟩
        · rintro ⟨p'', hp'', hactive⟩
          obtain rfl := Option.some.inj (hp.symm.trans hp'')
          exact hending hactive
        · rintro p'' hp'' hcommitted cell' value ⟨q', hq', hguard'⟩ hchange
          obtain rfl := Option.some.inj (hp''.symm.trans hq')
          obtain ⟨mutex, hmutex⟩ := Option.ne_none_iff_exists'.1 hguard'
          exact (h.fits hp'').visible hcommitted hmutex hchange
      · -- One that has ended had no guard any more.
        refine absurd ?_ hguard
        rw [SortedMap.find?, hnone]
        rfl
    · exact absurd ⟨p, (hu.find?_of_ne (h.fits hp') hid).trans hp, hguard⟩ hnot

/-- Who has the lock of a cell stands first in the line of its mutex. -/
theorem Sound.head?_line (h : u.Sound) (hholds : u.Holds id cell) :
    (u.mutexes.line cell).head? = some id := by
  obtain ⟨p, hp, hguard⟩ := hholds
  obtain ⟨mutex, hmutex⟩ := Option.ne_none_iff_exists'.1 hguard
  have hgrip := (gripsOf_of_find? hp cell).trans (Party.grip?_of_guard hmutex)
  exact h.serves.head?_line hgrip

/-! ## From then on -/

/-- What a transaction was told binds it from then on. -/
theorem Locked.run (h : u.Locked id cell) (incidents : List Incident) :
    (u.run incidents).Locked id cell := by
  induction incidents generalizing u with
  | nil => exact h
  | cons incident rest ih =>
    -- What was told before an incident is told after it.
    refine ih (u := u.after incident) ?_
    obtain ⟨a, ha, hlock⟩ := h
    refine ⟨a, ?_, hlock⟩
    rw [Usage.after]
    cases hstep : u.step incident with
    | none => exact ha
    | some u' =>
      rcases step_cases hstep with ⟨-, rfl⟩ | ⟨id', p, step, -, -, hu⟩
      · exact ha
      · exact hu.told _ ha

/-- A transaction has nothing to do with a cell: it has no guard of it and waits for none. -/
def IsClear (u : Usage) (id : TransactionId) (cell : Cell) : Prop :=
  ∀ p, u.parties.find? id = some p → p.guards.find? cell = none ∧ p.phase.wanted? ≠ some cell

/-- It stays so unless the transaction is asked for the cell. -/
theorem IsClear.after (h : u.Sound) (hclear : u.IsClear id cell)
    (hask : ∀ r, r.lock? = some cell → incident ≠ .does id (.ask r)) :
    (u.after incident).IsClear id cell := by
  intro q hq
  rw [Usage.after] at hq
  cases hstep : u.step incident with
  | none =>
    rw [hstep] at hq
    exact hclear q hq
  | some u' =>
    rw [hstep, Option.getD_some] at hq
    -- A new party wants nothing; any other party is either the one that makes the step or
    -- untouched.
    rcases step_cases hstep with ⟨-, rfl⟩ | ⟨id', p, step, rfl, hp, hu⟩
    · rcases SortedMap.find?_insert_cases hq with ⟨-, rfl⟩ | ⟨-, hold⟩
      · exact ⟨SortedMap.find?_empty _, by simp [Phase.wanted?]⟩
      · exact hclear q hold
    · by_cases hid : id = id'
      · subst hid
        obtain ⟨hguard, hwanted⟩ := hclear p hp
        rcases hu.parties (h.fits hp) with ⟨q', hparties, hbecomes⟩ | ⟨hparties, -⟩
        · rw [hparties, SortedMap.find?_insert_self] at hq
          obtain rfl := Option.some.inj hq
          -- No guard is gained and no lock is wanted, since this step is no request for the cell.
          refine ⟨hbecomes.gained hguard hwanted, fun hnow => ?_⟩
          rcases hbecomes.wanted hnow with hold | ⟨r, rfl, hlock⟩
          · exact hwanted hold
          · exact hask r hlock rfl
        · rw [hparties, SortedMap.find?_erase_self] at hq
          exact absurd hq (by simp)
      · rw [hu.find?_of_ne (h.fits hp) hid] at hq
        exact hclear q hq

/-- So it does in a run. -/
theorem IsClear.run (h : u.Sound) (hclear : u.IsClear id cell)
    (hask : ∀ r, r.lock? = some cell → .does id (.ask r) ∉ incidents) :
    (u.run incidents).IsClear id cell := by
  induction incidents generalizing u with
  | nil => exact hclear
  | cons incident rest ih =>
    refine ih (h.after incident) (hclear.after h fun r hr hnow => ?_) fun r hr hrest => ?_
    · exact hask r hr (hnow ▸ List.mem_cons_self)
    · exact hask r hr (List.mem_cons_of_mem _ hrest)

/-- It neither has the guard nor stands in the line of the mutex. -/
theorem Sound.not_holds (h : u.Sound) (hclear : u.IsClear id cell) :
    ¬ u.Holds id cell ∧ id ∉ u.mutexes.line cell := by
  refine ⟨?_, fun hid => ?_⟩
  · rintro ⟨p, hp, hguard⟩
    exact hguard (hclear p hp).1
  · obtain ⟨mutex, grip, hgrip, hne⟩ := h.serves.exists_grip_of_mem_line hid
    obtain ⟨p, hp, hgrip⟩ := Option.bind_eq_some_iff.1 hgrip
    obtain ⟨hguard, hwanted⟩ := hclear p hp
    rcases Party.guard_of_grip? hgrip with ⟨hsome, -⟩ | ⟨-, hphase⟩
    · exact absurd (hguard.symm.trans hsome) (by simp)
    · exact hwanted (Phase.wanted?_of_grip? hphase hne)

/-- How a wait ends without the lock. -/
inductive IsVain : Step → Prop
  /-- It takes too long. -/
  | timeOut : IsVain .timeOut
  /-- The one who waits is dropped. -/
  | giveUp : IsVain .giveUp

/-- Behind it the transaction has nothing to do with the cell any more. -/
theorem Sound.isClear (h : u.Sound) (hwaits : u.Waits id cell) (hvain : IsVain step)
    (hstep : u.step (.does id step) = some u') : u'.IsClear id cell := by
  obtain ⟨p, hp, hwanted⟩ := hwaits
  rcases step_cases hstep with ⟨hbegin, -⟩ | ⟨id', p', step', hdoes, hp', hu⟩
  · exact absurd hbegin (by simp)
  · obtain ⟨rfl, rfl⟩ := Incident.does.inj hdoes
    obtain rfl := Option.some.inj (hp'.symm.trans hp)
    -- It has no guard of a cell for which it waits, and it leaves the line.
    have hleft : ∀ {r cell' mutex}, p'.phase = .cloned r cell' mutex ∨
        p'.phase = .queued r cell' mutex → ∀ isPruning,
        (u.leave id p' cell' mutex isPruning).IsClear id cell := by
      intro r cell' mutex hphase isPruning q hq
      obtain ⟨-, -, hnone, -⟩ := h.waiting hp hphase
      have hcell : cell' = cell := by
        rcases hphase with hphase | hphase
        · rw [hphase] at hwanted
          exact Option.some.inj hwanted
        · rw [hphase] at hwanted
          exact Option.some.inj hwanted
      obtain rfl := Option.some.inj ((SortedMap.find?_insert_self ..).symm.trans hq)
      exact ⟨hcell ▸ hnone, by simp [Phase.wanted?]⟩
    cases hvain with
    | timeOut =>
      cases hu with
      | timeOut phase => exact hleft phase true
    | giveUp =>
      cases hu with
      | giveUp phase => exact hleft phase false
      | forget phase =>
        rw [phase] at hwanted
        exact absurd hwanted (by simp [Phase.wanted?])

/-! ## Where a commit was -/

/-- The changes of a transaction were committed in a run, at one moment. -/
def Published (contents : Contents) (nextId : TransactionId) (incidents : List Incident)
    (id : TransactionId) (changes : Changes) : Prop :=
  ∃ before since, incidents = before ++ .does id .publish :: since ∧
    ((rest contents nextId).run before).IsOpen id ∧
    ((rest contents nextId).run (before ++ [.does id .publish])).committed =
      ((rest contents nextId).run before).committed.apply changes

/-- A run with one incident more. -/
theorem run_concat (u : Usage) (incidents : List Incident) (incident : Incident) :
    u.run (incidents ++ [incident]) = (u.run incidents).after incident := by
  rw [run, List.foldl_append]
  rfl

/-- **A transaction that has come to its end as committed was committed before.** -/
theorem published_of_ending (contents : Contents) (nextId : TransactionId)
    (incidents : List Incident)
    (hp : ((rest contents nextId).run incidents).parties.find? id = some p)
    (hcommitted : p.standing = .ending true) :
    Published contents nextId incidents id p.tx.changes := by
  induction incidents using List.reverseRecOn generalizing p with
  | nil => exact absurd hp (by simp [run, rest])
  | append_singleton incidents incident ih =>
    -- What was committed before has been committed since.
    have hbefore : ∀ {q}, ((rest contents nextId).run incidents).parties.find? id = some q →
        q.standing = .ending true → q.tx = p.tx →
        Published contents nextId (incidents ++ [incident]) id p.tx.changes := by
      intro q hq hstanding htx
      obtain ⟨before, since, rfl, hpublish⟩ := ih hq hstanding
      exact ⟨before, since ++ [incident], by simp, htx ▸ hpublish⟩
    have hsound := (sound_rest contents nextId).run incidents
    have hrun := run_concat (rest contents nextId) incidents incident
    rw [hrun] at hp
    cases hstep : ((rest contents nextId).run incidents).step incident with
    | none =>
      rw [after, hstep] at hp
      exact hbefore hp hcommitted rfl
    | some u' =>
      rw [after, hstep, Option.getD_some] at hp hrun
      rcases step_cases hstep with ⟨-, rfl⟩ | ⟨id', q, step, rfl, hq, hu⟩
      · rcases SortedMap.find?_insert_cases hp with ⟨-, rfl⟩ | ⟨-, hold⟩
        · exact absurd hcommitted (by simp)
        · exact hbefore hold hcommitted rfl
      · by_cases hid : id = id'
        · subst hid
          rcases hu.parties (hsound.fits hq) with ⟨q', hparties, hbecomes⟩ | ⟨hparties, -⟩
          · rw [hparties, SortedMap.find?_insert_self] at hp
            obtain rfl := Option.some.inj hp
            obtain ⟨htx, hwas | ⟨rfl, hactive⟩⟩ := hbecomes.committed hcommitted
            · exact hbefore hq hwas htx.symm
            · refine ⟨incidents, [], rfl, ⟨q, hq, hactive⟩, ?_⟩
              rw [hrun, htx]
              exact hu.apply.2
          · rw [hparties, SortedMap.find?_erase_self] at hp
            exact absurd hp (by simp)
        · rw [hu.find?_of_ne (hsound.fits hq) hid] at hp
          exact hbefore hp hcommitted rfl

/-! ## The theorem -/

/-- **The discipline of locks.** At every moment of every run of a store in use, whatever
transactions are asked for, wait for, give up waiting for and leave, however they end, and in
whatever order their steps come:

* no two transactions that have not ended have the lock of one cell, and who has it stands first in
  the line of the mutex that the table has for the cell, so it is handed to nobody else;
* a transaction that has not come to its end has the lock of every cell of which it was ever
  answered a request that locks it, whatever the answer was and whatever came afterwards;
* it has the locks of all cells that it has buffered a write of;
* what is committed in a cell is changed by the commit of a holder of its lock only, and the lock is
  given back behind the end of its holder only, when all writes of the holder show of which it still
  has the locks, if it was committed; all its writes were made by then, at one earlier moment;
* a wait that has timed out or was given up never becomes a lock, neither one that the transaction
  has nor one that it stands in line for, unless the transaction is asked again;
* when all transactions have ended, nobody stands in the line of any mutex that is left, and the
  table has the only reference to it. -/
theorem lock_discipline (contents : Contents) (nextId : TransactionId)
    (incidents : List Incident) :
    let u := (rest contents nextId).run incidents
    (∀ id cell, u.Holds id cell → (u.mutexes.line cell).head? = some id ∧
        ∀ id', u.Holds id' cell → id' = id) ∧
      (∀ id cell, u.Locked id cell → ∀ later,
        (u.run later).IsOpen id → (u.run later).Holds id cell) ∧
      (∀ id cell, u.Buffers id cell → u.Holds id cell) ∧
      (∀ incident u', u.step incident = some u' →
        (∀ cell, u'.committed.find? cell ≠ u.committed.find? cell →
          ∃ id, incident = .does id .publish ∧ u.Holds id cell) ∧
        ∀ id cell, u.Holds id cell → ¬ u'.Holds id cell → u.Returns id cell incident) ∧
      (∀ id p, u.parties.find? id = some p → p.standing = .ending true →
        Published contents nextId incidents id p.tx.changes) ∧
      (∀ id cell, u.Waits id cell → ∀ step u', IsVain step → u.step (.does id step) = some u' →
        ∀ later, (∀ r, r.lock? = some cell → .does id (.ask r) ∉ later) →
          ¬ (u'.run later).Holds id cell ∧ id ∉ (u'.run later).mutexes.line cell) ∧
      ((∀ id, u.parties.find? id = none) →
        ∀ cell mutex, u.mutexes.entries.find? cell = some mutex →
          u.mutexes.mutexes.find? mutex = some ⟨[], 1⟩) := by
  intro u
  have hu : u.Sound := (sound_rest contents nextId).run incidents
  refine ⟨?_, ?_, ?_, ?_, ?_, ?_, ?_⟩
  -- Who holds a lock is the only one, and stands first in the line.
  · intro id cell hholds
    refine ⟨hu.head?_line hholds, fun id' hholds' => ?_⟩
    obtain ⟨p, hp, hguard⟩ := hholds
    obtain ⟨p', hp', hguard'⟩ := hholds'
    obtain ⟨mutex, hmutex⟩ := Option.ne_none_iff_exists'.1 hguard
    obtain ⟨mutex', hmutex'⟩ := Option.ne_none_iff_exists'.1 hguard'
    exact hu.guard_unique hp' hp hmutex' hmutex
  -- A lock is kept until the end.
  · intro id cell hlocked later hopen
    obtain ⟨p, hp, hactive⟩ := hopen
    obtain ⟨mutex, hguard⟩ := (hu.run later).kept hp hactive (hlocked.run later)
    exact ⟨p, hp, by rw [hguard]; simp⟩
  -- What is buffered is locked.
  · intro id cell hbuffers
    obtain ⟨p, hp, hactive, hchange⟩ := hbuffers
    obtain ⟨mutex, hguard⟩ := (hu.fits hp).buffered hactive hchange
    exact ⟨p, hp, by rw [hguard]; simp⟩
  -- Only a holder commits, and it gives the lock back behind that.
  · intro incident u' hstep
    refine ⟨fun cell hne => ?_, fun id cell => ?_⟩
    · exact hu.exists_committer hstep hne
    · exact hu.returns hstep
  · intro id p hp hcommitted
    exact published_of_ending contents nextId incidents hp hcommitted
  -- Who gave up wants the cell no more, so no later step hands it the guard.
  · intro id cell hwaits step u' hvain hstep later hask
    have hclear := hu.isClear hwaits hvain hstep
    have hsound : u'.Sound := by
      have hafter := hu.after (.does id step)
      rwa [after, hstep] at hafter
    exact (hsound.run later).not_holds (hclear.run hsound hask)
  -- With every party gone there is no grip left that a mutex would serve.
  · intro hended cell mutex hentry
    have hnone : ∀ id cell, gripsOf u.parties id cell = none := by
      intro id cell
      rw [gripsOf, hended id]
      rfl
    exact hu.serves.find?_of_none hnone hentry

/-! ## A lock that comes too late -/

/-- One transaction writes a cell, and three more wait for its lock; one of these times out. Then
the writer is committed, and its guard is still to be given back. -/
def crowdedIncidents : List Incident :=
  [.begin, .begin, .begin, .begin,
    .does 1 (.ask (.set Sample.filled [2])), .does 1 .poll, .does 1 .perform,
    .does 2 (.ask (.remove Sample.filled)), .does 2 .poll,
    .does 3 (.ask (.add Sample.filled [9])), .does 3 .poll,
    .does 4 (.ask (.add Sample.filled [9])), .does 4 .poll,
    .does 3 .timeOut, .does 3 .drop, .does 3 .prune, .does 1 .publish]

/-- The guard is given back when the write shows. The lock goes to the first that waits, which is
dropped before it notices: it goes to the next, which finds the cell filled and keeps the lock all
the same. When all have ended the lock is free, and the mutex has gone with its last user; but if
this one is dropped while it waits, too, the table keeps a mutex that nobody wants. -/
theorem lock_discipline_crowdedIncidents :
    let u := (rest Sample.contents 1).run crowdedIncidents
    let given := u.after (.does 1 (.release Sample.filled))
    let left := given.after (.does 2 .giveUp)
    let ends := [.does 1 .drop, .does 1 .prune, .does 1 .finish, .does 2 .drop, .does 2 .close,
      .does 2 .finish, .does 3 .close, .does 3 .finish, .does 4 .drop, .does 4 .prune,
      .does 4 .finish]
    u.Returns 1 Sample.filled (.does 1 (.release Sample.filled)) ∧
      u.committed.find? Sample.filled = some [2] ∧
      given.mutexes.line Sample.filled = [2, 4] ∧ given.Waits 2 Sample.filled ∧
      ¬ (left.run [.does 4 .poll, .does 4 .perform]).Holds 2 Sample.filled ∧
      (left.run [.does 4 .poll, .does 4 .perform]).told.head? =
        some (4, ⟨.add Sample.filled [9], false⟩) ∧
      (left.run [.does 4 .poll, .does 4 .perform]).Holds 4 Sample.filled ∧
      ((left.run [.does 4 .poll, .does 4 .perform, .does 4 .close,
        .does 4 (.release Sample.filled)]).run ends).mutexes.entries.entries = [] ∧
      ((left.run [.does 4 .giveUp, .does 4 .drop, .does 4 .close]).run
        ends).mutexes.mutexes.entries = [(0, ⟨[], 1⟩)] := by
  intro u given left ends
  have hholds : u.Holds 1 Sample.filled := ⟨_, rfl, by decide +kernel⟩
  have hnot : ¬ given.Holds 1 Sample.filled := by
    rintro ⟨p, hp, hguard⟩
    obtain rfl := Option.some.inj hp
    exact hguard rfl
  have hwaits : given.Waits 2 Sample.filled := ⟨_, rfl, rfl⟩
  -- The fourth part is about the release by `1`, the sixth about `2`, which goes away from the
  -- front of the line.
  obtain ⟨-, -, -, hreturns, -, -, -⟩ := lock_discipline Sample.contents 1 crowdedIncidents
  obtain ⟨-, -, -, -, -, hvain, -⟩ := lock_discipline Sample.contents 1
    (crowdedIncidents ++ [.does 1 (.release Sample.filled)])
  have hnever := hvain 2 Sample.filled hwaits .giveUp left .giveUp rfl
    [.does 4 .poll, .does 4 .perform] (by simp)
  refine ⟨(hreturns _ given rfl).2 1 Sample.filled hholds hnot, by decide +kernel,
    by decide +kernel, hwaits, hnever.1, rfl, ⟨_, rfl, by decide +kernel⟩, by decide +kernel,
    by decide +kernel⟩

end Usage

end Muster.Store
