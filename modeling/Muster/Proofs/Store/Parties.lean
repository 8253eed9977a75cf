import Muster.Proofs.Contents
import Muster.Proofs.Store.Mutexes
import Muster.Proofs.Store.Replay
import Muster.Store.Usage

/-!
# What a transaction has of the locks

A transaction has guards, and in some phases one grip more (`Party.grip?`): a reference to a mutex
that it wants or has left, or a place in its line. It fits what is committed in its store
(`Party.Fits`) if it has the guards of all cells that it has buffered a write of until it ends, and
if behind its commit each write shows as long as it has the guard. Each way in which it can change
has one lemma here; what it means for the others that a transaction has changed is
`turns_insert`.
-/

namespace Muster.Store

/-! ## What a transaction has -/

/-- The grip that a transaction has in a phase, beside its guards. -/
def Phase.grip? : Phase → Option (Cell × MutexId × Grip)
  | .cloned _ cell mutex => some (cell, mutex, .clone)
  | .queued _ cell mutex => some (cell, mutex, .place)
  | .leaving cell mutex _ => some (cell, mutex, .clone)
  | _ => none

/-- The request that a transaction is busy with. -/
def Phase.request? : Phase → Option Request
  | .cloned r _ _ => some r
  | .queued r _ _ => some r
  | .locked r => some r
  | _ => none

/-- The cell for whose lock a transaction waits. -/
def Phase.wanted? : Phase → Option Cell
  | .cloned _ cell _ => some cell
  | .queued _ cell _ => some cell
  | _ => none

/-- A phase with no grip on any cell but one. -/
def Phase.IsAt (phase : Phase) (cell : Cell) : Prop :=
  ∀ cell' mutex grip, phase.grip? = some (cell', mutex, grip) → cell' = cell

/-- A phase without a grip has none on other cells. -/
theorem Phase.isAt_of_none {phase : Phase} (h : phase.grip? = none) (cell : Cell) :
    phase.IsAt cell := by
  intro cell' mutex grip hgrip
  rw [h] at hgrip
  exact absurd hgrip (by simp)

/-- A phase with a grip on a cell has none on others. -/
theorem Phase.isAt_of_some {phase : Phase} {cell : Cell} {mutex : MutexId} {grip : Grip}
    (h : phase.grip? = some (cell, mutex, grip)) : phase.IsAt cell := by
  intro cell' mutex' grip' hgrip
  rw [h] at hgrip
  exact (Prod.mk.inj (Option.some.inj hgrip)).1.symm

namespace Party

variable {p : Party} {cell cell' : Cell} {mutex : MutexId} {grip : Grip}

/-- What a transaction has of the mutex of a cell. -/
def grip? (p : Party) (cell : Cell) : Option (MutexId × Grip) :=
  match p.guards.find? cell with
  | some mutex => some (mutex, .guard)
  | none =>
    match p.phase.grip? with
    | some (cell', mutex, grip) => if cell' = cell then some (mutex, grip) else none
    | none => none

/-- Its guard. -/
theorem grip?_of_guard (h : p.guards.find? cell = some mutex) :
    p.grip? cell = some (mutex, .guard) := by
  rw [grip?, h]

/-- What it has in its phase, where it has no guard. -/
theorem grip?_of_phase (hnone : p.guards.find? cell = none)
    (h : p.phase.grip? = some (cell, mutex, grip)) : p.grip? cell = some (mutex, grip) := by
  rw [grip?, hnone, h]
  dsimp only
  rw [if_pos rfl]

/-- Nothing, where it has no guard and its phase has no grip. -/
theorem grip?_of_none (hnone : p.guards.find? cell = none) (h : p.phase.grip? = none) :
    p.grip? cell = none := by
  rw [grip?, hnone, h]

/-- Elsewhere it has its guards only. -/
theorem grip?_of_ne (h : p.phase.IsAt cell) (hne : cell' ≠ cell) :
    p.grip? cell' = (p.guards.find? cell').map (·, .guard) := by
  rw [grip?]
  cases p.guards.find? cell' with
  | some mutex => rfl
  | none =>
    dsimp only
    split
    · rename_i hgrip
      rw [if_neg fun hcell => hne (hcell.symm.trans (h _ _ _ hgrip))]
      rfl
    · rfl

/-- A guard shows as such. -/
theorem guard_of_grip? (h : p.grip? cell = some (mutex, grip)) :
    p.guards.find? cell = some mutex ∧ grip = .guard ∨
      p.guards.find? cell = none ∧ p.phase.grip? = some (cell, mutex, grip) := by
  -- A guard is looked for first; without one the phase decides, and only for the cell it is at.
  rw [grip?] at h
  split at h
  · rename_i hguard
    obtain ⟨rfl, rfl⟩ := Prod.mk.inj (Option.some.inj h)
    exact .inl ⟨hguard, rfl⟩
  · rename_i hnone
    split at h
    · rename_i hgrip
      split at h
      · rename_i hcell
        obtain ⟨rfl, rfl⟩ := Prod.mk.inj (Option.some.inj h)
        exact .inr ⟨hnone, hcell ▸ hgrip⟩
      · exact absurd h (by simp)
    · exact absurd h (by simp)

/-- A transaction and what is committed in its store. -/
structure Fits (p : Party) (committed : Contents) : Prop where
  /-- It waits for no lock whose guard it has, and leaves none. -/
  apart : ∀ {cell mutex grip}, p.phase.grip? = some (cell, mutex, grip) →
    p.guards.find? cell = none
  /-- What it waits for is the lock of its request. -/
  asked : ∀ {r cell}, p.phase.request? = some r → p.phase.wanted? = some cell →
    r.lock? = some cell
  /-- A request that goes on with a lock has the guard. -/
  ready : ∀ {r}, p.phase = .locked r →
    ∃ cell mutex, r.lock? = some cell ∧ p.guards.find? cell = some mutex
  /-- A transaction that is about to end is busy with no request. -/
  active : ∀ {r}, p.phase.request? = some r → p.standing = .active
  /-- Before that it has the guards of all cells that it has buffered a write of. -/
  buffered : p.standing = .active → ∀ {cell}, p.tx.changes.find? cell ≠ none →
    ∃ mutex, p.guards.find? cell = some mutex
  /-- Behind its commit its writes show as long as it has the guards. -/
  visible : p.standing = .ending true → ∀ {cell mutex value}, p.guards.find? cell = some mutex →
    p.tx.changes.find? cell = some value → committed.find? cell = value

/-! ### A transaction that changes fits -/

variable {committed : Contents} {r : Request}

/-- A transaction that begins has nothing. -/
theorem fits_begin (committed : Contents) :
    Fits ⟨.begin committed, .empty, .idle, .active⟩ committed where
  apart h := absurd h (by simp [Phase.grip?])
  asked h := absurd h (by simp [Phase.request?])
  ready h := absurd h (by simp)
  active h := absurd h (by simp [Phase.request?])
  buffered _ _ h := absurd (SortedMap.find?_empty _) h
  visible h := absurd h (by simp)

/-- It may come to a phase in which it is busy with no request, and has no grip but on a cell whose
guard it has not. -/
theorem Fits.quiet (h : p.Fits committed) {phase : Phase} (hrequest : phase.request? = none)
    (hgrip : ∀ {cell mutex grip}, phase.grip? = some (cell, mutex, grip) →
      p.guards.find? cell = none) : Fits { p with phase } committed where
  apart := hgrip
  asked h := absurd (hrequest.symm.trans h) (by simp)
  ready hlocked := by
    rw [show phase = _ from hlocked] at hrequest
    exact absurd hrequest (by simp [Phase.request?])
  active h := absurd (hrequest.symm.trans h) (by simp)
  buffered := h.buffered
  visible := h.visible

/-- Above all it may have nothing to do. -/
theorem Fits.idle (h : p.Fits committed) : Fits { p with phase := .idle } committed :=
  h.quiet rfl fun hgrip => absurd hgrip (by simp [Phase.grip?])

/-- It may wait for the lock of a cell whose guard it has not. -/
theorem Fits.waiting (h : p.Fits committed) (hactive : p.standing = .active)
    (hlock : r.lock? = some cell) (hnone : p.guards.find? cell = none) {phase : Phase}
    (hphase : phase = .cloned r cell mutex ∨ phase = .queued r cell mutex) :
    Fits { p with phase } committed where
  apart {cell' mutex' grip'} hgrip := by
    -- The request that waits is for this cell, on which no guard is held.
    have hcell : cell = cell' := by
      rcases hphase with rfl | rfl
      · exact (Prod.mk.inj (Option.some.inj hgrip)).1
      · exact (Prod.mk.inj (Option.some.inj hgrip)).1
    exact hcell ▸ hnone
  asked {r' cell'} hrequest hwanted := by
    rcases hphase with rfl | rfl
    · rw [← Option.some.inj hrequest, ← Option.some.inj hwanted, hlock]
    · rw [← Option.some.inj hrequest, ← Option.some.inj hwanted, hlock]
  ready hlocked := by
    rcases hphase with rfl | rfl
    · exact absurd hlocked (by simp)
    · exact absurd hlocked (by simp)
  active _ := hactive
  buffered := h.buffered
  visible := h.visible

/-- It may go on with a lock whose guard it has. -/
theorem Fits.locked (h : p.Fits committed) (hactive : p.standing = .active)
    (hlock : r.lock? = some cell) (hguard : p.guards.find? cell = some mutex) :
    Fits { p with phase := .locked r } committed where
  apart hgrip := absurd hgrip (by simp [Phase.grip?])
  asked _ hwanted := absurd hwanted (by simp [Phase.wanted?])
  ready hlocked := by
    obtain rfl := Phase.locked.inj hlocked
    exact ⟨cell, mutex, hlock, hguard⟩
  active _ := hactive
  buffered := h.buffered
  visible := h.visible

/-- It may have one guard more. -/
theorem Fits.insert_guard (h : p.Fits committed) (hactive : p.standing = .active)
    (hidle : p.phase = .idle) (cell : Cell) (mutex : MutexId) :
    Fits { p with guards := p.guards.insert cell mutex } committed where
  apart hgrip := absurd (show p.phase.grip? = _ from hgrip) (by simp [hidle, Phase.grip?])
  asked _ hwanted := absurd (show p.phase.wanted? = _ from hwanted) (by simp [hidle, Phase.wanted?])
  ready hlocked := absurd (hidle.symm.trans hlocked) (by simp)
  active _ := hactive
  buffered _ cell' hchange := by
    obtain ⟨mutex', hguard⟩ := h.buffered hactive hchange
    by_cases hcell : cell' = cell
    · exact ⟨mutex, by rw [hcell]; exact SortedMap.find?_insert_self ..⟩
    · exact ⟨mutex', (SortedMap.find?_insert_of_ne _ _ hcell).trans hguard⟩
  visible hending := absurd (hactive.symm.trans hending) (by simp)

/-- When it is about to end, it may have one guard less. -/
theorem Fits.erase_guard (h : p.Fits committed) (hending : p.standing ≠ .active)
    (hidle : p.phase = .idle) (cell : Cell) :
    Fits { p with guards := p.guards.erase cell } committed where
  -- A transaction that is ending is idle, so only the clauses about its standing ask anything.
  apart hgrip := absurd (show p.phase.grip? = _ from hgrip) (by simp [hidle, Phase.grip?])
  asked _ hwanted := absurd (show p.phase.wanted? = _ from hwanted) (by simp [hidle, Phase.wanted?])
  ready hlocked := absurd (hidle.symm.trans hlocked) (by simp)
  active hrequest := absurd (show p.phase.request? = _ from hrequest)
    (by simp [hidle, Phase.request?])
  buffered hactive := absurd hactive hending
  visible hcommitted cell' mutex value hguard := by
    rw [SortedMap.find?_erase] at hguard
    split at hguard
    · exact absurd hguard (by simp)
    · exact h.visible hcommitted hguard

/-- It may do what it is asked for if it has the guard of the cell. -/
theorem Fits.perform (h : p.Fits committed) (hactive : p.standing = .active)
    (hguard : ∀ cell, r.lock? = some cell → ∃ mutex, p.guards.find? cell = some mutex) :
    Fits { p with tx := (p.tx.perform committed r).1, phase := .idle } committed where
  apart hgrip := absurd hgrip (by simp [Phase.grip?])
  asked _ hwanted := absurd hwanted (by simp [Phase.wanted?])
  ready hlocked := absurd hlocked (by simp)
  active _ := hactive
  buffered _ cell hchange := by
    by_cases hlock : r.lock? = some cell
    · exact hguard cell hlock
    · have hsame := p.tx.find?_changes_perform committed r hlock
      exact h.buffered hactive (hsame ▸ hchange)
  visible hending := absurd (hactive.symm.trans hending) (by simp)

/-- When its changes have been made, they show. -/
theorem Fits.publish (hidle : p.phase = .idle) :
    Fits { p with standing := .ending true } (committed.apply p.tx.changes) where
  apart hgrip := absurd (show p.phase.grip? = _ from hgrip) (by simp [hidle, Phase.grip?])
  asked _ hwanted := absurd (show p.phase.wanted? = _ from hwanted) (by simp [hidle, Phase.wanted?])
  ready hlocked := absurd (hidle.symm.trans hlocked) (by simp)
  active hrequest := absurd (show p.phase.request? = _ from hrequest)
    (by simp [hidle, Phase.request?])
  buffered hactive := absurd hactive (by simp)
  visible _ cell mutex value _ hchange := by
    rw [Contents.find?_apply, hchange]
    rfl

/-- It may also come to its end without them. -/
theorem Fits.close (hidle : p.phase = .idle) :
    Fits { p with standing := .ending false } committed where
  apart hgrip := absurd (show p.phase.grip? = _ from hgrip) (by simp [hidle, Phase.grip?])
  asked _ hwanted := absurd (show p.phase.wanted? = _ from hwanted) (by simp [hidle, Phase.wanted?])
  ready hlocked := absurd (hidle.symm.trans hlocked) (by simp)
  active hrequest := absurd (show p.phase.request? = _ from hrequest)
    (by simp [hidle, Phase.request?])
  buffered hactive := absurd hactive (by simp)
  visible hcommitted := absurd hcommitted (by simp)

/-- A commit of another transaction changes no cell whose guard it has. -/
theorem Fits.apply (h : p.Fits committed) {changes : Changes}
    (hapart : ∀ {cell mutex}, p.guards.find? cell = some mutex → changes.find? cell = none) :
    p.Fits (committed.apply changes) where
  apart := h.apart
  asked := h.asked
  ready := h.ready
  active := h.active
  buffered := h.buffered
  visible hcommitted {cell mutex value} hguard hchange := by
    rw [Contents.find?_apply, hapart hguard]
    exact h.visible hcommitted hguard hchange

end Party

/-- The grips of transactions. -/
def gripsOf (parties : SortedMap TransactionId Party) : Grips :=
  fun id cell => (parties.find? id).bind (·.grip? cell)

/-- The grip of a transaction. -/
theorem gripsOf_of_find? {parties : SortedMap TransactionId Party} {id : TransactionId} {p : Party}
    (hp : parties.find? id = some p) (cell : Cell) : gripsOf parties id cell = p.grip? cell := by
  rw [gripsOf, hp]
  rfl

variable {id : TransactionId} {p p' : Party} {cell : Cell}

/-- The grips of transactions of which one has changed, beside one cell. -/
theorem turns_insert {parties : SortedMap TransactionId Party} {new : Option (MutexId × Grip)}
    (hp : parties.find? id = some p) (hphase : p.phase.IsAt cell) (hphase' : p'.phase.IsAt cell)
    (hguards : ∀ cell', cell' ≠ cell → p'.guards.find? cell' = p.guards.find? cell')
    (hnew : p'.grip? cell = new) :
    (gripsOf parties).Turns (gripsOf (parties.insert id p')) id cell new where
  self := by rw [gripsOf_of_find? (SortedMap.find?_insert_self ..), hnew]
  others id' cell' hother := by
    by_cases hid : id' = id
    · subst hid
      have hne : cell' ≠ cell := fun hcell => hother ⟨rfl, hcell⟩
      rw [gripsOf_of_find? (SortedMap.find?_insert_self ..), gripsOf_of_find? hp,
        Party.grip?_of_ne hphase' hne, Party.grip?_of_ne hphase hne, hguards cell' hne]
    · rw [gripsOf, gripsOf, SortedMap.find?_insert_of_ne _ _ hid]

/-- The grips of transactions of which one has changed, but not in what it has. -/
theorem gripsOf_insert {parties : SortedMap TransactionId Party}
    (hp : parties.find? id = some p) (hguards : p'.guards = p.guards)
    (hphase : p'.phase.grip? = p.phase.grip?) (id' : TransactionId) (cell : Cell) :
    gripsOf (parties.insert id p') id' cell = gripsOf parties id' cell := by
  by_cases hid : id' = id
  · subst hid
    rw [gripsOf_of_find? (SortedMap.find?_insert_self ..), gripsOf_of_find? hp, Party.grip?,
      Party.grip?, hguards, hphase]
  · rw [gripsOf, gripsOf, SortedMap.find?_insert_of_ne _ _ hid]

end Muster.Store
