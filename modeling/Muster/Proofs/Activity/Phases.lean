import Muster.Proofs.Activity.Kept
import Muster.Proofs.Gateways.Phases
import Muster.Proofs.System.Advances

/-!
# The phases of the programs of a run

Along a run every program is in a phase that agrees with when its job has read the clock
(`inPhase_run`). If it has handed in its list and is not done, the list was turned away, so one of a
later refresh was kept already; and from then on one of a later refresh always is.
-/

namespace Muster

open GatewayList (Phase)

variable {owner : String} {instant : Nat}

/-- When a refresh has read the clock, if it has. -/
def GatewayList.Phase.startedAt? : Phase → Option Nat
  | .fresh => none
  | .read startedAt => some startedAt
  | .handed list => some list.startedAt

/-- A list is turned away only if one of a later refresh is kept. -/
theorem World.publish_cases (w : World) (owner : String) (list : KeptList) :
    ((w.publish owner list).2 = true ∧
      (w.publish owner list).1.kept = w.kept.insert owner list ∧
      ∀ old, w.kept.find? owner = some old → old.startedAt ≤ list.startedAt) ∨
    ((w.publish owner list).2 = false ∧ (w.publish owner list).1 = w ∧
      ∃ old, w.kept.find? owner = some old ∧ list.startedAt < old.startedAt) := by
  rw [publish]
  split
  · rename_i old hold
    split
    · rename_i hle
      refine .inl ⟨rfl, rfl, fun old' hold' => ?_⟩
      rwa [← Option.some.inj (hold.symm.trans hold')]
    · rename_i hlater
      exact .inr ⟨rfl, rfl, old, hold, Nat.lt_of_not_le hlater⟩
  · rename_i hnone
    exact .inl ⟨rfl, rfl, fun old hold => absurd (hnone.symm.trans hold) (by simp)⟩

namespace Setting

variable {ι ρ : Type} {S : Setting ι ρ} {world : World} {moves : List (Move ι)} {move : Move ι}
  {id : TaskId} {Q : ρ → Phase → Prop}

/-! ## Reading the clock -/

/-- At one of its moves a job has read the clock of refreshes, which showed an instant. -/
def HasRead (S : Setting ι ρ) (world : World) (moves : List (Move ι)) (id : TaskId)
    (instant : Nat) : Prop :=
  ∃ front, front ++ [.call id] <+: moves ∧ (S.run world front).system.world.instant = instant ∧
    ∃ go, (S.run world front).program? id = some (.call .now go)

/-- A clock that was read early in a run was read in the run. -/
theorem HasRead.mono {front : List (Move ι)} (h : S.HasRead world front id instant)
    (hfront : front <+: moves) : S.HasRead world moves id instant := by
  obtain ⟨before, hbefore, hread⟩ := h
  exact ⟨before, hbefore.trans hfront, hread⟩

/-- One more move reads the clock only if it is a call of the task and its program asks for the
instant. -/
theorem hasRead_concat : S.HasRead world (moves ++ [move]) id instant ↔
    S.HasRead world moves id instant ∨
      move = .call id ∧ (S.run world moves).system.world.instant = instant ∧
        ∃ go, (S.run world moves).program? id = some (.call .now go) := by
  constructor
  · rintro ⟨front, hfront, hread⟩
    rcases List.prefix_concat_iff.1 hfront with hall | hold
    · obtain ⟨rfl, hlast⟩ := List.append_inj' hall rfl
      exact .inr ⟨(List.singleton_inj.1 hlast).symm, hread⟩
    · exact .inl ⟨front, hold, hread⟩
  · rintro (hread | ⟨rfl, hread⟩)
    · exact hread.mono (List.prefix_append _ _)
    · exact ⟨moves, List.prefix_rfl, hread⟩

/-- A program that reads the clock goes on with what it shows. -/
theorem program?_after_now {h : History ι ρ} {go : Nat → Program ρ}
    (hprogram : h.program? id = some (.call .now go)) :
    (S.after h (.call id)).program? id = some (go h.system.world.instant) := by
  obtain ⟨⟨program, context⟩, htask, hcall⟩ := Option.map_eq_some_iff.1 hprogram
  obtain rfl : program = .call .now go := hcall
  exact program?_after_call htask rfl

/-! ## Every program is in a phase -/

/-- A program is in a phase that agrees with when its job has read the clock; if it has handed in
its list and is not done, a later list is kept. -/
structure InPhase (S : Setting ι ρ) (world : World) (moves : List (Move ι)) (owner : String)
    (Q : ρ → Phase → Prop) (id : TaskId) (program : Program ρ) (phase : Phase) : Prop where
  /-- What is left of the program goes on from the phase. -/
  refreshes : program.Refreshes owner Q phase
  /-- The job has read the clock as the phase says. -/
  read : ∀ instant, S.HasRead world moves id instant ↔ phase.startedAt? = some instant
  /-- It is done behind its list, or that was turned away. -/
  turnedAway : ∀ list, phase = .handed list → (∃ result, program = .done result) ∨
    (S.run world moves).system.world.IsHeld owner (list.startedAt + 1)

/-- A job that has read the clock is known. -/
theorem HasRead.lt (h : S.HasRead world moves id instant) :
    id < (S.run world moves).jobs.length := by
  induction moves using List.reverseRecOn with
  | nil =>
    obtain ⟨front, hfront, -⟩ := h
    exact absurd (List.prefix_nil.1 hfront) (by simp)
  | append_singleton moves move ih =>
    have hle := S.length_jobs_after (S.run world moves) move
    rw [run_concat]
    rcases hasRead_concat.1 h with hold | ⟨-, -, go, hgo⟩
    · exact Nat.lt_of_lt_of_le (ih hold) hle
    · obtain ⟨task, htask, -⟩ := Option.map_eq_some_iff.1 hgo
      exact Nat.lt_of_lt_of_le ((S.follows_run world moves).known htask) hle

/-- A move that is no reading of the clock by the job leaves what the job has read. -/
theorem hasRead_of_not_now (hnot : ¬ ∃ go, move = .call id ∧
    (S.run world moves).program? id = some (.call .now go)) :
    S.HasRead world (moves ++ [move]) id instant ↔ S.HasRead world moves id instant := by
  rw [hasRead_concat, or_iff_left]
  rintro ⟨hmove, -, go, hgo⟩
  exact hnot ⟨go, hmove, hgo⟩

/-- A program that has just been started is in the first phase. -/
theorem inPhase_start {program : Program ρ} (hprogram : program.Refreshes owner Q .fresh)
    (hid : id = (S.run world moves).jobs.length)
    (hbefore : (S.run world moves).program? id = none) :
    S.InPhase world (moves ++ [move]) owner Q id program .fresh where
  refreshes := hprogram
  read instant := by
    rw [hasRead_of_not_now fun ⟨go, _, hgo⟩ => absurd (hbefore.symm.trans hgo) (by simp)]
    refine ⟨fun hread => ?_, fun hnone => absurd hnone (by simp [Phase.startedAt?])⟩
    exact absurd (hid ▸ hread.lt) (Nat.lt_irrefl _)
  turnedAway list hlist := absurd hlist (by simp)

variable {program program' : Program ρ} {phase : Phase}

/-- A plain call, be it answered or not, leaves a program in its phase. -/
theorem InPhase.same (hp : S.InPhase world moves owner Q id program phase)
    (hrefreshes : program'.Refreshes owner Q phase)
    (hnot : ¬ ∃ go, move = .call id ∧ (S.run world moves).program? id = some (.call .now go))
    (hdone : ∀ result, program = .done result → program' = .done result) :
    S.InPhase world (moves ++ [move]) owner Q id program' phase where
  refreshes := hrefreshes
  read instant := (hasRead_of_not_now hnot).trans (hp.read instant)
  turnedAway list hlist := by
    rw [run_concat]
    rcases hp.turnedAway list hlist with ⟨result, hresult⟩ | hheld
    · exact .inl ⟨result, hdone result hresult⟩
    · exact .inr (isHeld_after hheld move)

/-- A program that reads the clock gets into the second phase. -/
theorem InPhase.now {go : Nat → Program ρ}
    (hp : S.InPhase world moves owner Q id (.call .now go) phase)
    (hprogram : (S.run world moves).program? id = some (.call .now go)) :
    S.InPhase world (moves ++ [.call id]) owner Q id (go (S.run world moves).system.world.instant)
      (.read (S.run world moves).system.world.instant) where
  refreshes := hp.refreshes.2 _
  read instant := by
    -- In the phase before, the clock has not been read, so it is read here only.
    have hnot : ¬ S.HasRead world moves id instant := by
      rw [hp.read, hp.refreshes.1]
      simp [Phase.startedAt?]
    rw [hasRead_concat, or_iff_right hnot]
    constructor
    · rintro ⟨-, hinstant, -⟩
      exact congrArg some hinstant
    · intro hinstant
      exact ⟨rfl, Option.some.inj hinstant, go, hprogram⟩
  turnedAway list hlist := absurd hlist (by simp)

/-- A program that hands in its list gets into the last phase. -/
theorem InPhase.publish {owner' : String} {list : KeptList} {go : Bool → Program ρ}
    (hp : S.InPhase world moves owner Q id (.call (.publish owner' list) go) phase)
    (hprogram : (S.run world moves).program? id = some (.call (.publish owner' list) go))
    (hworld : (S.after (S.run world moves) (.call id)).system.world =
      ((S.run world moves).system.world.publish owner' list).1) :
    S.InPhase world (moves ++ [.call id]) owner Q id
      (go ((S.run world moves).system.world.publish owner' list).2) (.handed list) where
  refreshes := hp.refreshes.2.2.2 _
  read instant := by
    -- The call is no reading of the clock.
    have hnot : ¬ ∃ go, (Move.call id : Move ι) = .call id ∧
        (S.run world moves).program? id = some (.call .now go) := by
      rintro ⟨go', -, hgo'⟩
      have hcall := Option.some.inj (hprogram.symm.trans hgo')
      exact absurd (Program.call.inj hcall).1 (by simp)
    rw [hasRead_of_not_now hnot, hp.read, hp.refreshes.2.1]
    exact Iff.rfl
  turnedAway list' hlist := by
    obtain rfl := Phase.handed.inj hlist
    obtain ⟨rfl, -, hdone, -⟩ := hp.refreshes
    -- Either the list is kept, or a younger one was kept already and has turned it away.
    rw [run_concat]
    rcases (S.run world moves).system.world.publish_cases owner' list with ⟨hkept, -, -⟩ |
      ⟨-, hsame, old, hold, hlt⟩
    · rw [hkept]
      exact .inl hdone
    · refine .inr ⟨old, ?_, hlt⟩
      rw [hworld, hsame]
      exact hold

/-- A program that is there before a move is that of a job with the purpose that it has behind it.
-/
theorem exists_job_of_program? {job : Job ι} {before : Program ρ}
    (hjob : (S.after (S.run world moves) move).jobs[id]? = some job)
    (hbefore : (S.run world moves).program? id = some before) :
    ∃ job', (S.run world moves).jobs[id]? = some job' ∧ job'.what = job.what := by
  obtain ⟨task, htask, -⟩ := Option.map_eq_some_iff.1 hbefore
  rcases what_after_cases hjob with hold | ⟨hid, -⟩
  · exact hold
  · exact absurd hid (Nat.ne_of_lt ((S.follows_run world moves).known htask))

/-- **The programs of a run are in phases.** -/
theorem inPhase_run (S : Setting ι ρ) (world : World) (moves : List (Move ι)) {job : Job ι}
    (hjob : (S.run world moves).jobs[id]? = some job)
    (hQ : (S.program job.what).Refreshes owner Q .fresh)
    (hprogram : (S.run world moves).program? id = some program) :
    ∃ phase, S.InPhase world moves owner Q id program phase := by
  induction moves using List.reverseRecOn generalizing job program with
  | nil => exact absurd hjob (by simp [run, begin])
  | append_singleton moves move ih =>
    rw [run_concat] at hjob hprogram
    have hadvances := S.advances_after (S.run world moves) move id
    -- By induction, a task that was there before the move was in a phase.
    have hearlier : ∀ {before}, (S.run world moves).program? id = some before →
        ∃ phase, S.InPhase world moves owner Q id before phase := by
      intro before hbefore
      obtain ⟨job', hjob', hwhat⟩ := exists_job_of_program? hjob hbefore
      exact ih hjob' (hwhat ▸ hQ) hbefore
    -- A move that reads the clock is the one thing that the phases are about, so it comes first.
    by_cases hnow : ∃ go, move = .call id ∧
        (S.run world moves).program? id = some (.call .now go)
    · obtain ⟨go, rfl, hcall⟩ := hnow
      obtain rfl := Option.some.inj (hprogram.symm.trans (program?_after_now hcall))
      obtain ⟨phase, hp⟩ := hearlier hcall
      exact ⟨_, hp.now hcall⟩
    · cases hadvances with
      | idle hsame =>
        rw [hsame] at hprogram
        obtain ⟨phase, hp⟩ := hearlier hprogram
        exact ⟨phase, hp.same hp.refreshes hnow fun _ hdone => hdone⟩
      | started hmove hid hbefore hbehind =>
        obtain rfl := Option.some.inj (hprogram.symm.trans hbehind)
        rcases what_after_cases hjob with ⟨job', hjob', -⟩ | ⟨-, isCancelled, trigger, hstart⟩
        · have hlt := (List.getElem?_eq_some_iff.1 hjob').1
          exact absurd hid (Nat.ne_of_lt hlt)
        · obtain ⟨hwhat, -⟩ := Move.start.inj (hmove.symm.trans hstart)
          exact ⟨.fresh, inPhase_start (hwhat ▸ hQ) hid hbefore⟩
      | @answered context c go reply hmove hbefore hreply hworld hbehind =>
        obtain rfl := hmove
        obtain rfl := Option.some.inj (hprogram.symm.trans hbehind)
        have hcall := History.program?_eq hbefore
        obtain ⟨phase, hp⟩ := hearlier hcall
        -- Of the calls that remain, only one that hands in a list changes the phase.
        by_cases hplain : c.IsPlain
        · have hrefreshes := (Program.refreshes_call hplain).1 hp.refreshes
          exact ⟨phase, hp.same (hrefreshes reply) hnow fun _ hdone => absurd hdone (by simp)⟩
        · cases c with
          | now => exact absurd ⟨go, rfl, hcall⟩ hnow
          | publish owner' list =>
            obtain rfl := Option.some.inj hreply
            exact ⟨_, hp.publish hcall hworld⟩
          | _ => exact absurd trivial hplain
      | timedOut hmove hbefore hbehind =>
        obtain rfl := Option.some.inj (hprogram.symm.trans hbehind)
        obtain ⟨phase, hp⟩ := hearlier hbefore
        exact ⟨phase, hp.same (hp.refreshes _) hnow fun _ hdone => absurd hdone (by simp)⟩
      | dropped hmove hbefore hbehind => exact absurd (hbehind.symm.trans hprogram) (by simp)

end Setting

end Muster
