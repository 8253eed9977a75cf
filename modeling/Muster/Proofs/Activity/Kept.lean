import Muster.Proofs.Activity.Upshot

/-!
# Which gateway list is kept

The list that is kept for an owner is that of the refresh that has read the clock last, among those
that have handed in theirs (`kept_started_last`): a list is replaced only by one of a refresh that
began no earlier, so what is kept never falls behind a list that was handed in (`isHeld_after`).

This is an order of readings of the clock, not of snapshots. A refresh takes its snapshot after it
has read the clock, and another one may do both in between; then the list of the older snapshot is
kept (`older_snapshot_is_kept`).
-/

namespace Muster

variable {owner : String} {instant : Nat} {w : World}

/-- A list is kept of a refresh that began at an instant or later. -/
def World.IsHeld (w : World) (owner : String) (instant : Nat) : Prop :=
  ∃ list, w.kept.find? owner = some list ∧ instant ≤ list.startedAt

namespace World

/-- Whether a list is held depends on the lists that are kept, and on nothing else of the world. -/
theorem IsHeld.of_kept_eq {w' : World} (h : w.IsHeld owner instant) (hkept : w'.kept = w.kept) :
    w'.IsHeld owner instant := by
  obtain ⟨list, hlist, hle⟩ := h
  exact ⟨list, hkept ▸ hlist, hle⟩

/-- A list that is handed in is kept, unless there is one of a later refresh. -/
theorem isHeld_publish (w : World) (owner : String) (list : KeptList) :
    (w.publish owner list).1.IsHeld owner list.startedAt := by
  rw [publish]
  split
  · rename_i old hold
    split
    · exact ⟨list, SortedMap.find?_insert_self .., Nat.le_refl _⟩
    · rename_i hlater
      exact ⟨old, hold, Nat.le_of_lt (Nat.lt_of_not_le hlater)⟩
  · exact ⟨list, SortedMap.find?_insert_self .., Nat.le_refl _⟩

/-- A list is replaced only by one of a refresh that began no earlier. -/
theorem IsHeld.publish (h : w.IsHeld owner instant) (owner' : String) (list : KeptList) :
    (w.publish owner' list).1.IsHeld owner instant := by
  obtain ⟨old, hold, hle⟩ := h
  -- Only a list for the same owner can take the place of the old one.
  by_cases hsame : owner' = owner
  · subst hsame
    obtain ⟨new, hnew, hstarted⟩ := w.isHeld_publish owner' list
    -- A list that is older than the old one is turned away.
    by_cases hlater : old.startedAt ≤ list.startedAt
    · exact ⟨new, hnew, Nat.le_trans hle (Nat.le_trans hlater hstarted)⟩
    · refine ⟨old, ?_, hle⟩
      rw [World.publish, hold]
      dsimp only
      rw [if_neg hlater]
      exact hold
  · refine ⟨old, ?_, hle⟩
    have hother : ∀ kept : SortedMap String KeptList, kept.find? owner = some old →
        (kept.insert owner' list).find? owner = some old := fun kept hkept =>
      (SortedMap.find?_insert_of_ne _ _ (Ne.symm hsame)).trans hkept
    rw [World.publish]
    split
    · split
      · exact hother _ hold
      · exact hold
    · exact hother _ hold

/-- No call makes the list that is kept fall behind. -/
theorem IsHeld.perform (h : w.IsHeld owner instant) (me : Context) (c : Call) :
    (w.perform me c).1.IsHeld owner instant := by
  by_cases hpublish : ∃ owner' list, c = .publish owner' list
  · obtain ⟨owner', list, rfl⟩ := hpublish
    exact h.publish owner' list
  · exact h.of_kept_eq (w.kept_perform me fun owner' list hc => hpublish ⟨owner', list, hc⟩)

end World

namespace Setting

variable {ι ρ : Type} {S : Setting ι ρ} {world : World} {moves : List (Move ι)} {id : TaskId}
  {h h' : History ι ρ}

/-- No move lets what is kept fall behind. -/
theorem isHeld_after (hheld : h.system.world.IsHeld owner instant) (move : Move ι) :
    (S.after h move).system.world.IsHeld owner instant := by
  unfold Setting.after
  -- Of all moves only a call may hand in a list, and it never hands in one that falls behind.
  split
  · rename_i system hstep
    cases move with
    | start what isCancelled trigger =>
      obtain ⟨-, rfl⟩ := System.step_start hstep
      exact hheld
    | call id =>
      obtain ⟨context, c, go, -, rfl⟩ := System.step_call hstep
      exact hheld.perform context c
    | expire id =>
      obtain ⟨task, -, rfl⟩ := System.step_expire hstep
      exact hheld.of_kept_eq (World.agrees_expire _ _ _).kept
    | abandon id =>
      obtain ⟨task, -, rfl⟩ := System.step_abandon hstep
      exact hheld.of_kept_eq (World.agrees_abandon _ _ _).kept
    | cancel id =>
      obtain ⟨task, -, rfl⟩ := System.step_cancel hstep
      exact hheld
    | wait micros =>
      obtain rfl := Option.some.inj hstep
      exact hheld
    | tick nanos =>
      obtain rfl := Option.some.inj hstep
      exact hheld
  · exact hheld

/-- What is kept behind a step is not fallen behind at the end of the run. -/
theorem Steps.isHeld (hsteps : S.Steps world moves id h h')
    (hheld : h'.system.world.IsHeld owner instant) :
    (S.run world moves).system.world.IsHeld owner instant := by
  induction moves using List.reverseRecOn with
  | nil => exact absurd hsteps not_steps_nil
  | append_singleton moves move ih =>
    rw [run_concat]
    rcases steps_concat.1 hsteps with hold | ⟨rfl, rfl, -⟩
    · exact isHeld_after (ih hold) move
    · exact hheld

end Setting

namespace Activity

/-- **The list that is kept is that of the refresh that started last.** Where a refresh has
returned, a list is kept of a refresh that has read the clock at the same instant or later. -/
theorem kept_started_last {store : String} (world : World) (moves : List (Move (Activity store)))
    {id : TaskId} {job : Job (Activity store)} {g : GatewayList} {on : g.store = store}
    {uris : List Uri} (hjob : ((setting store).run world moves).jobs[id]? = some job)
    (hwhat : job.what = .refresh g on)
    (hresult : ((setting store).run world moves).result? id = some (.ok (.gateways uris))) :
    ∃ c c', (setting store).Steps world moves id c c' ∧
      ((setting store).run world moves).system.world.IsHeld g.owner c.system.world.instant := by
  obtain ⟨job', task, hjob', htask, hdone, -⟩ :=
    ((setting store).follows_run world moves).ends along_program hresult
  obtain rfl := Option.some.inj (hjob.symm.trans hjob')
  obtain ⟨trail, steps, hmarks, hrest⟩ :=
    (setting store).trails_run world moves hjob _ job.what.leaves_program
  have htrailed := hrest task htask
  rw [hdone, hwhat] at htrailed
  obtain ⟨startedAt, hreadings, hpublished⟩ := htrailed
  obtain ⟨c, c', hc, hinstant⟩ := hmarks.readings startedAt (by rw [hreadings]; simp)
  refine ⟨c, c', hc, ?_⟩
  -- It has handed its list in at one of its steps, and nothing has fallen behind that since.
  have hhanded := hmarks.published
  rw [hpublished, List.forall₂_cons_right_iff] at hhanded
  obtain ⟨⟨h, h'⟩, rest, ⟨hh, hhands⟩, -⟩ := hhanded
  rw [hinstant]
  exact hh.isHeld ((h.system.world.isHeld_publish g.owner ⟨uris, startedAt⟩).of_kept_eq hhands)

/-! ## Two refreshes that cross -/

namespace Sample

/-- A gateway list of the rows of the table. -/
def list : GatewayList :=
  ⟨"gateways", "main", "cluster", "members", .canonical, .ofSeconds 60⟩

/-- The entry of a silo with a gateway. -/
def gateway : Silo.Entry :=
  { Table.Sample.entry with status := .active, proxyPort := 30000 }

/-- A refresh of the list. -/
def refresh : Activity "main" :=
  .refresh list rfl

/-- A refresh reads the clock; another one reads it later and takes its snapshot; a gateway is
inserted; the first one takes its snapshot and hands in its list. -/
def firstMoves : List (Move (Activity "main")) :=
  .start refresh false .never :: List.replicate 5 (.call 0) ++ .tick 1 ::
    .start refresh false .never :: List.replicate 4 (.call 1) ++
    .start (insertion gateway) false .never :: List.replicate 24 (.call 2) ++
    List.replicate 12 (.call 0)

/-- The second refresh hands in its list as well. -/
def crossingMoves : List (Move (Activity "main")) :=
  firstMoves ++ List.replicate 9 (.call 1)

/-- The history of the refresh that has handed in first. -/
def first : Run "main" :=
  (setting "main").run Table.Sample.world firstMoves

/-- The history of both refreshes. -/
def crossing : Run "main" :=
  (setting "main").run Table.Sample.world crossingMoves

end Sample

/-- The list of the newer snapshot, which has the gateway, is replaced by that of the older one,
which has none: the snapshot of the first refresh is that of moment 37, that of the second one of
moment 11, and the insertion between them began at moment 19. -/
theorem older_snapshot_is_kept :
    Sample.crossing.jobs.map Job.opening = [37, 11, 19] ∧
    (Sample.first.system.world.kept.find? "gateways").map (fun kept =>
      (kept.gateways.length, kept.startedAt)) = some (1, 0) ∧
    (Sample.crossing.system.world.kept.find? "gateways").map (fun kept =>
      (kept.gateways.length, kept.startedAt)) = some (0, 1) := by
  refine ⟨?_, ?_, ?_⟩
  · decide +kernel
  · decide +kernel
  · decide +kernel

end Activity

end Muster
