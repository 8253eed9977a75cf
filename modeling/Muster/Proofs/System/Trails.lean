import Mathlib.Data.List.Forall2
import Muster.Proofs.Program.Trail
import Muster.Proofs.System.Moments

/-!
# The trails of a run

What a program leaves behind, by its text, is borne out by the steps of its job (`Marks`): what it
has read from the clock is what the clock showed at one of its steps, each list that it has handed
in was handed in at a step of its own, and at all other steps the lists that are kept stay as they
are. This holds of every job in every run (`trails_run`).
-/

namespace Muster.Setting

variable {ι ρ : Type} {S : Setting ι ρ} {world : World} {moves : List (Move ι)} {move : Move ι}
  {h h' : History ι ρ} {id : TaskId} {job : Job ι} {k : Trail}

/-- Between the two histories of a step a list is handed in: it is kept unless that of a later
refresh is. -/
def Hands (step : History ι ρ × History ι ρ) (entry : String × KeptList) : Prop :=
  step.2.system.world.kept = (step.1.system.world.publish entry.1 entry.2).1.kept

/-- The steps of a job bear out a trail; its lists were handed in at the given ones. -/
structure Marks (S : Setting ι ρ) (world : World) (moves : List (Move ι)) (id : TaskId) (k : Trail)
    (steps : List (History ι ρ × History ι ρ)) : Prop where
  /-- The clock showed what was read. -/
  readings : ∀ instant ∈ k.readings, ∃ h h', S.Steps world moves id h h' ∧
    h.system.world.instant = instant
  /-- Each list was handed in at a step of its own. -/
  published : List.Forall₂
    (fun step entry => S.Steps world moves id step.1 step.2 ∧ Hands step entry) steps k.published
  /-- At other steps the lists that are kept stay as they are. -/
  still : ∀ {h h'}, S.Steps world moves id h h' →
    (h, h') ∈ steps ∨ h'.system.world.kept = h.system.world.kept

variable {steps : List (History ι ρ × History ι ρ)}

/-- A step of a run is one of the run with one more move. -/
theorem Steps.concat (hsteps : S.Steps world moves id h h') (move : Move ι) :
    S.Steps world (moves ++ [move]) id h h' :=
  steps_concat.2 (.inl hsteps)

/-- A step of a job that is not known changes nothing. -/
theorem Steps.eq_or_lt (hsteps : S.Steps world moves id h h') :
    h' = h ∨ id < (S.run world moves).jobs.length := by
  induction moves using List.reverseRecOn with
  | nil => exact absurd hsteps not_steps_nil
  | append_singleton moves move ih =>
    rw [run_concat]
    rcases steps_concat.1 hsteps with hold | ⟨rfl, rfl, hwho⟩
    · rcases ih hold with hsame | hlt
      · exact .inl hsame
      · exact .inr (Nat.lt_of_lt_of_le hlt (S.length_jobs_after _ move))
    · -- A task that moves is that of a job.
      have hknown : ∀ {id' task}, (S.run world moves).system.tasks.find? id' = some task →
          id' < (S.run world moves).jobs.length := (S.follows_run world moves).known
      have hlength := S.length_jobs_after (S.run world moves) move
      unfold Setting.after at hlength ⊢
      split at hlength
      · rename_i system hstep
        refine .inr ?_
        cases move with
        | start what isCancelled trigger =>
          obtain rfl := Option.some.inj hwho
          show _ < ((S.run world moves).jobs ++ [_]).length
          rw [List.length_append]
          exact Nat.lt_succ_self _
        | call id' =>
          obtain rfl := Option.some.inj hwho
          obtain ⟨context, c, go, htask, -⟩ := System.step_call hstep
          exact Nat.lt_of_lt_of_le (hknown htask) hlength
        | expire id' =>
          obtain rfl := Option.some.inj hwho
          obtain ⟨task, htask, -⟩ := System.step_expire hstep
          exact Nat.lt_of_lt_of_le (hknown htask) hlength
        | abandon id' =>
          obtain rfl := Option.some.inj hwho
          obtain ⟨task, htask, -⟩ := System.step_abandon hstep
          exact Nat.lt_of_lt_of_le (hknown htask) hlength
        | _ => exact absurd hwho (by simp [jobsAfter])
      · exact .inl rfl

/-- A job that is not known has left no trail. -/
theorem marks_start (hid : (S.run world moves).jobs.length ≤ id) :
    S.Marks world moves id .start [] where
  readings _ hmem := absurd hmem (by simp [Trail.start])
  published := .nil
  still hsteps := by
    rcases hsteps.eq_or_lt with rfl | hlt
    · exact .inr rfl
    · exact absurd hlt (Nat.not_lt.2 hid)

/-- One more move keeps a trail if it is another job's, or leaves the lists that are kept. -/
theorem Marks.concat (hm : S.Marks world moves id k steps)
    (hkept : (jobsAfter (S.run world moves) move).2 = some id →
      (S.after (S.run world moves) move).system.world.kept =
        (S.run world moves).system.world.kept) :
    S.Marks world (moves ++ [move]) id k steps where
  readings instant hmem := by
    obtain ⟨h, h', hsteps, hinstant⟩ := hm.readings instant hmem
    exact ⟨h, h', hsteps.concat move, hinstant⟩
  published := hm.published.imp fun _ _ hstep => ⟨hstep.1.concat move, hstep.2⟩
  still hsteps := by
    rcases steps_concat.1 hsteps with hold | ⟨rfl, rfl, hwho⟩
    · exact hm.still hold
    · exact .inr (hkept hwho)

/-- A list that is handed in adds to the trail. -/
theorem Marks.publish (hm : S.Marks world moves id k steps)
    (hwho : (jobsAfter (S.run world moves) move).2 = some id) {owner : String} {list : KeptList}
    (hhands : Hands (S.run world moves, S.after (S.run world moves) move) (owner, list)) :
    S.Marks world (moves ++ [move]) id { k with published := (owner, list) :: k.published }
      ((S.run world moves, S.after (S.run world moves) move) :: steps) where
  readings instant hmem := by
    obtain ⟨h, h', hsteps, hinstant⟩ := hm.readings instant hmem
    -- A reading made before is among the steps of the longer run.
    exact ⟨h, h', hsteps.concat move, hinstant⟩
  published := .cons ⟨steps_concat.2 (.inr ⟨rfl, rfl, hwho⟩), hhands⟩
    (hm.published.imp fun _ _ hstep => ⟨hstep.1.concat move, hstep.2⟩)
  -- The last step hands the list out; every other step did or left the cache as it was.
  still hsteps := by
    rcases steps_concat.1 hsteps with hold | ⟨rfl, rfl, -⟩
    · rcases hm.still hold with hmem | hsame
      · exact .inl (List.mem_cons_of_mem _ hmem)
      · exact .inr hsame
    · exact .inl List.mem_cons_self

/-- A reading of the clock adds to the trail. -/
theorem Marks.reading (hm : S.Marks world moves id k steps)
    (hwho : (jobsAfter (S.run world moves) move).2 = some id)
    (hkept : (S.after (S.run world moves) move).system.world.kept =
      (S.run world moves).system.world.kept) :
    S.Marks world (moves ++ [move]) id
      { k with readings := (S.run world moves).system.world.instant :: k.readings } steps where
  readings instant hmem := by
    rcases List.mem_cons.1 hmem with rfl | hmem
    · exact ⟨_, _, steps_concat.2 (.inr ⟨rfl, rfl, hwho⟩), rfl⟩
    · obtain ⟨h, h', hsteps, hinstant⟩ := hm.readings instant hmem
      exact ⟨h, h', hsteps.concat move, hinstant⟩
  published := (hm.concat fun _ => hkept).published
  still := (hm.concat fun _ => hkept).still

/-- What is left of the program of a job goes on from a trail that the steps of the job bear out. -/
def Trails (S : Setting ι ρ) (world : World) (moves : List (Move ι)) (id : TaskId) (what : ι) :
    Prop :=
  ∀ Q, (S.program what).Leaves Q .start → ∃ k steps, S.Marks world moves id k steps ∧
    ∀ task, (S.run world moves).system.tasks.find? id = some task → task.program.Leaves Q k

/-- A move that leaves the program of a job and, if it is the job's own, the lists that are kept. -/
theorem Trails.concat {what : ι} (ht : S.Trails world moves id what)
    (hkept : (jobsAfter (S.run world moves) move).2 = some id →
      (S.after (S.run world moves) move).system.world.kept = (S.run world moves).system.world.kept)
    (htasks : ∀ task', (S.after (S.run world moves) move).system.tasks.find? id = some task' →
      ∃ task, (S.run world moves).system.tasks.find? id = some task ∧
        task'.program = task.program) : S.Trails world (moves ++ [move]) id what := by
  intro Q hQ
  obtain ⟨k, steps, hm, hrest⟩ := ht Q hQ
  refine ⟨k, steps, hm.concat hkept, fun task' htask' => ?_⟩
  rw [run_concat] at htask'
  obtain ⟨task, htask, hsame⟩ := htasks task' htask'
  rw [hsame]
  exact hrest task htask

/-- A move of another task, which is the only one that it changes. -/
theorem Trails.others {what : ι} (ht : S.Trails world moves id what) {id' : TaskId} (hne : id ≠ id')
    (hwho : (jobsAfter (S.run world moves) move).2 = some id') {world' : World} {task : Task ρ}
    (hsystem : (S.after (S.run world moves) move).system =
      ⟨world', (S.run world moves).system.tasks.insert id' task⟩) :
    S.Trails world (moves ++ [move]) id what := by
  refine ht.concat (fun hmine => ?_) fun task' htask' => ⟨task', ?_, rfl⟩
  · exact absurd (Option.some.inj (hmine.symm.trans hwho)) hne
  · rw [hsystem] at htask'
    exact (SortedMap.find?_insert_of_ne _ _ hne).symm.trans htask'

/-- The answer to a call of the job adds to its trail what the call is about. -/
theorem Trails.call {what : ι} (ht : S.Trails world moves id what) {context : Context} {c : Call}
    {go : c.Reply → Program ρ}
    (htask : (S.run world moves).system.tasks.find? id = some ⟨.call c go, context⟩)
    (hafter : (S.after (S.run world moves) (.call id)).system =
      ⟨((S.run world moves).system.world.perform context c).1,
        (S.run world moves).system.tasks.insert id
          (System.answered (S.run world moves).system.world context c go)⟩) :
    S.Trails world (moves ++ [.call id]) id what := by
  intro Q hQ
  obtain ⟨k, steps, hm, hrest⟩ := ht Q hQ
  have hgo : ∀ reply, (go reply).Leaves Q (k.after c reply) := hrest _ htask
  -- The task goes on with the reply, or waits with the same call.
  have htask' : ∀ task, (S.run world (moves ++ [.call id])).system.tasks.find? id = some task →
      task = System.answered (S.run world moves).system.world context c go := by
    intro task hfind
    rw [run_concat, hafter] at hfind
    exact (Option.some.inj ((SortedMap.find?_insert_self ..).symm.trans hfind)).symm
  have hworld := congrArg System.world hafter
  -- Three kinds of calls: those that hand a list out, those that read the instant, and the rest.
  by_cases hpublish : ∃ owner list, c = .publish owner list
  · obtain ⟨owner, list, rfl⟩ := hpublish
    have hhands : Hands (S.run world moves, S.after (S.run world moves) (.call id))
        (owner, list) := congrArg World.kept hworld
    refine ⟨_, _, hm.publish rfl hhands, fun task hfind => ?_⟩
    rw [htask' task hfind]
    exact hgo _
  -- What is no `publish` leaves every cache.
  · have hkept : (S.after (S.run world moves) (.call id)).system.world.kept =
        (S.run world moves).system.world.kept := by
      rw [hworld]
      exact World.kept_perform _ _ fun owner list hc => hpublish ⟨owner, list, hc⟩
    by_cases hnow : c = .now
    · subst hnow
      refine ⟨_, _, hm.reading rfl hkept, fun task hfind => ?_⟩
      rw [htask' task hfind]
      exact hgo _
    · have hplain : c.IsPlain := by
        cases c with
        | now => exact hnow rfl
        | publish owner list => exact hpublish ⟨owner, list, rfl⟩
        | _ => trivial
      refine ⟨k, steps, hm.concat fun _ => hkept, fun task hfind => ?_⟩
      rw [htask' task hfind]
      unfold System.answered
      split
      · rename_i reply hreply
        have hrest := hgo reply
        rwa [hplain.after] at hrest
      · exact hgo

/-- A program whose waiting has ended goes on with the trail that it had. -/
theorem Trails.expire {what : ι} (ht : S.Trails world moves id what) {task : Task ρ}
    (htask : (S.run world moves).system.tasks.find? id = some task)
    (hafter : (S.after (S.run world moves) (.expire id)).system =
      ⟨((S.run world moves).system.world.expire task.context task.program).1,
        (S.run world moves).system.tasks.insert id
          ⟨((S.run world moves).system.world.expire task.context task.program).2.2,
            ((S.run world moves).system.world.expire task.context task.program).2.1⟩⟩) :
    S.Trails world (moves ++ [.expire id]) id what := by
  intro Q hQ
  obtain ⟨k, steps, hm, hrest⟩ := ht Q hQ
  have hkept := congrArg World.kept (congrArg System.world hafter)
  refine ⟨k, steps, hm.concat fun _ => hkept.trans (World.agrees_expire _ _ _).kept, ?_⟩
  intro task' hfind
  rw [run_concat, hafter] at hfind
  obtain rfl := Option.some.inj ((SortedMap.find?_insert_self ..).symm.trans hfind)
  have hleaves := hrest task htask
  -- A request that is given up is answered with a fault, for which the program has a way on as
  -- well.
  rcases (S.run world moves).system.world.program_expire task.context task.program with hsame |
    ⟨tx, request, go, fault, hcall, hgo⟩
  · rw [hsame]
    exact hleaves
  · rw [hcall] at hleaves
    rw [hgo]
    exact hleaves (.error fault)

/-- **In every run the trail of a job is borne out by its steps.** -/
theorem trails_run (S : Setting ι ρ) (world : World) (moves : List (Move ι)) {id : TaskId}
    {job : Job ι} (hjob : (S.run world moves).jobs[id]? = some job) :
    S.Trails world moves id job.what := by
  induction moves using List.reverseRecOn generalizing job with
  | nil => exact absurd hjob (by simp [run, begin])
  | append_singleton moves move ih =>
    cases hstep : (S.run world moves).system.step (S.event (S.run world moves) move) with
    | none =>
      have hsame : S.after (S.run world moves) move = S.run world moves := by
        rw [Setting.after, hstep]
      rw [run_concat, hsame] at hjob
      refine (ih hjob).concat (fun _ => by rw [hsame]) fun task htask => ⟨task, ?_, rfl⟩
      rw [hsame] at htask
      exact htask
    | some system =>
      have hafter : S.after (S.run world moves) move =
          S.recorded (S.run world moves) move system := by
        rw [Setting.after, hstep]
      have hsystem := congrArg History.system hafter
      rw [run_concat, hafter] at hjob
      cases move with
      | start what isCancelled trigger =>
        obtain ⟨-, rfl⟩ := System.step_start hstep
        rcases getElem?_concat_cases hjob with ⟨rfl, rfl⟩ | ⟨hlt, hold⟩
        · -- The new job has not left a trail yet.
          intro Q hQ
          have hnone := marks_start (Nat.le_refl (S.run world moves).jobs.length)
          refine ⟨.start, [], hnone.concat fun _ => ?_, fun task htask => ?_⟩
          · rw [hsystem]
            rfl
          · rw [run_concat, hsystem] at htask
            obtain rfl := Option.some.inj ((SortedMap.find?_insert_self ..).symm.trans htask)
            exact hQ
        · refine (ih hold).concat (fun hwho => ?_) fun task htask => ⟨task, ?_, rfl⟩
          · exact absurd (Option.some.inj hwho).symm (Nat.ne_of_lt hlt)
          · rw [hsystem] at htask
            exact (SortedMap.find?_insert_of_ne _ _ (Nat.ne_of_lt hlt)).symm.trans htask
      | call id' =>
        obtain ⟨context, c, go, htask, rfl⟩ := System.step_call hstep
        rcases getElem?_modify_cases hjob with ⟨rfl, job, hold, rfl⟩ | ⟨hne, hold⟩
        · exact (ih hold).call htask hsystem
        · exact (ih hold).others hne rfl hsystem
      | expire id' =>
        obtain ⟨task, htask, rfl⟩ := System.step_expire hstep
        rcases getElem?_modify_cases hjob with ⟨rfl, job, hold, rfl⟩ | ⟨hne, hold⟩
        · exact (ih hold).expire htask hsystem
        · exact (ih hold).others hne rfl hsystem
      | abandon id' =>
        obtain ⟨task, htask, rfl⟩ := System.step_abandon hstep
        rcases getElem?_modify_cases hjob with ⟨rfl, job, hold, rfl⟩ | ⟨hne, hold⟩
        · refine (ih hold).concat (fun _ => ?_) fun task' htask' => ?_
          · rw [hsystem]
            exact (World.agrees_abandon _ _ _).kept
          · rw [hsystem] at htask'
            exact absurd ((SortedMap.find?_erase_self ..).symm.trans htask') (by simp)
        · refine (ih hold).concat (fun hwho => absurd (Option.some.inj hwho).symm hne)
            fun task' htask' => ⟨task', ?_, rfl⟩
          rw [hsystem] at htask'
          exact (SortedMap.find?_erase_of_ne _ hne).symm.trans htask'
      | cancel id' =>
        obtain ⟨task, htask, rfl⟩ := System.step_cancel hstep
        refine (ih hjob).concat (fun hwho => absurd hwho (by simp [jobsAfter]))
          fun task' htask' => ?_
        rw [hsystem] at htask'
        rcases SortedMap.find?_insert_cases htask' with ⟨rfl, rfl⟩ | ⟨-, hold⟩
        · exact ⟨task, htask, rfl⟩
        · exact ⟨task', hold, rfl⟩
      | wait micros =>
        obtain rfl := Option.some.inj hstep
        refine (ih hjob).concat (fun hwho => absurd hwho (by simp [jobsAfter])) fun task htask => ?_
        rw [hsystem] at htask
        exact ⟨task, htask, rfl⟩
      | tick nanos =>
        obtain rfl := Option.some.inj hstep
        refine (ih hjob).concat (fun hwho => absurd hwho (by simp [jobsAfter])) fun task htask => ?_
        rw [hsystem] at htask
        exact ⟨task, htask, rfl⟩

end Muster.Setting
