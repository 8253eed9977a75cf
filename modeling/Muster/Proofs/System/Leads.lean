import Mathlib.Data.List.Induction
import Muster.Proofs.Program.Bounds
import Muster.Proofs.System.History

/-!
# Where the programs of a run have been led

In a run every reply is one that its call can get, so what is left of the program of a job is
something that the whole program leads to, with the course of the job (`leads_run`). A call on a
store is planned to fail only where a plan says so, and no program adds to a plan (`plan_run`).
-/

namespace Muster

namespace World

variable {w : World} {me : Context} {name : String}

/-- The calls on the store of a name that are planned to fail. -/
def plan (w : World) (name : String) : List PlannedFault :=
  (w.sites.find? name).elim [] Site.plan

/-- Another site has its plan under its own name. -/
theorem plan_insert (w : World) (n name : String) (site : Site) :
    plan { w with sites := w.sites.insert n site } name =
      if name = n then site.plan else w.plan name := by
  rw [plan, SortedMap.find?_insert]
  split
  · rfl
  · rfl

/-- A site that is put in the place of one with the same plan. -/
theorem plan_insert_same {site site' : Site} {n : String} (hsite : w.sites.find? n = some site)
    (hsame : site'.plan = site.plan) :
    plan { w with sites := w.sites.insert n site' } name = w.plan name := by
  rw [plan_insert]
  split
  · rename_i hn
    rw [plan, hn, hsite]
    exact hsame
  · rfl

/-- What happens to the store of a site changes no plan. -/
theorem plan_withSite (w : World) (n : String) (f : Store → Store) :
    (w.withSite n fun site => site.withStore (f site.store)).plan name = w.plan name := by
  rw [withSite]
  split
  · rename_i site hsite
    exact plan_insert_same hsite rfl
  · rfl

/-- Where nothing is planned to fail, nothing is after a call. -/
theorem plan_perform (h : w.plan name = []) (me : Context) (c : Call) :
    (w.perform me c).1.plan name = [] := by
  cases c with
  | claim handle =>
    rw [perform]
    split
    · exact h
    · exact h
    · exact h
  -- An attempt may use up the plan of its own store, but an empty plan stays empty.
  | attempt store kind =>
    rw [perform]
    dsimp only
    split
    · exact h
    · rename_i site hsite
      show plan { w with sites := w.sites.insert store (site.attempt kind).1 } name = []
      rw [plan_insert]
      split
      · rename_i hname
        rw [plan, hname, hsite] at h
        rw [Site.attempt, show site.plan = [] from h]
        rfl
      · exact h
  | begin store =>
    rw [perform]
    split
    · exact h
    · rename_i site hsite
      have hsame : (site.withStore site.store.begin.2).plan = site.plan := rfl
      exact (plan_insert_same hsite hsame).trans h
  | pass tx =>
    rw [perform]
    split
    · exact h
    · rename_i site hsite
      have hsame : (site.pass tx.id).1.plan = site.plan := by
        rw [Site.pass]
        split
        · rfl
        · rfl
      exact (plan_insert_same hsite hsame).trans h
  | ask tx request =>
    -- A store that is asked changes its transactions and locks, and no plan.
    show (w.ask me tx request).1.plan name = []
    rw [ask]
    split
    · exact h
    · rename_i site hsite
      have hsame : (site.withStore (site.store.ask tx.id request).1).plan = site.plan := rfl
      dsimp only
      split
      · exact (plan_insert_same hsite hsame).trans h
      · exact (plan_insert_same hsite hsame).trans h
  | commit tx => exact (plan_withSite w tx.store fun store => store.commit tx.id).trans h
  | discard tx => exact (plan_withSite w tx.store fun store => store.discard tx.id).trans h
  | publish owner list =>
    show (w.publish owner list).1.plan name = []
    rw [publish]
    split
    · split
      · exact h
      · exact h
    · exact h
  | _ => exact h

/-- A waiting that has ended changes no plan. -/
theorem plan_expire {ρ : Type} (w : World) (me : Context) (p : Program ρ) :
    (w.expire me p).1.plan name = w.plan name := by
  rcases w.expire_cases me p with ⟨hsame, -⟩ | ⟨tx, request, go, cell, fault, -, -, hwithdraw, -⟩
  · rw [hsame]
  · rw [hwithdraw]
    exact plan_withSite w tx.store fun store => store.withdraw tx.id request

/-- A task that is dropped changes no plan. -/
theorem plan_abandon {ρ : Type} (w : World) (me : Context) (p : Program ρ) :
    (w.abandon me p).plan name = w.plan name := by
  -- A task that is abandoned gives up its wait and ends its transactions, at whatever stores.
  have hdiscards : ∀ (tickets : List Ticket) (w : World),
      (tickets.foldl discard w).plan name = w.plan name := by
    intro tickets
    induction tickets with
    | nil => exact fun _ => rfl
    | cons tx tickets ih =>
      exact fun w => (ih _).trans (plan_withSite w tx.store fun store => store.discard tx.id)
  have hwithdraw : (w.withdraw p).plan name = w.plan name := by
    unfold withdraw
    split
    · exact plan_withSite w _ fun store => store.withdraw _ _
    · rfl
  have hall := (hdiscards me.tickets (w.withdraw p)).trans hwithdraw
  unfold abandon
  dsimp only
  split
  · exact hall
  · exact hall

/-- Every reply is one that the call can get; on the store of a name, a call fails only if some are
planned to. -/
theorem gets_perform (w : World) (me : Context) {c : Call} {reply : c.Reply}
    (h : (w.perform me c).2.2 = some reply) : c.Gets name (w.plan name ≠ []) reply := by
  cases c with
  | begin store => exact w.isReply_perform me h
  | ask tx request =>
    -- A world does not refuse a request.
    obtain ⟨reply', -, rfl⟩ := Option.map_eq_some_iff.1 h
    trivial
  | attempt store kind =>
    cases reply with
    | none => trivial
    | some message =>
      rintro rfl hplan
      rw [perform] at h
      dsimp only at h
      split at h
      · exact absurd h (by simp)
      · rename_i site hsite
        rw [plan, hsite] at hplan
        rw [Site.attempt, show site.plan = [] from hplan] at h
        exact absurd h (by simp [Site.takeFault])
  | _ => trivial

end World

/-- A reply that a call can get is one that it can get where more calls may fail. -/
theorem Call.Gets.mono {name : String} {MayFail MayFail' : Prop} {c : Call} {reply : c.Reply}
    (h : c.Gets name MayFail reply) (himp : MayFail → MayFail') : c.Gets name MayFail' reply := by
  cases c with
  | attempt store kind =>
    cases reply with
    | none => trivial
    | some message => exact fun hname => himp (h hname)
  | ask tx request =>
    cases reply with
    | ok reply => trivial
    | error fault => exact h
  | begin store => exact h
  | _ => trivial

namespace Setting

variable {ι ρ : Type} {S : Setting ι ρ} {h h' : History ι ρ} {id : TaskId} {job : Job ι}
  {MayFail : Prop}

/-- If nothing is planned to fail on the store, nothing is after a move. -/
theorem plan_after (hplan : h.system.world.plan S.store = []) (move : Move ι) :
    (S.after h move).system.world.plan S.store = [] := by
  unfold Setting.after
  split
  · rename_i system hstep
    cases move with
    | start what isCancelled trigger =>
      obtain ⟨-, rfl⟩ := System.step_start hstep
      exact hplan
    -- Only a call can be made to fail, and none is added to a plan by the run itself.
    | call id =>
      obtain ⟨context, c, go, -, rfl⟩ := System.step_call hstep
      exact World.plan_perform hplan context c
    | expire id =>
      obtain ⟨task, -, rfl⟩ := System.step_expire hstep
      exact (World.plan_expire _ _ _).trans hplan
    | abandon id =>
      obtain ⟨task, -, rfl⟩ := System.step_abandon hstep
      exact (World.plan_abandon _ _ _).trans hplan
    | cancel id =>
      obtain ⟨task, -, rfl⟩ := System.step_cancel hstep
      exact hplan
    | wait micros =>
      obtain rfl := Option.some.inj hstep
      exact hplan
    | tick nanos =>
      obtain rfl := Option.some.inj hstep
      exact hplan
  · exact hplan

/-- In a run nothing is planned to fail that was not before. -/
theorem plan_run (S : Setting ι ρ) {world : World} (hplan : world.plan S.store = [])
    (moves : List (Move ι)) : (S.run world moves).system.world.plan S.store = [] := by
  induction moves using List.reverseRecOn with
  | nil => exact hplan
  | append_singleton moves move ih =>
    rw [run_concat]
    exact plan_after ih move

/-- The program of a job has led to what is left of it, with the course of the job; of a job that
was dropped nothing is left. -/
def Led (S : Setting ι ρ) (MayFail : Prop) (h : History ι ρ) (id : TaskId) (job : Job ι) : Prop :=
  ∃ p k, (S.program job.what).Leads S.store MayFail p k ∧
    (h.program? id = some p ∧ job.course = k ∨ h.program? id = none ∧ job.course = k.drop)

/-- A job that has not moved has been led where it was. -/
theorem Led.frame (hl : S.Led MayFail h id job) {job' : Job ι} (hwhat : job'.what = job.what)
    (hcourse : job'.course = job.course) (hprogram : h'.program? id = h.program? id) :
    S.Led MayFail h' id job' := by
  obtain ⟨p, k, hleads, hrest⟩ := hl
  rw [← hprogram, ← hcourse] at hrest
  rw [← hwhat] at hleads
  exact ⟨p, k, hleads, hrest⟩

/-- A job of which a program is left has been led to it. -/
theorem Led.leads (hl : S.Led MayFail h id job) {task : Task ρ}
    (htask : h.system.tasks.find? id = some task) :
    (S.program job.what).Leads S.store MayFail task.program job.course := by
  obtain ⟨p, k, hleads, ⟨hprogram, rfl⟩ | ⟨hnone, -⟩⟩ := hl
  · obtain rfl := Option.some.inj ((h.program?_eq htask).symm.trans hprogram)
    exact hleads
  · exact absurd ((h.program?_eq htask).symm.trans hnone) (by simp)

/-- A job has been led on by the answer to its call. -/
theorem Led.call (hl : S.Led MayFail h id job) {context : Context} {c : Call}
    {go : c.Reply → Program ρ} (htask : h.system.tasks.find? id = some ⟨.call c go, context⟩)
    (hplan : h.system.world.plan S.store ≠ [] → MayFail)
    (htask' : h'.system.tasks.find? id = some (System.answered h.system.world context c go)) :
    S.Led MayFail h' id (job.move h.now (courseAfterCall h.system id job.course)) := by
  -- The reply is one that the program may get where it stands.
  have hleads := hl.leads htask
  refine ⟨_, _, ?_, .inl ⟨h'.program?_eq htask', rfl⟩⟩
  cases hreply : (h.system.world.perform context c).2.2 with
  | none =>
    rw [System.answered, hreply]
    show Program.Leads _ _ _ _ (courseAfterCall h.system id job.course)
    rw [courseAfterCall_none htask hreply]
    exact hleads
  | some reply =>
    rw [System.answered, hreply]
    show Program.Leads _ _ _ _ (courseAfterCall h.system id job.course)
    rw [courseAfterCall_some htask hreply]
    exact hleads.reply ((World.gets_perform _ _ hreply).mono hplan)

/-- A job whose waiting has ended has been led on by a refusal, if it was waiting. -/
theorem Led.expire (hl : S.Led MayFail h id job) {task task' : Task ρ}
    (htask : h.system.tasks.find? id = some task)
    (htask' : h'.system.tasks.find? id = some task')
    (hprogram : task'.program = (h.system.world.expire task.context task.program).2.2) :
    S.Led MayFail h' id (job.move h.now job.course) := by
  have hleads := hl.leads htask
  refine ⟨_, job.course, ?_, .inl ⟨h'.program?_eq htask', rfl⟩⟩
  rw [hprogram]
  -- Either the call is not one that waits for a lock, or it is answered with a fault.
  rcases h.system.world.expire_cases task.context task.program with ⟨-, hsame⟩ |
    ⟨tx, request, go, cell, fault, hcall, hlock, -, hgo⟩
  · rw [hsame]
    exact hleads
  · rw [hcall] at hleads
    rw [hgo]
    exact hleads.reply (show request.lock?.isSome = true by rw [hlock]; rfl)

/-- **In every run all programs have been led to what is left of them.** -/
theorem leads_run (S : Setting ι ρ) (world : World) (moves : List (Move ι))
    (hjob : (S.run world moves).jobs[id]? = some job) :
    S.Led (world.plan S.store ≠ []) (S.run world moves) id job := by
  induction moves using List.reverseRecOn generalizing id job with
  | nil => exact absurd hjob (by simp [run, begin])
  | append_singleton moves move ih =>
    -- A plan that is not empty now was not empty at the beginning.
    have hplan : (S.run world moves).system.world.plan S.store ≠ [] → world.plan S.store ≠ [] :=
      fun hne hplan => hne (S.plan_run hplan moves)
    rw [run_concat] at hjob ⊢
    unfold Setting.after at hjob ⊢
    split
    · rename_i system hstep
      rw [hstep] at hjob
      cases move with
      -- A start begins a course; a move of the task leads it on; a move of another one frames it.
      | start what isCancelled trigger =>
        obtain ⟨-, rfl⟩ := System.step_start hstep
        rcases getElem?_concat_cases hjob with ⟨rfl, rfl⟩ | ⟨hlt, hold⟩
        · refine ⟨_, _, .start, .inl ⟨?_, rfl⟩⟩
          exact congrArg (Option.map Task.program) (SortedMap.find?_insert_self ..)
        · exact (ih hold).frame rfl rfl (History.program?_congr
            (SortedMap.find?_insert_of_ne _ _ (Nat.ne_of_lt hlt)))
      | call id' =>
        obtain ⟨context, c, go, htask, rfl⟩ := System.step_call hstep
        rcases getElem?_modify_cases hjob with ⟨rfl, job, hold, rfl⟩ | ⟨hne, hold⟩
        · exact (ih hold).call htask hplan (SortedMap.find?_insert_self ..)
        · exact (ih hold).frame rfl rfl
            (History.program?_congr (SortedMap.find?_insert_of_ne _ _ hne))
      | expire id' =>
        obtain ⟨task, htask, rfl⟩ := System.step_expire hstep
        rcases getElem?_modify_cases hjob with ⟨rfl, job, hold, rfl⟩ | ⟨hne, hold⟩
        · exact (ih hold).expire htask (SortedMap.find?_insert_self ..) rfl
        · exact (ih hold).frame rfl rfl
            (History.program?_congr (SortedMap.find?_insert_of_ne _ _ hne))
      | abandon id' =>
        obtain ⟨task, htask, rfl⟩ := System.step_abandon hstep
        rcases getElem?_modify_cases hjob with ⟨rfl, job, hold, rfl⟩ | ⟨hne, hold⟩
        · refine ⟨_, _, (ih hold).leads htask, .inr ⟨?_, rfl⟩⟩
          exact congrArg (Option.map Task.program) (SortedMap.find?_erase_self ..)
        · exact (ih hold).frame rfl rfl (History.program?_congr (SortedMap.find?_erase_of_ne _ hne))
      | cancel id' =>
        obtain ⟨task, htask, rfl⟩ := System.step_cancel hstep
        refine (ih hjob).frame rfl rfl ?_
        by_cases hid : id = id'
        · subst hid
          exact (congrArg (Option.map Task.program) (SortedMap.find?_insert_self ..)).trans
            (History.program?_eq htask).symm
        · exact History.program?_congr (SortedMap.find?_insert_of_ne _ _ hid)
      | wait micros =>
        obtain rfl := Option.some.inj hstep
        exact (ih hjob).frame rfl rfl rfl
      | tick nanos =>
        obtain rfl := Option.some.inj hstep
        exact (ih hjob).frame rfl rfl rfl
    · rename_i hstep
      rw [hstep] at hjob
      exact ih hjob

end Setting

end Muster
