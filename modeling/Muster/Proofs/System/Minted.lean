import Muster.Proofs.Etag
import Muster.Proofs.System.History

/-!
# Every etag is minted once

The etags that the programs of a history were given are those of the counts that the source has
passed since the beginning. As long as it has not come around to the count that it began with, each
of them was given to one program, and to that program once.
-/

namespace Muster.Setting

variable {ι ρ : Type} {S : Setting ι ρ} {h : History ι ρ} {source : Etag.Source} {move : Move ι}
  {system : System ρ}

/-- The etags of the jobs are those of the counts from `source` on, each given once as long as the
count has not come around to that of `source`. -/
structure AllMinted (source : Etag.Source) (h : History ι ρ) : Prop where
  /-- The source has only counted on. -/
  counted : source.count ≤ h.system.world.etags.count
  /-- The random numbers are those of the source. -/
  random : h.system.world.etags.random = source.random
  /-- An etag of a job is that of a count that was passed. -/
  minted : ∀ {id : TaskId} {job : Job ι} {etag}, h.jobs[id]? = some job → etag ∈ job.course.etags →
    ∃ n, source.count ≤ n ∧ n < h.system.world.etags.count ∧
      etag = Etag.render (n % Etag.limit) (source.random n)
  /-- No two jobs were given the same etag. -/
  apart : h.system.world.etags.count ≤ source.count + Etag.limit →
    ∀ {id id' : TaskId} {job job' : Job ι} {etag}, h.jobs[id]? = some job →
      h.jobs[id']? = some job' → etag ∈ job.course.etags → etag ∈ job'.course.etags → id = id'
  /-- No job was given an etag twice. -/
  once : h.system.world.etags.count ≤ source.count + Etag.limit →
    ∀ {id : TaskId} {job : Job ι}, h.jobs[id]? = some job → job.course.etags.Nodup

/-- The etag to be minted next is not that of a job. -/
theorem AllMinted.fresh (hm : AllMinted source h) {id : TaskId} {job : Job ι}
    (hjob : h.jobs[id]? = some job)
    (hlimit : h.system.world.etags.count < source.count + Etag.limit) :
    h.system.world.etags.mint.1 ∉ job.course.etags := by
  intro hmem
  obtain ⟨n, hle, hlt, heq⟩ := hm.minted hjob hmem
  exact Etag.mint_ne_render _ hlt (by omega) _ heq

/-- The etag of the initial version is not that of a job. -/
theorem AllMinted.zero_notMem (hm : AllMinted source h) {id : TaskId} {job : Job ι}
    (hjob : h.jobs[id]? = some job) : "0" ∉ job.course.etags := by
  intro hmem
  obtain ⟨n, -, -, heq⟩ := hm.minted hjob hmem
  exact Etag.render_ne_zero _ _ heq.symm

/-- A move that gives no etag. -/
theorem AllMinted.same (hm : AllMinted source h) {h' : History ι ρ}
    (hetags : h'.system.world.etags = h.system.world.etags)
    (hjobs : ∀ {id : TaskId} {job' : Job ι}, h'.jobs[id]? = some job' →
      job'.course.etags = [] ∨
        ∃ job, h.jobs[id]? = some job ∧ job'.course.etags = job.course.etags) :
    AllMinted source h' where
  counted := hetags ▸ hm.counted
  random := hetags ▸ hm.random
  -- An etag of a course that is the same as before was minted before, in the same order.
  minted hjob hmem := by
    rcases hjobs hjob with hnil | ⟨job, hold, hsame⟩
    · rw [hnil] at hmem
      exact absurd hmem (by simp)
    · rw [hsame] at hmem
      rw [hetags]
      exact hm.minted hold hmem
  apart hlimit id id' job job' etag hjob hjob' hmem hmem' := by
    rw [hetags] at hlimit
    rcases hjobs hjob with hnil | ⟨job, hold, hsame⟩
    · rw [hnil] at hmem
      exact absurd hmem (by simp)
    · rcases hjobs hjob' with hnil' | ⟨job', hold', hsame'⟩
      · rw [hnil'] at hmem'
        exact absurd hmem' (by simp)
      · rw [hsame] at hmem
        rw [hsame'] at hmem'
        exact hm.apart hlimit hold hold' hmem hmem'
  once hlimit id job hjob := by
    rw [hetags] at hlimit
    rcases hjobs hjob with hnil | ⟨job, hold, hsame⟩
    · rw [hnil]
      exact List.nodup_nil
    · rw [hsame]
      exact hm.once hlimit hold

/-- A move that gives the next etag to one job. -/
theorem AllMinted.mint (hm : AllMinted source h) {h' : History ι ρ} {id : TaskId} {job : Job ι}
    (hetags : h'.system.world.etags = h.system.world.etags.mint.2)
    (hjob : h.jobs[id]? = some job)
    (hjobs : ∀ {id' : TaskId} {job' : Job ι}, h'.jobs[id']? = some job' →
      (id' = id ∧ job'.course.etags = h.system.world.etags.mint.1 :: job.course.etags) ∨
        (id' ≠ id ∧ h.jobs[id']? = some job')) :
    AllMinted source h' where
  counted := by
    rw [hetags]
    exact Nat.le_succ_of_le hm.counted
  random := by
    rw [hetags]
    exact hm.random
  minted {id' job' etag} hjob' hmem := by
    have hcount : h'.system.world.etags.count = h.system.world.etags.count + 1 := by
      rw [hetags]
      rfl
    rw [hcount]
    rcases hjobs hjob' with ⟨-, hcons⟩ | ⟨-, hold⟩
    · rw [hcons] at hmem
      rcases List.mem_cons.1 hmem with rfl | hmem
      · refine ⟨h.system.world.etags.count, hm.counted, Nat.lt_succ_self _, ?_⟩
        rw [← hm.random]
        rfl
      · obtain ⟨n, hle, hlt, heq⟩ := hm.minted hjob hmem
        exact ⟨n, hle, Nat.lt_succ_of_lt hlt, heq⟩
    · obtain ⟨n, hle, hlt, heq⟩ := hm.minted hold hmem
      exact ⟨n, hle, Nat.lt_succ_of_lt hlt, heq⟩
  apart hlimit i j jobi jobj etag hi hj hmi hmj := by
    have hlt : h.system.world.etags.count < source.count + Etag.limit := by
      rw [hetags] at hlimit
      exact hlimit
    -- An etag of the job that was given one is the new one or one that it had.
    have hmine : ∀ {i : TaskId} {jobi : Job ι}, i ≠ id → h.jobs[i]? = some jobi →
        etag ∈ jobi.course.etags →
        etag ∉ h.system.world.etags.mint.1 :: job.course.etags := by
      intro i jobi hne hold hmem hcons
      rcases List.mem_cons.1 hcons with rfl | hcons
      · exact hm.fresh hold hlt hmem
      · exact hne (hm.apart (Nat.le_of_lt hlt) hold hjob hmem hcons)
    -- Both etags are of the job that was given one, one of them is, or none.
    rcases hjobs hi with ⟨rfl, hcons⟩ | ⟨hne, hold⟩
    · rcases hjobs hj with ⟨rfl, -⟩ | ⟨hne', hold'⟩
      · rfl
      · rw [hcons] at hmi
        exact absurd hmi (hmine hne' hold' hmj)
    · rcases hjobs hj with ⟨rfl, hcons⟩ | ⟨-, hold'⟩
      · rw [hcons] at hmj
        exact absurd hmj (hmine hne hold hmi)
      · exact hm.apart (Nat.le_of_lt hlt) hold hold' hmi hmj
  once hlimit id' job' hjob' := by
    have hlt : h.system.world.etags.count < source.count + Etag.limit := by
      rw [hetags] at hlimit
      exact hlimit
    rcases hjobs hjob' with ⟨-, hcons⟩ | ⟨-, hold⟩
    · rw [hcons]
      exact List.nodup_cons.2 ⟨hm.fresh hjob hlt, hm.once (Nat.le_of_lt hlt) hjob⟩
    · exact hm.once (Nat.le_of_lt hlt) hold

/-- A call other than minting does not add to the etags of a course. -/
theorem etags_after {c : Call} (hc : c ≠ .mint) (k : Course) (reply : c.Reply) :
    (k.after c reply).etags = k.etags := by
  cases c with
  | mint => exact absurd rfl hc
  | ask tx request =>
    cases reply with
    | ok reply => rfl
    | error fault => rfl
  | _ => rfl

/-- A task that is dropped has minted what it had. -/
theorem etags_drop (k : Course) : k.drop.etags = k.etags := by
  unfold Course.drop
  split
  · rfl
  · rfl

/-- A call gives its job the next etag, or no etag at all. -/
theorem AllMinted.call (hm : AllMinted source h) (hfollow : S.AllFollow h) {id : TaskId}
    {context : Context} {c : Call} {go : c.Reply → Program ρ}
    (htask : h.system.tasks.find? id = some ⟨.call c go, context⟩)
    (hworld : system.world = (h.system.world.perform context c).1) :
    AllMinted source (S.recorded h (.call id) system) := by
  obtain ⟨job, hjob⟩ : ∃ job, h.jobs[id]? = some job :=
    ⟨_, List.getElem?_eq_getElem (hfollow.known htask)⟩
  by_cases hc : c = .mint
  · -- Minting always has a reply, which the course notes.
    subst hc
    have hcourse : (courseAfterCall h.system id job.course).etags =
        h.system.world.etags.mint.1 :: job.course.etags := by
      rw [courseAfterCall_some htask rfl]
      rfl
    have hetags : system.world.etags = h.system.world.etags.mint.2 := by
      rw [hworld]
      rfl
    refine hm.mint hetags hjob fun hjob' => ?_
    rcases getElem?_modify_cases hjob' with ⟨rfl, job', hold, rfl⟩ | hother
    · obtain rfl := Option.some.inj (hjob.symm.trans hold)
      exact .inl ⟨rfl, hcourse⟩
    · exact .inr hother
  · have hetags := (congrArg World.etags hworld).trans (World.etags_perform _ _ hc)
    refine hm.same hetags fun hjob' => ?_
    rcases getElem?_modify_cases hjob' with ⟨rfl, job, hold, rfl⟩ | ⟨-, hold⟩
    · refine .inr ⟨job, hold, ?_⟩
      show (courseAfterCall h.system _ job.course).etags = job.course.etags
      cases hreply : (h.system.world.perform context c).2.2 with
      | none => rw [courseAfterCall_none htask hreply]
      | some reply =>
        rw [courseAfterCall_some htask hreply]
        exact etags_after hc _ reply
    · exact .inr ⟨_, hold, rfl⟩

/-- Every move keeps the etags apart. -/
theorem AllMinted.after (hfollow : S.AllFollow h) (hm : AllMinted source h) (move : Move ι) :
    AllMinted source (S.after h move) := by
  unfold Setting.after
  split
  · rename_i system hstep
    -- Only a call mints; the other moves leave the etags of the world and of all courses.
    cases move with
    | start what isCancelled trigger =>
      obtain ⟨-, rfl⟩ := System.step_start hstep
      refine hm.same rfl fun {id job'} hjob => ?_
      rcases getElem?_concat_cases hjob with ⟨-, rfl⟩ | ⟨-, hold⟩
      · exact .inl rfl
      · exact .inr ⟨job', hold, rfl⟩
    | call id =>
      obtain ⟨context, c, go, htask, rfl⟩ := System.step_call hstep
      exact hm.call hfollow htask rfl
    | expire id =>
      obtain ⟨task, htask, rfl⟩ := System.step_expire hstep
      refine hm.same (World.agrees_expire _ _ _).etags fun hjob' => .inr ?_
      rcases getElem?_modify_cases hjob' with ⟨rfl, job, hold, rfl⟩ | ⟨-, hold⟩
      · exact ⟨job, hold, rfl⟩
      · exact ⟨_, hold, rfl⟩
    | abandon id =>
      obtain ⟨task, htask, rfl⟩ := System.step_abandon hstep
      refine hm.same (World.agrees_abandon _ _ _).etags fun hjob' => .inr ?_
      rcases getElem?_modify_cases hjob' with ⟨rfl, job, hold, rfl⟩ | ⟨-, hold⟩
      · exact ⟨job, hold, etags_drop _⟩
      · exact ⟨_, hold, rfl⟩
    | cancel id =>
      obtain ⟨task, htask, rfl⟩ := System.step_cancel hstep
      exact hm.same rfl fun hjob => .inr ⟨_, hjob, rfl⟩
    | wait micros =>
      obtain rfl := Option.some.inj hstep
      exact hm.same rfl fun hjob => .inr ⟨_, hjob, rfl⟩
    | tick nanos =>
      obtain rfl := Option.some.inj hstep
      exact hm.same rfl fun hjob => .inr ⟨_, hjob, rfl⟩
  · exact hm

/-- **In every run each etag is minted once.** -/
theorem minted_run (S : Setting ι ρ) (world : World) (moves : List (Move ι)) :
    AllMinted world.etags (S.run world moves) := by
  induction moves using List.reverseRecOn with
  | nil =>
    have hnone : ∀ {id : TaskId} {job : Job ι}, (S.run world []).jobs[id]? ≠ some job := by
      simp [run, begin]
    exact ⟨Nat.le_refl _, rfl, fun hjob => absurd hjob hnone, fun _ _ _ _ _ _ hjob =>
      absurd hjob hnone, fun _ _ _ hjob => absurd hjob hnone⟩
  | append_singleton moves move ih =>
    rw [run_concat]
    exact ih.after (S.follows_run world moves) move

end Muster.Setting
