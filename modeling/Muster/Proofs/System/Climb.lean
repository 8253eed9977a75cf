import Muster.Proofs.Contents
import Muster.Proofs.Program.Climb
import Muster.Proofs.Store.Waiting
import Muster.Proofs.System.Locks

/-!
# Runs of programs that lock in ascending order

If every program asks for locks in ascending order, then in every run each job waits only for a lock
above all that it holds, so nobody waits in a cycle (`AllAscend.isAscending`).

What carries over from move to move is that the transaction of a job holds only what the job has
locked, or what it is asking for at this moment and has just been handed (`Ascends.earned`). A job
that does not move comes to hold a lock only as the first in its queue, and it stands there because
it asks.
-/

namespace Muster

namespace Store

variable {s : Store} {id : TransactionId} {cell : Cell}

/-- After a call a transaction holds what it held, what it stood in the queue for, or what it has
just asked for. -/
theorem holds_of_afterCall {c : Call} (h : (s.afterCall c).locks.holds id cell = true) :
    s.locks.holds id cell = true ∨ s.locks.Queues id cell ∨
      ∃ tx request, c = .ask tx request ∧ id = tx.id ∧ request.lock? = some cell := by
  cases c with
  | ask tx request =>
    rcases holds_of_ask h with hold | ⟨hid, hlock⟩
    · exact .inl hold
    · exact .inr (.inr ⟨tx, request, rfl, hid, hlock⟩)
  | commit tx => exact (holds_of_commit h).imp_right .inl
  | discard tx => exact (holds_of_discard h).imp_right .inl
  | _ => exact .inl h

/-- Who holds a lock behind a waiting that has ended has held it before. -/
theorem holds_of_afterWaiting {waiting : Option (Ticket × Request)}
    (h : (s.afterWaiting waiting).locks.holds id cell = true) : s.locks.holds id cell = true := by
  cases waiting with
  | none => exact h
  | some w => exact holds_of_withdraw h

/-- Who waits for a lock then has waited for it before. -/
theorem queues_of_afterWaiting {waiting : Option (Ticket × Request)}
    (h : (s.afterWaiting waiting).locks.Queues id cell) : s.locks.Queues id cell := by
  cases waiting with
  | none => exact h
  | some w => exact queues_of_withdraw h

/-- The rows of a scan are those of some contents. -/
theorem rows_of_ask_scan {dictionary : String} {rows : List Row}
    (h : (s.ask id (.scan dictionary)).2 = some rows) :
    ∃ c : Contents, rows = c.rows dictionary := by
  rw [ask] at h
  split at h
  · exact absurd h (by simp)
  · rename_i tx hlive
    exact ⟨tx.snapshot.apply tx.changes, (Option.some.inj h).symm⟩

end Store

/-- Replies are such that the rows of scans ascend. -/
theorem World.isOrdered_perform (w : World) (me : Context) {c : Call} {reply : c.Reply}
    (h : (w.perform me c).2.2 = some reply) : c.IsOrdered reply := by
  -- Rows come from a scan only; every other reply has nothing to be in order.
  cases c with
  | ask tx request =>
    cases request with
    | scan dictionary =>
      cases reply with
      | error fault => trivial
      | ok rows =>
        -- A reply means that there was such a store, and its rows ascend.
        cases hstore : w.store? tx.store with
        | none =>
          rw [World.store?, Option.map_eq_none_iff] at hstore
          rw [World.perform, World.ask, hstore] at h
          exact absurd h (by simp)
        | some s =>
          rw [World.reply_ask hstore] at h
          obtain ⟨rows', hrows, hsame⟩ := Option.map_eq_some_iff.1 h
          obtain rfl := Except.ok.inj hsame
          obtain ⟨c, rfl⟩ := Store.rows_of_ask_scan hrows
          exact c.rows_ascending dictionary
    | _ => trivial
  | _ => trivial

/-- A program that waits for a lock could go on if it was handed the lock. -/
theorem World.canProceed_ask {ρ : Type} {w : World} {s : Store} {tx : Ticket} {request : Request}
    {cell : Cell} (hstore : w.store? tx.store = some s) (hlock : request.lock? = some cell)
    (go : Except Store.Fault request.Reply → Program ρ) :
    w.canProceed (.call (.ask tx request) go) = s.locks.holds tx.id cell := by
  rw [World.store?, Option.map_eq_some_iff] at hstore
  obtain ⟨site, hsite, rfl⟩ := hstore
  rw [World.canProceed, hsite, hlock]

namespace Setting

variable {ι ρ : Type} {S : Setting ι ρ} {h h' : History ι ρ} {s s' : Store} {id : TaskId}
  {job : Job ι} {first : TransactionId} {number : TransactionId} {cell : Cell} {tx : Ticket}

/-- A job locks in ascending order. -/
structure Ascends (h : History ι ρ) (s : Store) (id : TaskId) (job : Job ι) : Prop where
  /-- What is left of its program asks for locks in ascending order. -/
  climbs : ∀ p, h.program? id = some p → p.Climbs (fun _ _ => True) job.course.locked
  /-- What its transaction holds it has locked, or it asks for it. -/
  earned : ∀ {tx cell}, job.course.stage = .opened tx → s.locks.holds tx.id cell = true →
    cell ∈ job.course.locked ∨ Asks h id cell

/-- All jobs lock in ascending order. -/
def AllAscend (h : History ι ρ) (s : Store) : Prop :=
  ∀ ⦃id job⦄, h.jobs[id]? = some job → Ascends h s id job

/-- All programs of the setting ask for locks in ascending order. -/
def IsAscending (S : Setting ι ρ) : Prop :=
  ∀ what, (S.program what).Climbs (fun _ _ => True) []

/-- A job whose transaction stands in a queue asks for that lock. -/
theorem Secures.asks_of_queues (hs : Secures h s first) (hf : S.AllFit h s)
    (hjob : h.jobs[id]? = some job) (hstage : job.course.stage = .opened tx)
    (hqueues : s.locks.Queues tx.id cell) : Asks h id cell := by
  obtain ⟨lock, hlock, hmem⟩ := hqueues
  exact hs.asks hf hjob (Stage.ticket?_of_opened hstage) (hs.guarded.waiting hlock hmem)

/-- A transaction that is yet to begin holds nothing. -/
theorem Secures.not_holds_nextId (hs : Secures h s first) (hf : S.AllFit h s) (cell : Cell) :
    s.locks.holds s.nextId cell = false := by
  refine hs.guarded.not_holds ?_ cell
  rintro (hold | ⟨id, job, tx, hjob, hstage, hid⟩)
  · exact Nat.not_lt.2 hs.first_le hold
  · have hlt := ((hf.fits hjob).ticket tx (Stage.ticket?_of_opened hstage)).2
    exact Nat.lt_irrefl _ (hid ▸ hlt)

/-- A job that keeps its course and its program still locks in ascending order, if its transaction
holds at most what it held or asks for. -/
theorem Ascends.frame (ha : Ascends h s id job) {job' : Job ι}
    (hcourse : job'.course = job.course) (hprogram : h'.program? id = h.program? id)
    (hholds : ∀ {tx cell}, job.course.stage = .opened tx → s'.locks.holds tx.id cell = true →
      s.locks.holds tx.id cell = true ∨ Asks h id cell) : Ascends h' s' id job' where
  climbs p hp := by
    rw [hcourse]
    exact ha.climbs p (hprogram ▸ hp)
  -- A lock that is held was held before, or the task asks for it now; neither is about another
  -- task.
  earned := by
    intro tx cell hstage hheld
    rw [hcourse] at hstage ⊢
    have hasks : Asks h id cell → Asks h' id cell := by
      unfold Asks
      rw [hprogram]
      exact fun hasks => hasks
    rcases hholds hstage hheld with hold | hnew
    · exact (ha.earned hstage hold).imp_right hasks
    · exact .inr (hasks hnew)

/-- Moving one job keeps all of them locking in ascending order, if the others come to hold only
what they stood in a queue for. -/
theorem AllAscend.modify (ha : AllAscend h s) (hs : Secures h s first) (hf : S.AllFit h s)
    (hjob : h.jobs[id]? = some job) {move : Move ι} {system : System ρ} {f : Job ι → Job ι}
    (hjobs : (jobsAfter h move).1 = h.jobs.modify id f)
    (htasks : ∀ id', id' ≠ id → system.tasks.find? id' = h.system.tasks.find? id')
    (hholds : ∀ {number cell}, (∀ tx, job.course.stage.open? = some tx → number ≠ tx.id) →
      s'.locks.holds number cell = true →
        s.locks.holds number cell = true ∨ s.locks.Queues number cell)
    (hself : Ascends (S.recorded h move system) s' id (f job)) :
    AllAscend (S.recorded h move system) s' := by
  intro id' job' hjob'
  change (jobsAfter h move).1[id']? = some job' at hjob'
  rw [hjobs] at hjob'
  -- The task that moved is treated by `hself`; of any other one, neither the program nor the course
  -- is another, and its locks came by way of a queue.
  rcases getElem?_modify_cases hjob' with ⟨rfl, old, hold, rfl⟩ | ⟨hid, hold⟩
  · obtain rfl := Option.some.inj (hjob.symm.trans hold)
    exact hself
  · have hprogram : (S.recorded h move system).program? id' = h.program? id' :=
      History.program?_congr (htasks id' hid)
    refine (ha hold).frame rfl hprogram fun {tx cell} hstage hheld => ?_
    have htx := Stage.ticket?_of_opened hstage
    have hne : ∀ tx', job.course.stage.open? = some tx' → tx.id ≠ tx'.id := by
      intro tx' htx' hnumber
      exact hid (hf.eq_of_number hjob (ticket?_of_open? htx') hold htx hnumber).1
    exact (hholds hne hheld).imp_right (hs.asks_of_queues hf hold hstage)

section Calls

variable {context : Context} {c : Call} {go : c.Reply → Program ρ} {P : Course → Prop}

/-- What is left of the program of a job after a call asks for locks in ascending order. -/
theorem Ascends.climbs_call (ha : Ascends h s id job)
    (htask : h.system.tasks.find? id = some ⟨.call c go, context⟩) :
    (System.answered h.system.world context c go).program.Climbs (fun _ _ => True)
      (courseAfterCall h.system id job.course).locked := by
  have hclimbs := ha.climbs _ (h.program?_eq htask)
  cases hreply : (h.system.world.perform context c).2.2 with
  | none =>
    rw [courseAfterCall_none htask hreply, System.answered, hreply]
    exact hclimbs
  | some reply =>
    rw [courseAfterCall_some htask hreply, System.answered, hreply, Course.locked_after]
    exact hclimbs.2 reply (World.isOrdered_perform _ _ hreply)

/-- A job that makes a request has locked its cell if there is a reply, and asks for it again if
there is none. -/
theorem Ascends.earned_ask (ha : Ascends h s id job) (hs : Secures h s first) (hf : S.AllFit h s)
    (hjob : h.jobs[id]? = some job) {request : Request}
    {go : Except Store.Fault request.Reply → Program ρ}
    (htask : h.system.tasks.find? id = some ⟨.call (.ask tx request) go, context⟩)
    (hstage : job.course.stage = .opened tx)
    (hheld : (s.afterCall (.ask tx request)).locks.holds tx.id cell = true) :
    cell ∈ (courseAfterCall h.system id job.course).locked ∨
      Asks (S.recorded h (.call id) (answeredSystem h id context (.ask tx request) go)) id
        cell := by
  have hasks : ∀ {cell}, Asks h id cell → request.lock? = some cell :=
    (asks_iff (h.program?_eq htask)).1
  -- A lock of the transaction was one before, or was passed on to it, or is given by this request.
  have hcell : cell ∈ job.course.locked ∨ request.lock? = some cell := by
    rcases Store.holds_of_afterCall hheld with hold | hqueues | ⟨tx', request', hcall, -, hlock⟩
    · exact (ha.earned hstage hold).imp_right hasks
    · exact .inr (hasks (hs.asks_of_queues hf hjob hstage hqueues))
    · injection hcall with _ hrequest
      rw [hrequest]
      exact .inr hlock
  have hon := ((hf.fits hjob).ticket tx (Stage.ticket?_of_opened hstage)).1
  have hreply := World.reply_ask (hon ▸ hf.store) context request
  -- Without a reply the task asks on; with a reply the lock joins those of its course.
  cases hanswer : (s.ask tx.id request).2 with
  | none =>
    rw [hanswer] at hreply
    rw [courseAfterCall_none htask hreply]
    refine hcell.imp_right fun hlock => ⟨tx, request, go, ?_, hlock⟩
    refine (History.program?_eq (SortedMap.find?_insert_self ..)).trans ?_
    rw [System.answered, hreply]
    rfl
  | some reply =>
    rw [hanswer] at hreply
    rw [courseAfterCall_some htask hreply, Course.locked_after]
    refine .inl (List.mem_append.2 ?_)
    rw [Option.mem_toList]
    exact hcell.symm

/-- Any other call that keeps the stage leaves the locks and what is locked as they are. -/
theorem Ascends.earned_quiet (ha : Ascends h s id job)
    (htask : h.system.tasks.find? id = some ⟨.call c go, context⟩) (hstore : s.afterCall c = s)
    (hsame : ∀ reply, (job.course.after c reply).stage = job.course.stage)
    (hc : ∀ tx request, c ≠ .ask tx request)
    (hstage : (courseAfterCall h.system id job.course).stage = .opened tx)
    (hheld : (s.afterCall c).locks.holds tx.id cell = true) :
    cell ∈ (courseAfterCall h.system id job.course).locked := by
  rw [stage_courseAfterCall htask hsame] at hstage
  rw [hstore] at hheld
  have hlocked := (ha.earned hstage hheld).resolve_right (not_asks (h.program?_eq htask) hc)
  cases hreply : (h.system.world.perform context c).2.2 with
  -- No lock is asked for, so whatever is held was earned before.
  | none =>
    rw [courseAfterCall_none htask hreply]
    exact hlocked
  | some reply =>
    rw [courseAfterCall_some htask hreply, Course.locked_after, Call.lockedAfter_of_ne_ask hc]
    exact hlocked

/-- After a call of a job its transaction holds what the job has locked, or it asks for it. -/
theorem Ascends.earned_call (ha : Ascends h s id job) (hs : Secures h s first) (hf : S.AllFit h s)
    (hjob : h.jobs[id]? = some job)
    (htask : h.system.tasks.find? id = some ⟨.call c go, context⟩)
    (hallows : Discipline.Allows ⟨S.store, P⟩ job.course c)
    (hstage : (courseAfterCall h.system id job.course).stage = .opened tx)
    (hheld : (s.afterCall c).locks.holds tx.id cell = true) :
    cell ∈ (courseAfterCall h.system id job.course).locked ∨
      Asks (S.recorded h (.call id) (answeredSystem h id context c go)) id cell := by
  cases c with
  -- A new transaction holds nothing, since its number was never used.
  | begin store =>
    obtain rfl : store = S.store := hallows.1
    rw [courseAfterCall_some htask (World.reply_begin hf.store context)] at hstage
    obtain rfl := Stage.opened.inj hstage
    have hnot : s.begin.2.locks.holds s.nextId cell = false := hs.not_holds_nextId hf cell
    exact absurd (hnot.symm.trans hheld) (by simp)
  -- A request is made under the transaction that is open, so it is `tx` that asks.
  | ask tx' request =>
    have hopened : job.course.stage = .opened tx' := hallows
    rw [stage_courseAfterCall htask (Course.stage_after_ask job.course tx' request)] at hstage
    obtain rfl := Stage.opened.inj (hopened.symm.trans hstage)
    exact ha.earned_ask hs hf hjob htask hopened hheld
  | commit tx' =>
    rw [courseAfterCall_some htask rfl] at hstage
    exact absurd hstage (by simp [Course.after])
  | discard tx' =>
    rw [courseAfterCall_some htask rfl] at hstage
    exact absurd hstage (by simp [Course.after])
  | _ => exact .inl (ha.earned_quiet htask rfl (fun _ => rfl) (by simp) hstage hheld)

/-- All jobs lock in ascending order after a call of one of them. -/
theorem AllAscend.call (ha : AllAscend h s) (hs : Secures h s first) (hf : S.AllFit h s)
    (hjob : h.jobs[id]? = some job)
    (htask : h.system.tasks.find? id = some ⟨.call c go, context⟩)
    (hallows : Discipline.Allows ⟨S.store, P⟩ job.course c) :
    AllAscend (S.recorded h (.call id) (answeredSystem h id context c go)) (s.afterCall c) := by
  refine ha.modify hs hf hjob rfl (fun id' hid => SortedMap.find?_insert_of_ne _ _ hid)
    (fun hne hheld => ?_) ⟨fun p hp => ?_, fun hstage hheld =>
      (ha hjob).earned_call hs hf hjob htask hallows hstage hheld⟩
  -- The other tasks: the request gives a lock to its own transaction only.
  · rcases Store.holds_of_afterCall hheld with hold | hqueues | ⟨tx, request, rfl, hid, -⟩
    · exact .inl hold
    · exact .inr hqueues
    · have hopen : job.course.stage.open? = some tx := by
        rw [show job.course.stage = .opened tx from hallows]
        rfl
      exact absurd hid (hne tx hopen)
  -- The task itself goes on with the rest of its program, which climbs.
  · have hprogram := History.program?_eq (h := S.recorded h (.call id)
      (answeredSystem h id context c go)) (SortedMap.find?_insert_self ..)
    obtain rfl := Option.some.inj (hprogram.symm.trans hp)
    exact (ha hjob).climbs_call htask

end Calls

/-- All jobs lock in ascending order after the waiting of one of them has ended. -/
theorem AllAscend.expire (ha : AllAscend h s) (hs : Secures h s first) (hf : S.AllFit h s)
    (hjob : h.jobs[id]? = some job) {task : Task ρ}
    (htask : h.system.tasks.find? id = some task)
    (hproceed : h.system.world.canProceed task.program = false)
    (hallows : ∀ tx request go, task.program = .call (.ask tx request) go →
      job.course.stage = .opened tx) {system : System ρ}
    (hsystem : system = ⟨(h.system.world.expire task.context task.program).1,
      h.system.tasks.insert id ⟨(h.system.world.expire task.context task.program).2.2,
        (h.system.world.expire task.context task.program).2.1⟩⟩)
    (hstore : system.world.store? S.store = some s') :
    AllAscend (S.recorded h (.expire id) system) s' := by
  have hfind : system.tasks.find? id = some
      ⟨(h.system.world.expire task.context task.program).2.2,
        (h.system.world.expire task.context task.program).2.1⟩ := by
    subst hsystem
    exact SortedMap.find?_insert_self ..
  have hprogram' := History.program?_eq (h := S.recorded h (.expire id) system) hfind
  have htasks : ∀ id', id' ≠ id → system.tasks.find? id' = h.system.tasks.find? id' := by
    subst hsystem
    exact fun id' hid => SortedMap.find?_insert_of_ne _ _ hid
  have hbefore := h.program?_eq htask
  rw [hsystem] at hstore
  rcases h.system.world.expire_cases task.context task.program with ⟨hworld, hsame⟩ |
    ⟨tx, request, go, cell, fault, hprogram, hlock, hworld, hgo⟩
  · -- Nothing happens, and the program waits for what it waited for.
    rw [hworld] at hstore
    obtain rfl : s' = s := Option.some.inj (hstore.symm.trans hf.store)
    dsimp only at hprogram'
    rw [hsame] at hprogram'
    exact ha.modify hs hf hjob rfl htasks (fun _ hheld => .inl hheld) ((ha hjob).frame rfl
      (hprogram'.trans hbefore.symm) fun _ hheld => .inl hheld)
  · have hstage := hallows tx request go hprogram
    have hon := ((hf.fits hjob).ticket tx (Stage.ticket?_of_opened hstage)).1
    have hwithdraw := World.store?_withSite hf.store tx.store fun s => s.withdraw tx.id request
    rw [if_pos hon, ← hworld] at hwithdraw
    obtain rfl : s' = s.withdraw tx.id request := Option.some.inj (hstore.symm.trans hwithdraw)
    dsimp only at hprogram'
    rw [hgo] at hprogram'
    rw [hprogram] at hbefore hproceed
    rw [World.canProceed_ask (hon ▸ hf.store) hlock] at hproceed
    refine ha.modify hs hf hjob rfl htasks (fun _ hheld => .inl (Store.holds_of_withdraw hheld))
      ⟨fun p hp => ?_, fun {tx' cell'} hstage' hheld => .inl ?_⟩
    · obtain rfl := Option.some.inj (hprogram'.symm.trans hp)
      exact ((ha hjob).climbs _ hbefore).2 (.error fault) (Call.isOrdered_error ..)
    · -- It had not been handed the lock that it has asked for.
      obtain rfl := Stage.opened.inj (hstage.symm.trans hstage')
      have hold := Store.holds_of_withdraw hheld
      refine ((ha hjob).earned hstage hold).resolve_right fun hasks => ?_
      obtain rfl := Option.some.inj (hlock.symm.trans ((asks_iff hbefore).1 hasks))
      exact absurd (hproceed.symm.trans hold) (by simp)

/-- All jobs lock in ascending order after one of them is dropped. -/
theorem AllAscend.abandon (ha : AllAscend h s) (hs : Secures h s first) (hf : S.AllFit h s)
    (hjob : h.jobs[id]? = some job) {task : Task ρ}
    (htask : h.system.tasks.find? id = some task) {system : System ρ}
    (hsystem : system = ⟨h.system.world.abandon task.context task.program,
      h.system.tasks.erase id⟩)
    (hstore : system.world.store? S.store = some s') :
    AllAscend (S.recorded h (.abandon id) system) s' := by
  subst hsystem
  have htickets := (hf.fits hjob).tickets task htask
  have hon : ∀ tx ∈ task.context.tickets, tx.store = S.store := by
    intro tx htx
    rw [htickets, Option.mem_toList] at htx
    exact ((hf.fits hjob).ticket tx (ticket?_of_open? htx)).1
  obtain ⟨waiting, hall⟩ := World.store?_abandon hf.store task.context task.program hon
  rw [htickets] at hall
  refine ha.modify hs hf hjob rfl (fun id' hid => SortedMap.find?_erase_of_ne _ hid)
    (fun {number cell} _ hheld => ?_) ⟨fun p hp => ?_, fun hstage => ?_⟩
  · -- Its request is withdrawn and its transaction, if open, discarded.
    cases hopen : job.course.stage.open? with
    | none =>
      rw [hopen] at hall
      obtain rfl := Option.some.inj (hstore.symm.trans hall)
      exact .inl (Store.holds_of_afterWaiting hheld)
    | some tx =>
      rw [hopen] at hall
      obtain rfl := Option.some.inj (hstore.symm.trans hall)
      exact (Store.holds_of_discard hheld).imp Store.holds_of_afterWaiting
        Store.queues_of_afterWaiting
  · have hnone : (h.system.tasks.erase id).find? id = none := SortedMap.find?_erase_self ..
    obtain ⟨task', htask', -⟩ := Option.map_eq_some_iff.1 hp
    exact absurd (hnone.symm.trans htask') (by simp)
  · exact absurd hstage (Course.drop_not_opened job.course _)

/-- A move that changes neither the jobs nor the programs nor the store, but may start a job. -/
theorem AllAscend.same (ha : AllAscend h s) {move : Move ι} {system : System ρ}
    (hjobs : ∀ {id : TaskId} {job : Job ι}, (jobsAfter h move).1[id]? = some job →
      h.jobs[id]? = some job ∧ (S.recorded h move system).program? id = h.program? id ∨
        Ascends (S.recorded h move system) s id job) : AllAscend (S.recorded h move system) s := by
  intro id job hjob
  rcases hjobs hjob with ⟨hold, hprogram⟩ | hnew
  · exact (ha hold).frame rfl hprogram fun _ hheld => .inl hheld
  · exact hnew

/-- Every move keeps all jobs locking in ascending order. -/
theorem AllAscend.after (ha : AllAscend h s) (hascending : S.IsAscending) (hS : S.IsDisciplined)
    (hfollow : S.AllFollow h) (hf : S.AllFit h s) (hs : Secures h s first) {move : Move ι}
    (hstore : (S.after h move).system.world.store? S.store = some s') :
    AllAscend (S.after h move) s' := by
  -- Every task that runs is one of the jobs.
  have hjobs : ∀ {id task}, h.system.tasks.find? id = some task →
      ∃ job, h.jobs[id]? = some job := fun htask =>
    ⟨_, List.getElem?_eq_getElem (hfollow.known htask)⟩
  unfold Setting.after at hstore ⊢
  split
  · rename_i system hstep
    rw [hstep] at hstore
    change system.world.store? S.store = some s' at hstore
    cases move with
    -- A new task has locked nothing yet, and its program climbs (`hascending`).
    | start what isCancelled trigger =>
      obtain ⟨hnew, rfl⟩ := System.step_start hstep
      obtain rfl : s' = s := Option.some.inj (hstore.symm.trans hf.store)
      refine ha.same fun {id job} hjob => ?_
      rcases getElem?_concat_cases hjob with ⟨rfl, rfl⟩ | ⟨hlt, hold⟩
      · refine .inr ⟨fun p hp => ?_, fun hstage => absurd hstage (by simp [Course.start])⟩
        have hfind : (h.system.withTask h.jobs.length
            ⟨S.program what, .start isCancelled trigger⟩).tasks.find? h.jobs.length =
              some ⟨S.program what, .start isCancelled trigger⟩ := SortedMap.find?_insert_self ..
        have hprogram := congrArg (Option.map Task.program) hfind
        obtain rfl := Option.some.inj (hprogram.symm.trans hp)
        exact hascending what
      · exact .inl ⟨hold, History.program?_congr
          (SortedMap.find?_insert_of_ne _ _ (Nat.ne_of_lt hlt))⟩
    -- What a task may call is what its place in its course allows.
    | call id =>
      obtain ⟨context, c, go, htask, rfl⟩ := System.step_call hstep
      obtain ⟨job, hjob⟩ := hjobs htask
      obtain ⟨P, hallowed⟩ := hS.allows hfollow hjob htask rfl
      have hcall := hf.call hjob htask hallowed
      obtain rfl : s' = s.afterCall c := Option.some.inj (hstore.symm.trans hcall.store)
      exact ha.call hs hf hjob htask hallowed
    | expire id =>
      obtain ⟨task, htask, hsystem⟩ := System.step_expire hstep
      obtain ⟨job, hjob⟩ := hjobs htask
      have hproceed := System.canProceed_of_step_expire hstep htask
      refine ha.expire hs hf hjob htask hproceed (fun tx request go hprogram => ?_) hsystem hstore
      obtain ⟨P, hallowed⟩ := hS.allows hfollow hjob htask hprogram
      exact hallowed
    | abandon id =>
      obtain ⟨task, htask, hsystem⟩ := System.step_abandon hstep
      obtain ⟨job, hjob⟩ := hjobs htask
      exact ha.abandon hs hf hjob htask hsystem hstore
    -- The one who is told keeps the program it was at.
    | cancel id =>
      obtain ⟨task, htask, rfl⟩ := System.step_cancel hstep
      obtain rfl : s' = s := Option.some.inj (hstore.symm.trans hf.store)
      refine ha.same fun {id' job} hjob => .inl ⟨hjob, ?_⟩
      by_cases hid : id' = id
      · subst hid
        exact (congrArg (Option.map Task.program) (SortedMap.find?_insert_self ..)).trans
          (h.program?_eq htask).symm
      · exact History.program?_congr (SortedMap.find?_insert_of_ne _ _ hid)
    | wait micros =>
      obtain rfl := Option.some.inj hstep
      obtain rfl : s' = s := Option.some.inj (hstore.symm.trans hf.store)
      exact ha.same fun hjob => .inl ⟨hjob, rfl⟩
    | tick nanos =>
      obtain rfl := Option.some.inj hstep
      obtain rfl : s' = s := Option.some.inj (hstore.symm.trans hf.store)
      exact ha.same fun hjob => .inl ⟨hjob, rfl⟩
  · rename_i hstep
    rw [hstep] at hstore
    obtain rfl : s' = s := Option.some.inj (hstore.symm.trans hf.store)
    exact ha

/-- **In every run all jobs lock in ascending order.** -/
theorem ascends_run (hascending : S.IsAscending) (hS : S.IsDisciplined) {world : World}
    (hstore : world.store? S.store = some s) (hlocks : s.locks = .empty) (moves : List (Move ι)) :
    ∃ s', S.AllFit (S.run world moves) s' ∧ Secures (S.run world moves) s' 0 ∧
      AllAscend (S.run world moves) s' := by
  induction moves using List.reverseRecOn with
  | nil =>
    -- Nobody has started anything, and a resting store has no locks.
    obtain ⟨s', hf⟩ := fits_run hS hstore ([] : List (Move ι))
    obtain rfl : s' = s := Option.some.inj (hf.store.symm.trans hstore)
    refine ⟨s', hf, ⟨?_, fun hjob => absurd hjob (by simp [run, begin]), Nat.zero_le _⟩,
      fun _ _ hjob => absurd hjob (by simp [run, begin])⟩
    rw [hlocks]
    exact Locks.guarded_empty
  | append_singleton moves move ih =>
    obtain ⟨s₁, hf, hs, ha⟩ := ih
    have hfollow := S.follows_run world moves
    obtain ⟨s', hf'⟩ := hf.after hS hfollow move
    rw [run_concat]
    exact ⟨s', hf', hs.after hS hfollow hf hf'.store,
      ha.after hascending hS hfollow hf hs hf'.store⟩

/-- Where no transaction is older than the run, those that wait are those of jobs that ask. -/
theorem Secures.exists_asks (hs : Secures h s 0) (hf : S.AllFit h s)
    (hqueues : s.locks.Queues number cell) :
    ∃ (id : TaskId) (job : Job ι) (tx : Ticket), h.jobs[id]? = some job ∧
      job.course.stage = .opened tx ∧ tx.id = number ∧ Asks h id cell := by
  obtain ⟨lock, hlock, hmem⟩ := hqueues
  rcases (hs.guarded.waiting hlock hmem).isOpen with hold | ⟨id, job, tx, hjob, hstage, rfl⟩
  · exact absurd hold (Nat.not_lt_zero _)
  · exact ⟨id, job, tx, hjob, hstage, rfl, hs.asks_of_queues hf hjob hstage ⟨lock, hlock, hmem⟩⟩

/-- What a job with an open transaction has locked, the transaction holds. -/
theorem AllFit.holds_of_locked (hf : S.AllFit h s) (hjob : h.jobs[id]? = some job)
    (hstage : job.course.stage = .opened tx) (hlocked : cell ∈ job.course.locked) :
    s.locks.holds tx.id cell = true := by
  obtain ⟨b, tx', -, hback, -⟩ := (hf.fits hjob).spans.end hstage hf.committed
  obtain ⟨answered, hmem, hlock⟩ := List.mem_filterMap.1 hlocked
  exact hback.holds answered hmem cell hlock

/-- If all jobs lock in ascending order, then so do their transactions. -/
theorem AllAscend.isAscending (ha : AllAscend h s) (hs : Secures h s 0) (hf : S.AllFit h s) :
    s.locks.IsAscending where
  place := by
    intro number cell cell' n n' hstands hstands'
    -- Whoever stands in a queue asks for its lock, and a task asks for one lock at a time.
    obtain ⟨id, job, tx, hjob, hstage, rfl, hasks⟩ := hs.exists_asks hf hstands.queues
    obtain rfl := hasks.unique (hs.asks_of_queues hf hjob hstage hstands'.queues)
    obtain ⟨lock, hlock, hn⟩ := hstands
    obtain ⟨lock', hlock', hn'⟩ := hstands'
    obtain rfl := Option.some.inj (hlock.symm.trans hlock')
    have hnodup := (List.nodup_cons.1 (hs.guarded.nodup hlock)).2
    have hlt := (List.getElem?_eq_some_iff.1 hn).1
    exact ⟨rfl, (List.getElem?_inj hlt hnodup).1 (hn.trans hn'.symm)⟩
  above := by
    intro number cell cell' n hheld hstands
    obtain ⟨id, job, tx, hjob, hstage, rfl, hasks⟩ := hs.exists_asks hf hstands.queues
    have hnot := hstands.queues.not_holds hs.guarded
    -- The transaction does not hold the lock it waits for, so the locks it holds were all earned.
    have hlocked : cell ∈ job.course.locked := by
      refine ((ha hjob).earned hstage hheld).resolve_right fun hasks' => ?_
      obtain rfl := hasks.unique hasks'
      exact absurd (hnot.symm.trans hheld) (by simp)
    -- And its program climbs: what it asks for next is above all that it has locked.
    obtain ⟨tx', request, go, hprogram, hlock⟩ := hasks
    rcases ((ha hjob).climbs _ hprogram).1 cell' hlock with hagain | hbelow
    · exact absurd (hnot.symm.trans (hf.holds_of_locked hjob hstage hagain)) (by simp)
    · exact hbelow cell hlocked

end Setting

end Muster
