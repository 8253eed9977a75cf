import Muster.Proofs.Store.Queue
import Muster.Proofs.System.Moments

/-!
# The locks of a run

Locks are held and waited for by transactions of jobs, or by transactions that had begun before the
run. `Secures` says that the holder of a lock among the jobs has an open transaction, and that
whoever stands in a queue makes a request for that lock and goes on making it. Every move keeps it
(`Secures.after`), so a job whose transaction is not open holds no lock (`Secures.not_holds`),
neither when it has returned nor when it was dropped.
-/

namespace Muster

namespace Setting

variable {ι ρ : Type} {S : Setting ι ρ} {h h' : History ι ρ} {s s' : Store} {id : TaskId}
  {job : Job ι} {first : TransactionId} {number : TransactionId} {cell : Cell}

/-- A transaction is open: that of a job, or one from before the run. -/
def IsOpen (h : History ι ρ) (first : TransactionId) (number : TransactionId) : Prop :=
  number < first ∨ ∃ (id : TaskId) (job : Job ι) (tx : Ticket), h.jobs[id]? = some job ∧
    job.course.stage = .opened tx ∧ tx.id = number

/-- A transaction may wait for the lock of a cell: its job asks for it, or it is one from before the
run. -/
def Waits (h : History ι ρ) (first : TransactionId) (number : TransactionId) (cell : Cell) : Prop :=
  number < first ∨ ∃ (id : TaskId) (job : Job ι) (tx : Ticket) (task : Task ρ) (request : Request)
    (go : Except Store.Fault request.Reply → Program ρ),
    h.jobs[id]? = some job ∧ job.course.stage = .opened tx ∧ tx.id = number ∧
      h.system.tasks.find? id = some task ∧ task.program = .call (.ask tx request) go ∧
      request.lock? = some cell

/-- The program of a job asks for the lock of a cell. -/
def Asks (h : History ι ρ) (id : TaskId) (cell : Cell) : Prop :=
  ∃ (tx : Ticket) (request : Request) (go : Except Store.Fault request.Reply → Program ρ),
    h.program? id = some (.call (.ask tx request) go) ∧ request.lock? = some cell

/-- A task that makes a request asks for the lock of that request. -/
theorem asks_iff {tx : Ticket} {request : Request}
    {go : Except Store.Fault request.Reply → Program ρ}
    (hprogram : h.program? id = some (.call (.ask tx request) go)) :
    Asks h id cell ↔ request.lock? = some cell := by
  constructor
  · rintro ⟨tx', request', go', hprogram', hlock⟩
    have hcall := Option.some.inj (hprogram.symm.trans hprogram')
    injection hcall with hask
    injection hask with _ hrequest
    rw [hrequest]
    exact hlock
  · exact fun hlock => ⟨tx, request, go, hprogram, hlock⟩

/-- A job asks for one lock at a time. -/
theorem Asks.unique {cell' : Cell} (hasks : Asks h id cell) (hasks' : Asks h id cell') :
    cell = cell' := by
  obtain ⟨tx, request, go, hprogram, hlock⟩ := hasks
  exact Option.some.inj (hlock.symm.trans ((asks_iff hprogram).1 hasks'))

/-- A task whose next call is no request asks for no lock. -/
theorem not_asks {c : Call} {go : c.Reply → Program ρ}
    (hprogram : h.program? id = some (.call c go)) (hc : ∀ tx request, c ≠ .ask tx request) :
    ¬ Asks h id cell := by
  rintro ⟨tx, request, go', hprogram', -⟩
  have hcall := Option.some.inj (hprogram.symm.trans hprogram')
  injection hcall with hask
  exact hc tx request hask

/-- Locks are held by open transactions and waited for by those that ask for them; the transactions
of jobs are newer than those from before the run. -/
structure Secures (h : History ι ρ) (s : Store) (first : TransactionId) : Prop where
  /-- The locks are guarded. -/
  guarded : s.locks.Guarded (IsOpen h first) (Waits h first)
  /-- The transactions of jobs are newer. -/
  numbered : ∀ {id : TaskId} {job : Job ι} {tx}, h.jobs[id]? = some job →
    job.course.stage.ticket? = some tx → first ≤ tx.id
  /-- So are those to come. -/
  first_le : first ≤ s.nextId

/-- A transaction that waits is open. -/
theorem Waits.isOpen (hw : Waits h first number cell) : IsOpen h first number := by
  rcases hw with hold | ⟨id, job, tx, -, -, -, hjob, hstage, hid, -⟩
  · exact .inl hold
  · exact .inr ⟨id, job, tx, hjob, hstage, hid⟩

/-- The transaction of a job is that of no other job. -/
theorem AllFit.eq_of_number (hf : S.AllFit h s) (hjob : h.jobs[id]? = some job) {tx : Ticket}
    (htx : job.course.stage.ticket? = some tx) {id' : TaskId} {job' : Job ι} {tx' : Ticket}
    (hjob' : h.jobs[id']? = some job') (htx' : job'.course.stage.ticket? = some tx')
    (hnumber : tx'.id = tx.id) : id' = id ∧ job' = job ∧ tx' = tx := by
  have hstore := ((hf.fits hjob).ticket tx htx).1
  have hstore' := ((hf.fits hjob').ticket tx' htx').1
  obtain rfl := ticket_eq (hstore'.trans hstore.symm) hnumber
  obtain rfl := hf.distinct hjob' hjob htx' htx
  exact ⟨rfl, Option.some.inj (hjob'.symm.trans hjob), rfl⟩

/-- The transaction of a job waits only for the lock that its task asks for. -/
theorem Secures.waits_own (hs : Secures h s first) (hf : S.AllFit h s)
    (hjob : h.jobs[id]? = some job) {tx : Ticket} (htx : job.course.stage.ticket? = some tx)
    (hw : Waits h first tx.id cell) :
    job.course.stage = .opened tx ∧ ∃ task request go,
      h.system.tasks.find? id = some task ∧ task.program = .call (.ask tx request) go ∧
        request.lock? = some cell := by
  rcases hw with hold |
    ⟨id', job', tx', task, request, go, hjob', hstage, hid, htask, hprogram, hlock⟩
  · exact absurd hold (Nat.not_lt.2 (hs.numbered hjob htx))
  · have htx' := Stage.ticket?_of_opened hstage
    obtain ⟨rfl, rfl, rfl⟩ := hf.eq_of_number hjob htx hjob' htx' hid
    exact ⟨hstage, task, request, go, htask, hprogram, hlock⟩

/-- A job whose transaction may wait for a lock asks for it. -/
theorem Secures.asks (hs : Secures h s first) (hf : S.AllFit h s) (hjob : h.jobs[id]? = some job)
    {tx : Ticket} (htx : job.course.stage.ticket? = some tx) (hw : Waits h first tx.id cell) :
    Asks h id cell := by
  obtain ⟨-, task, request, go, htask, hprogram, hlock⟩ := hs.waits_own hf hjob htx hw
  exact ⟨tx, request, go, (h.program?_eq htask).trans (congrArg some hprogram), hlock⟩

/-- A move of one job keeps the locks guarded if, of its own transaction, what is open and what
waits is still so afterwards. -/
theorem Secures.moved (hs : Secures h s first) (hjob : h.jobs[id]? = some job) {job' : Job ι}
    (hjob' : h'.jobs[id]? = some job')
    (hothers : ∀ id', id' ≠ id → h'.jobs[id']? = h.jobs[id']?)
    (htasks : ∀ id', id' ≠ id → h'.system.tasks.find? id' = h.system.tasks.find? id')
    (hnext : s.nextId ≤ s'.nextId)
    (hticket : ∀ tx, job'.course.stage.ticket? = some tx →
      job.course.stage.ticket? = some tx ∨ s.nextId ≤ tx.id)
    (hguarded : s'.locks.Guarded
      (fun number => IsOpen h first number ∧ ∀ tx, job.course.stage = .opened tx →
        tx.id = number → job'.course.stage = .opened tx)
      (fun number cell => Waits h first number cell ∧ ∀ tx, job.course.stage = .opened tx →
        tx.id = number → Waits h' first number cell)) : Secures h' s' first where
  guarded := by
    refine hguarded.mono (fun number hopen => ?_) fun number cell hwaits => ?_
    -- An open number is that of a transaction before, or of a job; for the job that moved `hown`
    -- says that the number is still open.
    · obtain ⟨hold | ⟨id', job'', tx, hjob'', hstage, hid⟩, hown⟩ := hopen
      · exact .inl hold
      · by_cases hsame : id' = id
        · subst hsame
          obtain rfl := Option.some.inj (hjob.symm.trans hjob'')
          exact .inr ⟨id', job', tx, hjob', hown tx hstage hid, hid⟩
        · exact .inr ⟨id', job'', tx, (hothers id' hsame).trans hjob'', hstage, hid⟩
    -- Likewise who waits: the calls of the other tasks are the ones they were at.
    · obtain ⟨hold | ⟨id', job'', tx, task, request, go, hjob'', hstage, hid, htask, hprogram,
        hlock⟩, hown⟩ := hwaits
      · exact .inl hold
      · by_cases hsame : id' = id
        · subst hsame
          obtain rfl := Option.some.inj (hjob.symm.trans hjob'')
          exact hown tx hstage hid
        · exact .inr ⟨id', job'', tx, task, request, go, (hothers id' hsame).trans hjob'', hstage,
            hid, (htasks id' hsame).trans htask, hprogram, hlock⟩
  numbered := by
    -- A number that the moved job has now it had before, or it is a new one.
    intro id' job'' tx hjob'' htx
    by_cases hsame : id' = id
    · subst hsame
      obtain rfl := Option.some.inj (hjob'.symm.trans hjob'')
      rcases hticket tx htx with hold | hnew
      · exact hs.numbered hjob hold
      · exact Nat.le_trans hs.first_le hnew
    · exact hs.numbered ((hothers id' hsame).symm.trans hjob'') htx
  first_le := Nat.le_trans hs.first_le hnext

/-- If the transaction of a job is not open, nothing is to be shown of it. -/
theorem guarded_of_not_opened {locks : Locks} {isOpen : TransactionId → Prop}
    {waits : TransactionId → Cell → Prop} {k : Course} (hg : locks.Guarded isOpen waits)
    (hnot : ∀ tx, k.stage ≠ .opened tx) {P : Ticket → TransactionId → Prop}
    {Q : Ticket → TransactionId → Cell → Prop} :
    locks.Guarded
      (fun number => isOpen number ∧ ∀ tx, k.stage = .opened tx → tx.id = number → P tx number)
      (fun number cell => waits number cell ∧
        ∀ tx, k.stage = .opened tx → tx.id = number → Q tx number cell) := by
  refine hg.mono (fun number hopen => ⟨hopen, ?_⟩) fun number cell hw => ⟨hw, ?_⟩
  · intro tx hopened
    exact absurd hopened (hnot tx)
  · intro tx hopened
    exact absurd hopened (hnot tx)

section Calls

variable {context : Context} {c : Call} {go : c.Reply → Program ρ} {P : Course → Prop}

/-- A call of a job keeps the locks guarded if its own transaction stays so. -/
theorem Secures.called (hs : Secures h s first) (hjob : h.jobs[id]? = some job)
    (hticket : ∀ tx, (courseAfterCall h.system id job.course).stage.ticket? = some tx →
      job.course.stage.ticket? = some tx ∨ s.nextId ≤ tx.id)
    (hguarded : (s.afterCall c).locks.Guarded
      (fun number => IsOpen h first number ∧ ∀ tx, job.course.stage = .opened tx →
        tx.id = number → (courseAfterCall h.system id job.course).stage = .opened tx)
      (fun number cell => Waits h first number cell ∧ ∀ tx, job.course.stage = .opened tx →
        tx.id = number → Waits (S.recorded h (.call id) (answeredSystem h id context c go))
          first number cell)) :
    Secures (S.recorded h (.call id) (answeredSystem h id context c go)) (s.afterCall c) first :=
  hs.moved hjob (getElem?_modify_self hjob _)
    (fun _ hid => List.getElem?_modify_ne _ _ (Ne.symm hid))
    (fun _ hid => SortedMap.find?_insert_of_ne _ _ hid) (s.nextId_afterCall c) hticket hguarded

/-- The transaction of a job that makes no request waits for nothing. -/
theorem Secures.not_waits (hs : Secures h s first) (hf : S.AllFit h s)
    (hjob : h.jobs[id]? = some job) {tx : Ticket} (htx : job.course.stage.ticket? = some tx)
    (htask : h.system.tasks.find? id = some ⟨.call c go, context⟩)
    (hc : ∀ tx request, c ≠ .ask tx request) (cell : Cell) : ¬ Waits h first tx.id cell := by
  intro hw
  exact not_asks (h.program?_eq htask) hc (hs.asks hf hjob htx hw)

/-- A call that neither begins nor ends a transaction and is no request leaves the locks alone. -/
theorem Secures.quiet (hs : Secures h s first) (hf : S.AllFit h s)
    (hjob : h.jobs[id]? = some job)
    (htask : h.system.tasks.find? id = some ⟨.call c go, context⟩) (hstore : s.afterCall c = s)
    (hstage : ∀ reply, (job.course.after c reply).stage = job.course.stage)
    (hc : ∀ tx request, c ≠ .ask tx request) :
    Secures (S.recorded h (.call id) (answeredSystem h id context c go)) (s.afterCall c) first := by
  have hsame := stage_courseAfterCall htask hstage
  refine hs.called hjob (fun tx htx => ?_) ?_
  · rw [hsame] at htx
    exact .inl htx
  · rw [hstore, hsame]
    -- No new wait, and the transaction of this task waits for nothing while it calls something
    -- else.
    refine hs.guarded.mono (fun _ hopen => ⟨hopen, fun _ hopened _ => hopened⟩) ?_
    intro number cell hw
    refine ⟨hw, fun tx hopened hnumber => ?_⟩
    have htx := Stage.ticket?_of_opened hopened
    exact absurd (hnumber ▸ hw) (hs.not_waits hf hjob htx htask hc cell)

/-- A job that begins its transaction holds no locks yet. -/
theorem Secures.begin (hs : Secures h s first) (hf : S.AllFit h s) (hjob : h.jobs[id]? = some job)
    {go : Ticket → Program ρ}
    (htask : h.system.tasks.find? id = some ⟨.call (.begin S.store) go, context⟩)
    (hfresh : job.course.stage = .fresh) :
    Secures (S.recorded h (.call id) (answeredSystem h id context (.begin S.store) go))
      (s.afterCall (.begin S.store)) first := by
  have hreply := World.reply_begin hf.store context
  have hnone : ∀ tx, job.course.stage ≠ .opened tx := fun tx hopened =>
    absurd (hfresh.symm.trans hopened) (by simp)
  -- The number of the new transaction is the next of the store, and it was open nowhere before.
  refine hs.called hjob (fun tx htx => ?_) ?_
  · rw [courseAfterCall_some htask hreply] at htx
    obtain rfl := Option.some.inj htx
    exact .inr (Nat.le_refl _)
  · exact guarded_of_not_opened hs.guarded hnone

/-- A job that makes a request is answered, or it waits for the lock of the request. -/
theorem Secures.ask (hs : Secures h s first) (hf : S.AllFit h s) (hjob : h.jobs[id]? = some job)
    {tx : Ticket} {request : Request} {go : Except Store.Fault request.Reply → Program ρ}
    (htask : h.system.tasks.find? id = some ⟨.call (.ask tx request) go, context⟩)
    (hstage : job.course.stage = .opened tx) :
    Secures (S.recorded h (.call id) (answeredSystem h id context (.ask tx request) go))
      (s.afterCall (.ask tx request)) first := by
  have htx := Stage.ticket?_of_opened hstage
  have hon := ((hf.fits hjob).ticket tx htx).1
  have hreply := World.reply_ask (hon ▸ hf.store) context request
  have hafter := stage_courseAfterCall htask (Course.stage_after_ask job.course tx request)
  -- Of the own transaction, it waits just for the lock of the request.
  have hwaits : ∀ cell, Waits h first tx.id cell ↔ request.lock? = some cell := by
    intro cell
    constructor
    · intro hw
      exact (asks_iff (h.program?_eq htask)).1 (hs.asks hf hjob htx hw)
    · intro hlock
      exact .inr ⟨id, job, tx, _, request, go, hjob, hstage, rfl, htask, rfl, hlock⟩
  have hopen : IsOpen h first tx.id := .inr ⟨id, job, tx, hjob, hstage, rfl⟩
  refine hs.called hjob (fun tx htx => ?_) ?_
  · rw [hafter] at htx
    exact .inl htx
  · have hguarded := Store.guarded_ask hs.guarded hopen request hwaits
    refine hguarded.mono (fun _ hopen => ⟨hopen, fun _ hopened _ => hafter.trans hopened⟩) ?_
    intro number cell hw
    refine ⟨hw.1, fun tx' hopened hnumber => ?_⟩
    obtain rfl : tx' = tx := Stage.opened.inj (hopened.symm.trans hstage)
    -- There was no answer, so the program makes the same request again.
    have hnone : (h.system.world.perform context (.ask tx' request)).2.2 = none := by
      rw [hreply, hw.2 hnumber.symm]
      rfl
    have hagain : (System.answered h.system.world context (.ask tx' request) go).program =
        .call (.ask tx' request) go := by
      rw [System.answered, hnone]
    subst hnumber
    exact .inr ⟨id, _, tx', _, request, go, getElem?_modify_self hjob _, hafter.trans hstage, rfl,
      SortedMap.find?_insert_self .., hagain, (hwaits cell).1 hw.1⟩

/-- A job that ends its transaction, or has done so before, lets go of all its locks. -/
theorem Secures.end (hs : Secures h s first) (hf : S.AllFit h s) (hjob : h.jobs[id]? = some job)
    {tx : Ticket} (htx : job.course.stage.ticket? = some tx)
    (htask : h.system.tasks.find? id = some ⟨.call c go, context⟩)
    (hc : ∀ tx request, c ≠ .ask tx request)
    (hticket : (courseAfterCall h.system id job.course).stage.ticket? = some tx)
    (hguarded : (s.afterCall c).locks.Guarded
      (fun number => IsOpen h first number ∧ (job.course.stage = .opened tx → number ≠ tx.id))
      (Waits h first)) :
    Secures (S.recorded h (.call id) (answeredSystem h id context c go)) (s.afterCall c) first := by
  have hmine : ∀ tx', job.course.stage = .opened tx' → tx' = tx := by
    intro tx' hopened
    rw [hopened] at htx
    exact Option.some.inj htx
  refine hs.called hjob ?_ (hguarded.mono ?_ ?_)
  · intro tx' htx'
    rw [hticket] at htx'
    exact .inl (htx.trans htx')
  -- What ends is the transaction of this task, which waits for nothing while it ends it.
  · intro number hopen
    refine ⟨hopen.1, fun tx' hopened hnumber => ?_⟩
    obtain rfl := hmine tx' hopened
    exact absurd hnumber.symm (hopen.2 hopened)
  · intro number cell hw
    refine ⟨hw, fun tx' hopened hnumber => ?_⟩
    obtain rfl := hmine tx' hopened
    exact absurd (hnumber ▸ hw) (hs.not_waits hf hjob htx htask hc cell)

/-- Locks are secured behind a commit. -/
theorem Secures.commit (hs : Secures h s first) (hf : S.AllFit h s)
    (hjob : h.jobs[id]? = some job) {tx : Ticket} {go : Unit → Program ρ}
    (htask : h.system.tasks.find? id = some ⟨.call (.commit tx) go, context⟩)
    (hstage : job.course.stage = .opened tx) :
    Secures (S.recorded h (.call id) (answeredSystem h id context (.commit tx) go))
      (s.afterCall (.commit tx)) first := by
  have htx := Stage.ticket?_of_opened hstage
  obtain ⟨b, tx', -, hback, -⟩ := (hf.fits hjob).spans.end hstage hf.committed
  refine hs.end hf hjob htx htask (by simp) ?_ ?_
  · rw [courseAfterCall_some htask rfl]
    rfl
  · have hguarded := Store.guarded_commit hs.guarded hback.live (fun _ _ hw => hw.isOpen)
      fun cell => hs.not_waits hf hjob htx htask (by simp) cell
    exact hguarded.mono (fun _ hopen => ⟨hopen.1, fun _ => hopen.2⟩) fun _ _ hw => hw

/-- Locks are secured behind a discard. -/
theorem Secures.discard (hs : Secures h s first) (hf : S.AllFit h s)
    (hjob : h.jobs[id]? = some job) {tx : Ticket} {go : Unit → Program ρ}
    (htask : h.system.tasks.find? id = some ⟨.call (.discard tx) go, context⟩)
    (hstage : job.course.IsOn tx) :
    Secures (S.recorded h (.call id) (answeredSystem h id context (.discard tx) go))
      (s.afterCall (.discard tx)) first := by
  have htx : job.course.stage.ticket? = some tx := by
    rcases hstage with hopened | hdiscarded
    · rw [hopened]
      rfl
    · rw [hdiscarded]
      rfl
  refine hs.end hf hjob htx htask (by simp) ?_ ?_
  · rw [courseAfterCall_some htask rfl]
    rfl
  · cases hlive : s.live.find? tx.id with
    | some tx' =>
      have hguarded := Store.guarded_discard hs.guarded hlive (fun _ _ hw => hw.isOpen)
        fun cell => hs.not_waits hf hjob htx htask (by simp) cell
      exact hguarded.mono (fun _ hopen => ⟨hopen.1, fun _ => hopen.2⟩) fun _ _ hw => hw
    | none =>
      -- A transaction that is open is live, so this one was discarded before.
      have hnot : job.course.stage ≠ .opened tx := by
        intro hopened
        obtain ⟨b, tx', -, hback, -⟩ := (hf.fits hjob).spans.end hopened hf.committed
        exact absurd (hlive.symm.trans hback.live) (by simp)
      show (s.discard tx.id).locks.Guarded _ _
      rw [Store.discard_of_not_live hlive]
      exact hs.guarded.mono (fun _ hopen => ⟨hopen, fun hopened => absurd hopened hnot⟩)
        fun _ _ hw => hw

/-- Every call of a job keeps the locks guarded. -/
theorem Secures.call (hs : Secures h s first) (hf : S.AllFit h s) (hjob : h.jobs[id]? = some job)
    (htask : h.system.tasks.find? id = some ⟨.call c go, context⟩)
    (hallows : Discipline.Allows ⟨S.store, P⟩ job.course c) :
    Secures (S.recorded h (.call id) (answeredSystem h id context c go)) (s.afterCall c) first := by
  cases c with
  | begin store =>
    obtain rfl : store = S.store := hallows.1
    exact hs.begin hf hjob htask hallows.2
  | ask tx request => exact hs.ask hf hjob htask hallows
  | commit tx => exact hs.commit hf hjob htask hallows.1
  | discard tx => exact hs.discard hf hjob htask hallows
  | _ => exact hs.quiet hf hjob htask rfl (fun _ => rfl) (by simp)

end Calls

/-- A move of a job that keeps its course keeps the locks guarded if it waits for the same locks as
before or has withdrawn its request. -/
theorem Secures.same_course (hs : Secures h s first) (hjob : h.jobs[id]? = some job)
    {move : Move ι} {system : System ρ} (hjobs : (jobsAfter h move).1 =
      h.jobs.modify id fun job => job.move h.now job.course)
    (htasks : ∀ id', id' ≠ id → system.tasks.find? id' = h.system.tasks.find? id')
    (hnext : s.nextId ≤ s'.nextId)
    (hguarded : s'.locks.Guarded (IsOpen h first)
      (fun number cell => Waits h first number cell ∧ ∀ tx, job.course.stage = .opened tx →
        tx.id = number → Waits (S.recorded h move system) first number cell)) :
    Secures (S.recorded h move system) s' first := by
  have hself : (S.recorded h move system).jobs[id]? = some (job.move h.now job.course) := by
    show (jobsAfter h move).1[id]? = _
    rw [hjobs]
    exact getElem?_modify_self hjob _
  have hothers : ∀ id', id' ≠ id → (S.recorded h move system).jobs[id']? = h.jobs[id']? := by
    intro id' hid
    show (jobsAfter h move).1[id']? = _
    rw [hjobs]
    exact List.getElem?_modify_ne _ _ (Ne.symm hid)
  -- The course moves on in time only.
  refine hs.moved hjob hself hothers htasks hnext (fun tx htx => .inl htx) ?_
  exact hguarded.mono (fun _ hopen => ⟨hopen, fun _ hopened _ => hopened⟩) fun _ _ hw => hw

/-- A job whose waiting ends withdraws its request. -/
theorem Secures.expire (hs : Secures h s first) (hf : S.AllFit h s)
    (hjob : h.jobs[id]? = some job) {task : Task ρ}
    (htask : h.system.tasks.find? id = some task)
    (hallows : ∀ tx request go, task.program = .call (.ask tx request) go →
      job.course.stage = .opened tx) {system : System ρ}
    (hsystem : system = ⟨(h.system.world.expire task.context task.program).1,
      h.system.tasks.insert id ⟨(h.system.world.expire task.context task.program).2.2,
        (h.system.world.expire task.context task.program).2.1⟩⟩)
    (hstore : system.world.store? S.store = some s') :
    Secures (S.recorded h (.expire id) system) s' first := by
  subst hsystem
  have hothers : ∀ id', id' ≠ id → (h.system.tasks.insert id
      ⟨(h.system.world.expire task.context task.program).2.2,
        (h.system.world.expire task.context task.program).2.1⟩).find? id' =
      h.system.tasks.find? id' := fun id' hid => SortedMap.find?_insert_of_ne _ _ hid
  rcases h.system.world.expire_cases task.context task.program with ⟨hworld, hprogram⟩ |
    ⟨tx, request, go, cell, fault, hprogram, hlock, hworld, hgo⟩
  · -- Nothing happens, and the program waits for what it waited for.
    rw [hworld] at hstore
    obtain rfl : s' = s := Option.some.inj (hstore.symm.trans hf.store)
    refine hs.same_course hjob rfl hothers (Nat.le_refl _) ?_
    refine hs.guarded.mono (fun _ hopen => hopen) fun number cell hw => ⟨hw, ?_⟩
    intro tx hopened hnumber
    have htx := Stage.ticket?_of_opened hopened
    obtain ⟨-, task', request, go, htask', hwaiting, hlock⟩ :=
      hs.waits_own hf hjob htx (hnumber ▸ hw)
    obtain rfl := Option.some.inj (htask.symm.trans htask')
    exact .inr ⟨id, _, tx, _, request, go, getElem?_modify_self hjob _, hopened, hnumber,
      SortedMap.find?_insert_self .., hprogram.trans hwaiting, hlock⟩
  · have hstage := hallows tx request go hprogram
    have htx := Stage.ticket?_of_opened hstage
    have hon := ((hf.fits hjob).ticket tx htx).1
    have hwithdraw := World.store?_withSite hf.store tx.store fun s => s.withdraw tx.id request
    rw [if_pos hon, ← hworld] at hwithdraw
    obtain rfl : s' = s.withdraw tx.id request := Option.some.inj (hstore.symm.trans hwithdraw)
    have hbefore := (h.program?_eq htask).trans (congrArg some hprogram)
    have honly : ∀ cell', Waits h first tx.id cell' → request.lock? = some cell' :=
      fun cell' hw => (asks_iff hbefore).1 (hs.asks hf hjob htx hw)
    have hnext := Nat.le_of_eq (s.nextId_withdraw tx.id request).symm
    have hguarded := Store.guarded_withdraw hs.guarded request honly
    refine hs.same_course hjob rfl hothers hnext ?_
    refine hguarded.mono (fun _ hopen => hopen) fun number cell hw => ⟨hw.1, ?_⟩
    intro tx' hopened hnumber
    obtain rfl := Stage.opened.inj (hopened.symm.trans hstage)
    exact absurd hnumber.symm hw.2

/-- What is left of the locks when the request of a dropped job is withdrawn: its transaction waits
for nothing. -/
theorem Secures.withdraw (hs : Secures h s first) (hf : S.AllFit h s)
    (hjob : h.jobs[id]? = some job) {task : Task ρ}
    (htask : h.system.tasks.find? id = some task) {tx : Ticket}
    (hstage : job.course.stage = .opened tx)
    (hallows : ∀ tx' request go, task.program = .call (.ask tx' request) go →
      job.course.stage = .opened tx') :
    ∃ s' : Store, (h.system.world.withdraw task.program).store? S.store = some s' ∧
      s'.live = s.live ∧ s'.nextId = s.nextId ∧ s'.locks.Guarded (IsOpen h first)
        fun number cell => Waits h first number cell ∧ number ≠ tx.id := by
  have htx := Stage.ticket?_of_opened hstage
  unfold World.withdraw
  split
  -- The wait that is given up is one for the transaction of this task.
  · rename_i tx' request go hprogram
    obtain rfl := Stage.opened.inj (hstage.symm.trans (hallows tx' request go hprogram))
    have hwithdraw := World.store?_withSite hf.store tx.store fun s => s.withdraw tx.id request
    rw [if_pos ((hf.fits hjob).ticket tx htx).1] at hwithdraw
    refine ⟨_, hwithdraw, s.live_withdraw tx.id request, s.nextId_withdraw tx.id request,
      Store.guarded_withdraw hs.guarded request fun cell hw => ?_⟩
    have hbefore := (h.program?_eq htask).trans (congrArg some hprogram)
    exact (asks_iff hbefore).1 (hs.asks hf hjob htx hw)
  · rename_i hnot
    refine ⟨s, hf.store, rfl, rfl, hs.guarded.mono (fun _ hopen => hopen) fun number cell hw =>
      ⟨hw, ?_⟩⟩
    -- Another call than a request that locks: then the task waits for nothing that could be left
    -- over.
    rintro rfl
    obtain ⟨-, task', request, go, htask', hwaiting, -⟩ := hs.waits_own hf hjob htx hw
    obtain rfl := Option.some.inj (htask.symm.trans htask')
    exact hnot _ _ _ hwaiting

/-- A job that is dropped withdraws its request and lets go of all its locks. -/
theorem Secures.abandon (hs : Secures h s first) (hf : S.AllFit h s)
    (hjob : h.jobs[id]? = some job) {task : Task ρ}
    (htask : h.system.tasks.find? id = some task)
    (hallows : ∀ tx request go, task.program = .call (.ask tx request) go →
      job.course.stage = .opened tx) {system : System ρ}
    (hsystem : system = ⟨h.system.world.abandon task.context task.program,
      h.system.tasks.erase id⟩)
    (hstore : system.world.store? S.store = some s') :
    Secures (S.recorded h (.abandon id) system) s' first := by
  subst hsystem
  have htickets := (hf.fits hjob).tickets task htask
  have hjobs : (S.recorded h (.abandon id) ⟨h.system.world.abandon task.context task.program,
      h.system.tasks.erase id⟩).jobs[id]? = some (job.move h.now job.course.drop) :=
    getElem?_modify_self hjob _
  have hothers : ∀ id', id' ≠ id → (h.jobs.modify id fun job =>
      job.move h.now job.course.drop)[id']? = h.jobs[id']? :=
    fun id' hid => List.getElem?_modify_ne _ _ (Ne.symm hid)
  have htasks : ∀ id', id' ≠ id → (h.system.tasks.erase id).find? id' =
      h.system.tasks.find? id' := fun id' hid => SortedMap.find?_erase_of_ne _ hid
  have hticket : ∀ tx, job.course.drop.stage.ticket? = some tx →
      job.course.stage.ticket? = some tx ∨ s.nextId ≤ tx.id := by
    intro tx htx
    exact .inl ((ticket?_drop job.course).symm.trans htx)
  cases hopen : job.course.stage.open? with
  | some tx =>
    have hstage := Stage.opened_of_open? hopen
    have htx := ticket?_of_open? hopen
    -- The request is withdrawn first; then the transaction, which is live, is discarded.
    obtain ⟨s₁, hs₁, hlive, hnext, hguarded⟩ := hs.withdraw hf hjob htask hstage hallows
    obtain ⟨b, tx', -, hback, -⟩ := (hf.fits hjob).spans.end hstage hf.committed
    rw [hopen] at htickets
    have hall := World.store?_abandon_of_withdraw hs₁ task.context fun tx' htx' => by
      rw [htickets] at htx'
      rw [List.mem_singleton.1 htx']
      exact ((hf.fits hjob).ticket tx htx).1
    rw [htickets] at hall
    obtain rfl : s' = s₁.discard tx.id := Option.some.inj (hstore.symm.trans hall)
    have hnumbers : s.nextId ≤ (s₁.discard tx.id).nextId :=
      Nat.le_of_eq (hnext.symm.trans (Store.nextId_discard s₁ tx.id).symm)
    have hdiscarded := Store.guarded_discard hguarded (hlive ▸ hback.live)
      (fun _ _ hw => hw.1.isOpen) fun cell hw => hw.2 rfl
    refine hs.moved hjob hjobs hothers htasks hnumbers hticket (hdiscarded.mono ?_ ?_)
    · intro number hnumber
      refine ⟨hnumber.1, fun tx' hopened hid => ?_⟩
      obtain rfl := Stage.opened.inj (hopened.symm.trans hstage)
      exact absurd hid.symm hnumber.2
    · intro number cell hw
      refine ⟨hw.1, fun tx' hopened hid => ?_⟩
      obtain rfl := Stage.opened.inj (hopened.symm.trans hstage)
      exact absurd hid.symm hw.2
  | none =>
    have hnot : ∀ tx, job.course.stage ≠ .opened tx := by
      intro tx hopened
      rw [hopened] at hopen
      exact absurd hopen (by simp [Stage.open?])
    -- A job without an open transaction makes no request, so nothing happens to the store.
    have hsame : h.system.world.withdraw task.program = h.system.world := by
      unfold World.withdraw
      split
      · rename_i tx request go hprogram
        exact absurd (hallows tx request go hprogram) (hnot tx)
      · rfl
    have hall := World.store?_abandon_of_withdraw
      ((congrArg (World.store? · S.store) hsame).trans hf.store) task.context fun tx' htx' => by
        rw [htickets, hopen] at htx'
        exact absurd htx' (by simp)
    rw [htickets, hopen] at hall
    obtain rfl : s' = s := Option.some.inj (hstore.symm.trans hall)
    exact hs.moved hjob hjobs hothers htasks (Nat.le_refl _) hticket
      (guarded_of_not_opened hs.guarded hnot)

/-- A move that changes neither the jobs nor the programs nor the store. -/
theorem Secures.same (hs : Secures h s first) {move : Move ι} {system : System ρ}
    (hjobs : ∀ {id : TaskId} {job : Job ι}, h.jobs[id]? = some job →
      (jobsAfter h move).1[id]? = some job)
    (hback : ∀ {id : TaskId} {job : Job ι}, (jobsAfter h move).1[id]? = some job →
      h.jobs[id]? = some job ∨ job.course.stage = .fresh)
    (htasks : ∀ {id task}, h.system.tasks.find? id = some task →
      ∃ task', system.tasks.find? id = some task' ∧ task'.program = task.program) :
    Secures (S.recorded h move system) s first where
  guarded := by
    -- The same transactions are open and the same programs are waited with; only new jobs come in.
    refine hs.guarded.mono (fun number hopen => ?_) fun number cell hw => ?_
    · rcases hopen with hold | ⟨id, job, tx, hjob, hstage, hid⟩
      · exact .inl hold
      · exact .inr ⟨id, job, tx, hjobs hjob, hstage, hid⟩
    · rcases hw with hold | ⟨id, job, tx, task, request, go, hjob, hstage, hid, htask, hprogram,
        hlock⟩
      · exact .inl hold
      · obtain ⟨task', htask', hsame⟩ := htasks htask
        exact .inr ⟨id, job, tx, task', request, go, hjobs hjob, hstage, hid, htask',
          hsame.trans hprogram, hlock⟩
  numbered := by
    intro id job tx hjob htx
    rcases hback hjob with hold | hfresh
    · exact hs.numbered hold htx
    · rw [hfresh] at htx
      exact absurd htx (by simp [Stage.ticket?])
  first_le := hs.first_le

/-- Every move keeps the locks guarded. -/
theorem Secures.after (hs : Secures h s first) (hS : S.IsDisciplined) (hfollow : S.AllFollow h)
    (hf : S.AllFit h s) {move : Move ι}
    (hstore : (S.after h move).system.world.store? S.store = some s') :
    Secures (S.after h move) s' first := by
  have hjobs : ∀ {id task}, h.system.tasks.find? id = some task →
      ∃ job, h.jobs[id]? = some job := fun htask =>
    ⟨_, List.getElem?_eq_getElem (hfollow.known htask)⟩
  unfold Setting.after at hstore ⊢
  split
  · rename_i system hstep
    rw [hstep] at hstore
    change system.world.store? S.store = some s' at hstore
    cases move with
    -- A new job has no transaction and no request.
    | start what isCancelled trigger =>
      obtain ⟨hnew, rfl⟩ := System.step_start hstep
      obtain rfl : s' = s := Option.some.inj (hstore.symm.trans hf.store)
      refine hs.same (fun {id job} hjob => ?_) (fun {id job} hjob => ?_) fun {id task} htask => ?_
      · have hlt : id < h.jobs.length := (List.getElem?_eq_some_iff.1 hjob).1
        exact (List.getElem?_append_left hlt).trans hjob
      · rcases getElem?_concat_cases hjob with ⟨-, rfl⟩ | ⟨-, hold⟩
        · exact .inr rfl
        · exact .inl hold
      · have hne : id ≠ h.jobs.length := by
          rintro rfl
          exact absurd (hnew.symm.trans htask) (by simp)
        exact ⟨task, (SortedMap.find?_insert_of_ne _ _ hne).trans htask, rfl⟩
    -- A task calls only what its place in its course allows.
    | call id =>
      obtain ⟨context, c, go, htask, rfl⟩ := System.step_call hstep
      obtain ⟨job, hjob⟩ := hjobs htask
      obtain ⟨P, hallowed⟩ := hS.allows hfollow hjob htask rfl
      have hcall := hf.call hjob htask hallowed
      obtain rfl : s' = s.afterCall c := Option.some.inj (hstore.symm.trans hcall.store)
      exact hs.call hf hjob htask hallowed
    | expire id =>
      obtain ⟨task, htask, hsystem⟩ := System.step_expire hstep
      obtain ⟨job, hjob⟩ := hjobs htask
      refine hs.expire hf hjob htask (fun tx request go hprogram => ?_) hsystem hstore
      obtain ⟨P, hallowed⟩ := hS.allows hfollow hjob htask hprogram
      exact hallowed
    | abandon id =>
      obtain ⟨task, htask, hsystem⟩ := System.step_abandon hstep
      obtain ⟨job, hjob⟩ := hjobs htask
      refine hs.abandon hf hjob htask (fun tx request go hprogram => ?_) hsystem hstore
      obtain ⟨P, hallowed⟩ := hS.allows hfollow hjob htask hprogram
      exact hallowed
    | cancel id =>
      obtain ⟨task, htask, rfl⟩ := System.step_cancel hstep
      obtain rfl : s' = s := Option.some.inj (hstore.symm.trans hf.store)
      refine hs.same (fun hjob => hjob) (fun hjob => .inl hjob) fun {id' task'} htask' => ?_
      by_cases hid : id' = id
      · subst hid
        obtain rfl := Option.some.inj (htask.symm.trans htask')
        exact ⟨_, SortedMap.find?_insert_self .., rfl⟩
      · exact ⟨task', (SortedMap.find?_insert_of_ne _ _ hid).trans htask', rfl⟩
    | wait micros =>
      obtain rfl := Option.some.inj hstep
      obtain rfl : s' = s := Option.some.inj (hstore.symm.trans hf.store)
      exact hs.same (fun hjob => hjob) (fun hjob => .inl hjob) fun htask => ⟨_, htask, rfl⟩
    | tick nanos =>
      obtain rfl := Option.some.inj hstep
      obtain rfl : s' = s := Option.some.inj (hstore.symm.trans hf.store)
      exact hs.same (fun hjob => hjob) (fun hjob => .inl hjob) fun htask => ⟨_, htask, rfl⟩
  · rename_i hstep
    rw [hstep] at hstore
    obtain rfl : s' = s := Option.some.inj (hstore.symm.trans hf.store)
    exact hs

/-- The locks of a store are those of transactions that have begun, and holder and queue of each are
all different. -/
def IsSettled (s : Store) : Prop :=
  s.locks.Guarded (· < s.nextId) fun number _ => number < s.nextId

/-- A store in which nothing is locked is settled, whatever it keeps. -/
theorem isSettled_of_locks_eq_empty (h : s.locks = .empty) : IsSettled s := by
  rw [IsSettled, h]
  exact Locks.guarded_empty

/-- **In every run locks are guarded.** -/
theorem secures_run (hS : S.IsDisciplined) {world : World} (hstore : world.store? S.store = some s)
    (hsettled : IsSettled s) (moves : List (Move ι)) :
    ∃ s', S.AllFit (S.run world moves) s' ∧ Secures (S.run world moves) s' s.nextId := by
  induction moves using List.reverseRecOn with
  -- At rest only the numbers given out earlier can hold a lock or wait for one.
  | nil =>
    obtain ⟨s', hf⟩ := fits_run hS hstore ([] : List (Move ι))
    obtain rfl : s' = s := Option.some.inj (hf.store.symm.trans hstore)
    exact ⟨s', hf, hsettled.mono (fun _ hlt => .inl hlt) fun _ _ hlt => .inl hlt,
      fun hjob => absurd hjob (by simp [run, begin]), Nat.le_refl _⟩
  | append_singleton moves move ih =>
    obtain ⟨s₁, hf, hs⟩ := ih
    have hfollow := S.follows_run world moves
    obtain ⟨s', hf'⟩ := hf.after hS hfollow move
    rw [run_concat]
    exact ⟨s', hf', hs.after hS hfollow hf hf'.store⟩

/-- **A job whose transaction is not open holds no lock.** -/
theorem Secures.not_holds (hs : Secures h s first) (hf : S.AllFit h s)
    (hjob : h.jobs[id]? = some job) {tx : Ticket} (htx : job.course.stage.ticket? = some tx)
    (hnot : ∀ tx', job.course.stage ≠ .opened tx') (cell : Cell) :
    s.locks.holds tx.id cell = false := by
  refine hs.guarded.not_holds ?_ cell
  rintro (hold | ⟨id', job', tx', hjob', hstage, hid⟩)
  · exact absurd hold (Nat.not_lt.2 (hs.numbered hjob htx))
  · have htx' := Stage.ticket?_of_opened hstage
    obtain ⟨rfl, rfl, rfl⟩ := hf.eq_of_number hjob htx hjob' htx' hid
    exact hnot tx' hstage

end Setting

end Muster
