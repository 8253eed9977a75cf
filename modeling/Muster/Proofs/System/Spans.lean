import Muster.Proofs.System.History

/-!
# What histories say about transactions

A history tells of each job when its transaction began and when it ended. What the transaction was
answered is borne out by what was committed: as long as the transaction is open the store backs it,
and when it ends the contents of that moment bear out its whole log (`Spans`). Contents change only
at the moments at which a job commits, and then by the changes of that job.

`Fits` adds to this that the moments of a job are its own and in order. All of it holds after every
run that starts with a store at rest (`fits_run`): a move of one program leaves alone what the store
backs for the others, and for the program itself each call is looked at in turn.
-/

namespace Muster

open Transaction (Replays)

namespace Store

variable {s : Store} {id : TransactionId} {snapshot : Contents} {log : List Answered}
  {tx : Transaction}

/-- A call that concerns another transaction, or none, leaves this one as it is. A transaction that
commits has to be backed itself. -/
theorem Backs.afterCall (h : s.Backs id snapshot log tx) (hnext : id < s.nextId) {c : Call}
    (hne : ∀ ticket : Ticket, (∃ request, c = .ask ticket request) ∨ c = .commit ticket ∨
      c = .discard ticket → id ≠ ticket.id)
    (hcommit : ∀ ticket : Ticket, c = .commit ticket →
      ∃ snapshot' log' tx', s.Backs ticket.id snapshot' log' tx') :
    (s.afterCall c).Backs id snapshot log tx := by
  cases c with
  | begin store => exact h.begin (Nat.ne_of_lt hnext)
  | ask ticket request => exact h.ask_of_ne (hne ticket (.inl ⟨request, rfl⟩)) request
  | commit ticket =>
    obtain ⟨snapshot', log', tx', h'⟩ := hcommit ticket rfl
    exact h.commit h' (hne ticket (.inr (.inl rfl)))
  | discard ticket => exact h.discard (hne ticket (.inr (.inr rfl)))
  | _ => exact h

/-- Transactions are numbered on and on. -/
theorem nextId_afterCall (s : Store) (c : Call) : s.nextId ≤ (s.afterCall c).nextId := by
  cases c with
  | begin store => exact Nat.le_succ _
  | ask ticket request => exact Nat.le_of_eq (s.nextId_ask ticket.id request).symm
  | commit ticket => exact Nat.le_of_eq (s.nextId_commit ticket.id).symm
  | discard ticket => exact Nat.le_of_eq (s.nextId_discard ticket.id).symm
  | _ => exact Nat.le_refl _

/-- No call but a commit changes what is committed. -/
theorem committed_afterCall (s : Store) {c : Call} (h : ∀ ticket, c ≠ .commit ticket) :
    (s.afterCall c).committed = s.committed := by
  cases c with
  | commit ticket => exact absurd rfl (h ticket)
  | ask ticket request => exact s.committed_ask ticket.id request
  | discard ticket => exact s.committed_discard ticket.id
  | _ => rfl

/-- A live transaction is borne out still when another one stops waiting. -/
theorem Backs.afterWaiting (h : s.Backs id snapshot log tx)
    (waiting : Option (Ticket × Request)) : (s.afterWaiting waiting).Backs id snapshot log tx := by
  cases waiting with
  | none => exact h
  | some w => exact h.withdraw w.1.id w.2

/-- A waiting that ends does not change what is committed. -/
theorem committed_afterWaiting (s : Store) (waiting : Option (Ticket × Request)) :
    (s.afterWaiting waiting).committed = s.committed := by
  cases waiting with
  | none => rfl
  | some w => exact s.committed_withdraw w.1.id w.2

/-- A waiting that ends does not change the next number. -/
theorem nextId_afterWaiting (s : Store) (waiting : Option (Ticket × Request)) :
    (s.afterWaiting waiting).nextId = s.nextId := by
  cases waiting with
  | none => rfl
  | some w => exact s.nextId_withdraw w.1.id w.2

end Store

namespace Setting

variable {ι ρ : Type} {S : Setting ι ρ} {h : History ι ρ} {s s' : Store} {id : TaskId}
  {job : Job ι} {move : Move ι} {system : System ρ}

/-- The transaction of a job is backed as long as it is open, and borne out by what was committed
when it ended. -/
def Spans (h : History ι ρ) (s : Store) (job : Job ι) : Prop :=
  match job.course.stage with
  | .fresh => job.began = none ∧ job.ended = none ∧ job.course.requests = []
  | .opened ticket => ∃ b tx, job.began = some b ∧ job.ended = none ∧ b < h.now ∧
      s.Backs ticket.id (h.past b) job.course.requests tx
  | .discarded _ => ∃ b e tx, job.began = some b ∧ job.ended = some e ∧ b < e ∧ e < h.now ∧
      Replays (h.past e) (.begin (h.past b)) job.course.requests tx ∧ h.past (e + 1) = h.past e
  | .committed _ => ∃ b e tx, job.began = some b ∧ job.ended = some e ∧ b < e ∧ e < h.now ∧
      Replays (h.past e) (.begin (h.past b)) job.course.requests tx ∧
      h.past (e + 1) = (h.past e).apply tx.changes

/-- The moments of a job are its own and in order, the store bears out what it was told, and its
ticket is what its task holds. -/
structure Fits (S : Setting ι ρ) (h : History ι ρ) (s : Store) (id : TaskId) (job : Job ι) :
    Prop where
  /-- A job has moved since it started, and the history knows it. -/
  started : job.started ≤ job.last ∧ job.last < h.now ∧ h.who job.started = some id
  /-- Its transaction began after it had started. -/
  began : ∀ b, job.began = some b → job.started < b ∧ b ≤ job.last ∧ h.who b = some id
  /-- Its transaction ended when it moved. -/
  ended : ∀ e, job.ended = some e → e ≤ job.last ∧ h.who e = some id
  /-- Its transaction is borne out. -/
  spans : Spans h s job
  /-- Its transaction is one of the store. -/
  ticket : ∀ tx, job.course.stage.ticket? = some tx → tx.store = S.store ∧ tx.id < s.nextId
  /-- Its task holds the ticket of a transaction that is open, and no other. -/
  tickets : ∀ task, h.system.tasks.find? id = some task →
    task.context.tickets = job.course.stage.open?.toList

/-- All jobs fit, no two of them share a transaction, and contents change only when a job
commits. -/
structure AllFit (S : Setting ι ρ) (h : History ι ρ) (s : Store) : Prop where
  /-- The store is the one of the world. -/
  store : h.system.world.store? S.store = some s
  /-- What is committed now is the last part of the past. -/
  committed : h.past h.now = s.committed
  /-- Each job fits. -/
  fits : ∀ {id job}, h.jobs[id]? = some job → S.Fits h s id job
  /-- No two jobs share a transaction. -/
  distinct : ∀ {id id' : TaskId} {job job' : Job ι} {tx}, h.jobs[id]? = some job →
    h.jobs[id']? = some job' → job.course.stage.ticket? = some tx →
    job'.course.stage.ticket? = some tx → id = id'
  /-- Contents change only when a job commits. -/
  still : ∀ {n}, n < h.now → h.past (n + 1) ≠ h.past n →
    ∃ (id : TaskId) (job : Job ι), h.jobs[id]? = some job ∧ job.ended = some n ∧
      job.course.IsCommitted

/-! ## The past stays as it is -/

/-- What was committed at a moment is not changed by what is recorded later. -/
theorem past_recorded {n : Nat} (hn : n ≤ h.now) : (S.recorded h move system).past n = h.past n :=
  if_pos hn

/-- What is recorded last is what is committed then. -/
theorem past_recorded_now (hstore : system.world.store? S.store = some s') :
    (S.recorded h move system).past (h.now + 1) = s'.committed := by
  show (if h.now + 1 ≤ h.now then h.past (h.now + 1) else S.committed system) = s'.committed
  rw [if_neg (Nat.not_succ_le_self _), Setting.committed, hstore]

/-- Who has moved at a moment is not changed by what is recorded later. -/
theorem who_recorded {n : Nat} (hn : n < h.now) : (S.recorded h move system).who n = h.who n :=
  if_neg (Nat.ne_of_lt hn)

/-- Whoever moves last is recorded last. -/
theorem who_recorded_now (hwho : (jobsAfter h move).2 = some id) :
    (S.recorded h move system).who h.now = some id := by
  show (if h.now = h.now then (jobsAfter h move).2 else h.who h.now) = some id
  rw [if_pos rfl, hwho]

/-- Contents that change have done so before, or change at the move that is made. -/
theorem past_recorded_cases (hstore : system.world.store? S.store = some s')
    (hpast : h.past h.now = s.committed) {n : Nat} (hn : n < h.now + 1)
    (hne : (S.recorded h move system).past (n + 1) ≠ (S.recorded h move system).past n) :
    (n < h.now ∧ h.past (n + 1) ≠ h.past n) ∨ (n = h.now ∧ s'.committed ≠ s.committed) := by
  rcases Nat.lt_succ_iff_lt_or_eq.1 hn with hlt | rfl
  · rw [past_recorded hlt, past_recorded (Nat.le_of_lt hlt)] at hne
    exact .inl ⟨hlt, hne⟩
  · rw [past_recorded_now hstore, past_recorded (Nat.le_refl _), hpast] at hne
    exact .inr ⟨rfl, hne⟩

/-- A transaction stays borne out if the store still backs it. -/
theorem Spans.frame (hspans : Spans h s job)
    (hbacks : ∀ ticket : Ticket, job.course.stage = .opened ticket → ∀ snapshot log tx,
      s.Backs ticket.id snapshot log tx → s'.Backs ticket.id snapshot log tx) :
    Spans (S.recorded h move system) s' job := by
  unfold Spans at hspans ⊢
  have hnow : (S.recorded h move system).now = h.now + 1 := rfl
  -- The moments of the transaction lie behind, and there the longer run reads the same contents.
  split at hspans
  · exact hspans
  · rename_i ticket hstage
    obtain ⟨b, tx, hb, he, hlt, hback⟩ := hspans
    refine ⟨b, tx, hb, he, Nat.lt_succ_of_lt hlt, ?_⟩
    rw [past_recorded (Nat.le_of_lt hlt)]
    exact hbacks ticket hstage _ _ _ hback
  · obtain ⟨b, e, tx, hb, he, hbe, hlt, hreplays, hpast⟩ := hspans
    refine ⟨b, e, tx, hb, he, hbe, Nat.lt_succ_of_lt hlt, ?_, ?_⟩
    · rw [past_recorded (by omega), past_recorded (by omega)]
      exact hreplays
    · rw [past_recorded (Nat.le_of_lt hlt), past_recorded hlt]
      exact hpast
  · obtain ⟨b, e, tx, hb, he, hbe, hlt, hreplays, hpast⟩ := hspans
    refine ⟨b, e, tx, hb, he, hbe, Nat.lt_succ_of_lt hlt, ?_, ?_⟩
    · rw [past_recorded (by omega), past_recorded (by omega)]
      exact hreplays
    · rw [past_recorded (Nat.le_of_lt hlt), past_recorded hlt]
      exact hpast

/-- A job that does not move still fits if the store still backs it and its task keeps its
tickets. -/
theorem Fits.frame (hf : S.Fits h s id job)
    (hbacks : ∀ ticket : Ticket, job.course.stage = .opened ticket → ∀ snapshot log tx,
      s.Backs ticket.id snapshot log tx → s'.Backs ticket.id snapshot log tx)
    (hnext : s.nextId ≤ s'.nextId)
    (htasks : ∀ task', system.tasks.find? id = some task' →
      ∃ task, h.system.tasks.find? id = some task ∧
        task'.context.tickets = task.context.tickets) :
    S.Fits (S.recorded h move system) s' id job where
  -- All these moments were before now, so it is still the same moves that were made there.
  started := by
    obtain ⟨hle, hlt, hwho⟩ := hf.started
    exact ⟨hle, Nat.lt_succ_of_lt hlt, (who_recorded (Nat.lt_of_le_of_lt hle hlt)).trans hwho⟩
  began b hb := by
    obtain ⟨hlt, hle, hwho⟩ := hf.began b hb
    exact ⟨hlt, hle, (who_recorded (Nat.lt_of_le_of_lt hle hf.started.2.1)).trans hwho⟩
  ended e he := by
    obtain ⟨hle, hwho⟩ := hf.ended e he
    exact ⟨hle, (who_recorded (Nat.lt_of_le_of_lt hle hf.started.2.1)).trans hwho⟩
  spans := hf.spans.frame hbacks
  ticket tx htx := by
    obtain ⟨hstore, hlt⟩ := hf.ticket tx htx
    exact ⟨hstore, Nat.lt_of_lt_of_le hlt hnext⟩
  tickets task' htask' := by
    obtain ⟨task, htask, hsame⟩ := htasks task' htask'
    rw [hsame]
    exact hf.tickets task htask

/-! ## The job that moves -/

/-- The moments of a job that moves are in order again. -/
theorem Fits.moved (hf : S.Fits h s id job) {k : Course} (hwho : (jobsAfter h move).2 = some id)
    (hspans : Spans (S.recorded h move system) s' (job.move h.now k))
    (hticket : ∀ tx, k.stage.ticket? = some tx → tx.store = S.store ∧ tx.id < s'.nextId)
    (htickets : ∀ task, system.tasks.find? id = some task →
      task.context.tickets = k.stage.open?.toList) :
    S.Fits (S.recorded h move system) s' id (job.move h.now k) where
  started := by
    -- The task is the one that moves now, and this may be the moment at which something begins or
    -- ends.
    obtain ⟨hle, hlt, hstarted⟩ := hf.started
    refine ⟨Nat.le_of_lt (Nat.lt_of_le_of_lt hle hlt), Nat.lt_succ_self _, ?_⟩
    exact (who_recorded (Nat.lt_of_le_of_lt hle hlt)).trans hstarted
  began b hb := by
    -- What had begun keeps its moment; what begins, begins now.
    rcases Option.or_eq_some_iff.1 hb with hb | ⟨-, hb⟩
    · obtain ⟨hlt, hle, hbegan⟩ := hf.began b hb
      have hnow := Nat.lt_of_le_of_lt hle hf.started.2.1
      exact ⟨hlt, Nat.le_of_lt hnow, (who_recorded hnow).trans hbegan⟩
    · split at hb
      · obtain rfl := Option.some.inj hb
        exact ⟨Nat.lt_of_le_of_lt hf.started.1 hf.started.2.1, Nat.le_refl _, who_recorded_now hwho⟩
      · exact absurd hb (by simp)
  ended e he := by
    rcases Option.or_eq_some_iff.1 he with he | ⟨-, he⟩
    · obtain ⟨hle, hended⟩ := hf.ended e he
      have hnow := Nat.lt_of_le_of_lt hle hf.started.2.1
      exact ⟨Nat.le_of_lt hnow, (who_recorded hnow).trans hended⟩
    · split at he
      · obtain rfl := Option.some.inj he
        exact ⟨Nat.le_refl _, who_recorded_now hwho⟩
      · exact absurd he (by simp)
  spans := hspans
  ticket := hticket
  tickets := htickets

/-- A move that does not change the stage of a job does not change its moments either. -/
theorem Spans.move_eq (hspans : Spans h s job) {k : Course}
    (hstage : k.stage = job.course.stage) :
    job.move h.now k = { job with course := k, last := h.now } := by
  unfold Spans at hspans
  unfold Job.move
  rw [hstage]
  -- At every stage the moments that could be set now either are set or are not due.
  split at hspans
  · rename_i hfresh
    rw [hfresh, hspans.1, hspans.2.1]
    rfl
  · rename_i hopened
    obtain ⟨b, tx, hb, he, -⟩ := hspans
    rw [hopened, hb, he]
    rfl
  · obtain ⟨b, e, tx, hb, he, -⟩ := hspans
    rw [hb, he]
    rfl
  · obtain ⟨b, e, tx, hb, he, -⟩ := hspans
    rw [hb, he]
    rfl

/-- What an answered request adds to the log of its transaction. -/
theorem Spans.ask (hspans : Spans h s job) {ticket : Ticket} {request : Request}
    {reply : request.Reply} {k : Course} (hstage : job.course.stage = .opened ticket)
    (hsame : k.stage = job.course.stage)
    (hrequests : k.requests = ⟨request, reply⟩ :: job.course.requests)
    (hreply : (s.ask ticket.id request).2 = some reply) :
    Spans (S.recorded h move system) (s.ask ticket.id request).1 (job.move h.now k) := by
  rw [hspans.move_eq hsame]
  unfold Spans at hspans ⊢
  rw [hstage] at hspans
  dsimp only
  rw [hsame, hstage, hrequests]
  obtain ⟨b, tx, hb, he, hlt, hback⟩ := hspans
  -- The same buffer as the store's, with one request more.
  refine ⟨b, (tx.perform s.committed request).1, hb, he, Nat.lt_succ_of_lt hlt, ?_⟩
  rw [past_recorded (Nat.le_of_lt hlt)]
  exact hback.ask hreply

/-- A transaction that begins is backed by an empty log. -/
theorem Spans.begin (hspans : Spans h s job) (hstage : job.course.stage = .fresh)
    (hpast : h.past h.now = s.committed) (store : String) :
    Spans (S.recorded h move system) s.begin.2
      (job.move h.now { job.course with stage := .opened ⟨store, s.nextId⟩ }) := by
  unfold Spans at hspans
  rw [hstage] at hspans
  obtain ⟨hb, he, hrequests⟩ := hspans
  -- The moment at which it begins is now, since nothing had begun before.
  have hmove : job.move h.now { job.course with stage := .opened ⟨store, s.nextId⟩ } =
      { job with
        course := { job.course with stage := .opened ⟨store, s.nextId⟩ }
        began := some h.now, last := h.now } := by
    unfold Job.move
    rw [hb, he]
    rfl
  rw [hmove]
  refine ⟨h.now, .begin s.committed, rfl, he, Nat.lt_succ_self _, ?_⟩
  -- The snapshot is what is committed now.
  rw [past_recorded (Nat.le_refl _), hpast, hrequests]
  exact s.backs_begin

/-- The job of an open transaction that ends, with or without its changes. -/
theorem Spans.end (hspans : Spans h s job) {ticket : Ticket}
    (hstage : job.course.stage = .opened ticket) (hpast : h.past h.now = s.committed) :
    ∃ b tx, b < h.now ∧ s.Backs ticket.id (h.past b) job.course.requests tx ∧
      Replays (h.past h.now) (.begin (h.past b)) job.course.requests tx ∧
      ∀ k : Course, k.stage.hasEnded = true → k.stage.hasBegun = true →
        (job.move h.now k).began = some b ∧ (job.move h.now k).ended = some h.now := by
  unfold Spans at hspans
  rw [hstage] at hspans
  obtain ⟨b, tx, hb, he, hlt, hback⟩ := hspans
  refine ⟨b, tx, hlt, hback, ?_, fun k hended hbegun => ?_⟩
  · rw [hpast]
    exact hback.replays
  · unfold Job.move
    rw [hb, he, hended]
    exact ⟨rfl, rfl⟩

/-- A transaction that is discarded was borne out by what was committed. -/
theorem Spans.discard (hspans : Spans h s job) {ticket : Ticket}
    (hstage : job.course.stage = .opened ticket) (hpast : h.past h.now = s.committed)
    (hstore : system.world.store? S.store = some s') (hsame : s'.committed = s.committed) :
    Spans (S.recorded h move system) s'
      (job.move h.now { job.course with stage := .discarded ticket }) := by
  obtain ⟨b, tx, hlt, -, hreplays, hmove⟩ := hspans.end hstage hpast
  obtain ⟨hb, he⟩ := hmove { job.course with stage := .discarded ticket } rfl rfl
  refine ⟨b, h.now, tx, hb, he, hlt, Nat.lt_succ_self _, ?_, ?_⟩
  · rw [past_recorded (Nat.le_refl _), past_recorded (Nat.le_of_lt hlt)]
    exact hreplays
  · rw [past_recorded (Nat.le_refl _), past_recorded_now hstore, hpast, hsame]

/-- A transaction that is committed was borne out by what was committed, and adds its changes. -/
theorem Spans.commit (hspans : Spans h s job) {ticket : Ticket}
    (hstage : job.course.stage = .opened ticket) (hpast : h.past h.now = s.committed)
    (hstore : system.world.store? S.store = some (s.commit ticket.id)) :
    Spans (S.recorded h move system) (s.commit ticket.id)
      (job.move h.now { job.course with stage := .committed ticket }) := by
  obtain ⟨b, tx, hlt, hback, hreplays, hmove⟩ := hspans.end hstage hpast
  obtain ⟨hb, he⟩ := hmove { job.course with stage := .committed ticket } rfl rfl
  refine ⟨b, h.now, tx, hb, he, hlt, Nat.lt_succ_self _, ?_, ?_⟩
  · rw [past_recorded (Nat.le_refl _), past_recorded (Nat.le_of_lt hlt)]
    exact hreplays
  · rw [past_recorded (Nat.le_refl _), past_recorded_now hstore, hpast,
      Store.committed_commit hback.live]

/-- A job that moves without changing its stage and its log stays borne out. -/
theorem Spans.stay (hspans : Spans h s job) {k : Course} (hstage : k.stage = job.course.stage)
    (hrequests : k.requests = job.course.requests)
    (hbacks : ∀ ticket : Ticket, job.course.stage = .opened ticket → ∀ snapshot log tx,
      s.Backs ticket.id snapshot log tx → s'.Backs ticket.id snapshot log tx) :
    Spans (S.recorded h move system) s' (job.move h.now k) := by
  rw [hspans.move_eq hstage]
  have hframe : Spans (S.recorded h move system) s' job := hspans.frame hbacks
  unfold Spans at hframe ⊢
  dsimp only
  rw [hstage, hrequests]
  exact hframe

/-! ## A move -/

/-- Moving one job keeps all of them fitting: the others if the store still backs them, and the one
that moves if it is found to fit. -/
theorem AllFit.modify (hf : S.AllFit h s) {k : Course} (hjob : h.jobs[id]? = some job)
    (hjobs : (jobsAfter h move).1[id]? = some (job.move h.now k))
    (hothers : ∀ id', id' ≠ id → (jobsAfter h move).1[id']? = h.jobs[id']?)
    (htasks : ∀ id', id' ≠ id → system.tasks.find? id' = h.system.tasks.find? id')
    (hstore : system.world.store? S.store = some s') (hnext : s.nextId ≤ s'.nextId)
    (hbacks : ∀ ticket : Ticket, job.course.stage.ticket? ≠ some ticket →
      ticket.store = S.store → ticket.id < s.nextId → ∀ snapshot log tx,
      s.Backs ticket.id snapshot log tx → s'.Backs ticket.id snapshot log tx)
    (hself : S.Fits (S.recorded h move system) s' id (job.move h.now k))
    (hticket : ∀ tx, k.stage.ticket? = some tx →
      job.course.stage.ticket? = some tx ∨ s.nextId ≤ tx.id)
    (hkeep : job.course.IsCommitted → k = job.course)
    (hchange : s'.committed ≠ s.committed →
      (job.move h.now k).ended = some h.now ∧ k.IsCommitted) :
    S.AllFit (S.recorded h move system) s' where
  store := hstore
  committed := past_recorded_now hstore
  fits := by
    intro id' job' hjob'
    by_cases hid : id' = id
    · subst hid
      obtain rfl := Option.some.inj (hjobs.symm.trans hjob')
      exact hself
    · have hjob'' : h.jobs[id']? = some job' := (hothers id' hid).symm.trans hjob'
      refine (hf.fits hjob'').frame (fun ticket hstage => ?_) hnext fun task' htask' => ?_
      · have hopened := Stage.ticket?_of_opened hstage
        obtain ⟨hon, hlt⟩ := (hf.fits hjob'').ticket ticket hopened
        refine hbacks ticket (fun hsame => ?_) hon hlt
        exact hid (hf.distinct hjob'' hjob hopened hsame)
      · exact ⟨task', (htasks id' hid).symm.trans htask', rfl⟩
  distinct := by
    -- A ticket of the job that moves is its old one or newer than all others.
    have hmine : ∀ {id' : TaskId} {job' : Job ι} {tx : Ticket}, id' ≠ id →
        h.jobs[id']? = some job' → job'.course.stage.ticket? = some tx →
        k.stage.ticket? ≠ some tx := by
      intro id' job' tx hid hjob' htx hk
      rcases hticket tx hk with hold | hnew
      · exact hid (hf.distinct hjob' hjob htx hold)
      · exact Nat.not_lt.2 hnew ((hf.fits hjob').ticket tx htx).2
    -- Two jobs of which neither moves, one moves, or both are the one that moves.
    intro i j jobi jobj tx hi hj hti htj
    change (jobsAfter h move).1[i]? = some jobi at hi
    change (jobsAfter h move).1[j]? = some jobj at hj
    by_cases hid : i = id
    · by_cases hjd : j = id
      · exact hid.trans hjd.symm
      · subst hid
        obtain rfl := Option.some.inj (hjobs.symm.trans hi)
        rw [hothers j hjd] at hj
        exact absurd hti (hmine hjd hj htj)
    · rw [hothers i hid] at hi
      by_cases hjd : j = id
      · subst hjd
        obtain rfl := Option.some.inj (hjobs.symm.trans hj)
        exact absurd htj (hmine hid hi hti)
      · rw [hothers j hjd] at hj
        exact hf.distinct hi hj hti htj
  still := by
    intro n hn hpast
    rcases past_recorded_cases hstore hf.committed hn hpast with ⟨hlt, hold⟩ | ⟨rfl, hne⟩
    · obtain ⟨id', job', hjob', hended, hcommitted⟩ := hf.still hlt hold
      by_cases hid : id' = id
      · subst hid
        -- The job that moves had ended before, so the move changes neither its end nor its course.
        obtain rfl := Option.some.inj (hjob.symm.trans hjob')
        refine ⟨id', _, hjobs, ?_, ?_⟩
        · show job.ended.or _ = some n
          rw [hended, Option.some_or]
        · show k.IsCommitted
          rw [hkeep hcommitted]
          exact hcommitted
      · exact ⟨id', job', (hothers id' hid).trans hjob', hended, hcommitted⟩
    · obtain ⟨hended, hcommitted⟩ := hchange hne
      exact ⟨id, _, hjobs, hended, hcommitted⟩

/-- Two tickets of one store with the same number are one. -/
theorem ticket_eq {tx tx' : Ticket} (hstore : tx.store = tx'.store) (hid : tx.id = tx'.id) :
    tx = tx' := by
  cases tx with
  | mk store id =>
    obtain rfl : store = tx'.store := hstore
    obtain rfl : id = tx'.id := hid
    rfl

section Calls

variable {context : Context} {c : Call} {go : c.Reply → Program ρ} {P : Course → Prop}

/-- The ticket of a call is that of the job that makes it. -/
theorem ticket_of_allows {d : Discipline} {k : Course} (hallows : d.Allows k c) {ticket : Ticket}
    (hc : (∃ request, c = .ask ticket request) ∨ c = .commit ticket ∨ c = .discard ticket) :
    k.stage.ticket? = some ticket := by
  rcases hc with ⟨request, rfl⟩ | rfl | rfl
  -- Requests and commits need the transaction open; one that has ended may still be let go.
  · have hstage : k.stage = .opened ticket := hallows
    rw [hstage]
    rfl
  · have hstage : k.stage = .opened ticket := hallows.1
    rw [hstage]
    rfl
  · rcases hallows with hstage | hstage
    · rw [hstage]
      rfl
    · rw [hstage]
      rfl

/-- The system after a call of a job is answered. -/
def answeredSystem (h : History ι ρ) (id : TaskId) (context : Context) (c : Call)
    (go : c.Reply → Program ρ) : System ρ :=
  ⟨(h.system.world.perform context c).1,
    h.system.tasks.insert id (System.answered h.system.world context c go)⟩

/-- All jobs fit after a call of one of them, if that one is found to be borne out. -/
theorem AllFit.called (hf : S.AllFit h s) (hjob : h.jobs[id]? = some job)
    (hallows : Discipline.Allows ⟨S.store, P⟩ job.course c) {k : Course}
    (hk : courseAfterCall h.system id job.course = k)
    (hspans : (answeredSystem h id context c go).world.store? S.store = some (s.afterCall c) →
      Spans (S.recorded h (.call id) (answeredSystem h id context c go)) (s.afterCall c)
        (job.move h.now k))
    (hticket : ∀ tx, k.stage.ticket? = some tx → job.course.stage.ticket? = some tx ∨
      tx = ⟨S.store, s.nextId⟩ ∧ s.nextId < (s.afterCall c).nextId)
    (htickets : (h.system.world.perform context c).2.1.tickets = k.stage.open?.toList)
    (hkeep : job.course.IsCommitted → k = job.course)
    (hchange : ∀ ticket, c = .commit ticket →
      (job.move h.now k).ended = some h.now ∧ k.IsCommitted) :
    S.AllFit (S.recorded h (.call id) (answeredSystem h id context c go)) (s.afterCall c) := by
  have hown := (hf.fits hjob).ticket
  -- The call is on the store of the setting, and the store after it is known by that.
  have hon : c.IsOn S.store := by
    cases c with
    | begin store => exact hallows.1
    | ask ticket request =>
      exact (hown ticket (ticket_of_allows hallows (.inl ⟨request, rfl⟩))).1
    | commit ticket => exact (hown ticket (ticket_of_allows hallows (.inr (.inl rfl)))).1
    | discard ticket => exact (hown ticket (ticket_of_allows hallows (.inr (.inr rfl)))).1
    | _ => trivial
  have hstore : (answeredSystem h id context c go).world.store? S.store = some (s.afterCall c) :=
    World.store?_perform hf.store hon
  have hnext := s.nextId_afterCall c
  have hself : S.Fits (S.recorded h (.call id) (answeredSystem h id context c go))
      (s.afterCall c) id (job.move h.now k) := by
    refine (hf.fits hjob).moved rfl (hspans hstore) (fun tx htx => ?_) fun task htask => ?_
    · rcases hticket tx htx with hold | ⟨rfl, hlt⟩
      · obtain ⟨hon, hlt⟩ := hown tx hold
        exact ⟨hon, Nat.lt_of_lt_of_le hlt hnext⟩
      · exact ⟨rfl, hlt⟩
    · obtain rfl := Option.some.inj ((SortedMap.find?_insert_self ..).symm.trans htask)
      exact htickets
  have hjobs : (jobsAfter h (.call id)).1[id]? = some (job.move h.now k) := by
    rw [← hk]
    exact getElem?_modify_self hjob _
  refine hf.modify hjob hjobs (fun id' hid => List.getElem?_modify_ne _ _ (Ne.symm hid))
    (fun id' hid => SortedMap.find?_insert_of_ne _ _ hid) hstore hnext ?_ hself ?_ hkeep ?_
  · -- What the store backs for the other jobs.
    intro ticket hne htstore hlt snapshot log tx hback
    refine hback.afterCall hlt (fun ticket' hc => ?_) fun ticket' hc => ?_
    · intro hids
      have hmine := ticket_of_allows hallows hc
      have hsame : ticket' = ticket := ticket_eq ((hown _ hmine).1.trans htstore.symm) hids.symm
      exact hne (hsame ▸ hmine)
    · subst hc
      have hstage : job.course.stage = .opened ticket' := hallows.1
      obtain ⟨b, tx', -, hback', -⟩ := (hf.fits hjob).spans.end hstage hf.committed
      exact ⟨_, _, tx', hback'⟩
  · intro tx htx
    rcases hticket tx htx with hold | ⟨rfl, -⟩
    · exact .inl hold
    · exact .inr (Nat.le_refl _)
  · intro hne
    by_cases hc : ∃ ticket, c = .commit ticket
    · obtain ⟨ticket, hc⟩ := hc
      exact hchange ticket hc
    · exact absurd (s.committed_afterCall fun ticket hticket => hc ⟨ticket, hticket⟩) hne

/-- A call that neither begins nor ends a transaction and is no request leaves the transaction of
its job as it is. -/
theorem AllFit.quiet (hf : S.AllFit h s) (hjob : h.jobs[id]? = some job)
    (htask : h.system.tasks.find? id = some ⟨.call c go, context⟩)
    (hallows : Discipline.Allows ⟨S.store, P⟩ job.course c)
    (hstore : s.afterCall c = s)
    (htickets : (h.system.world.perform context c).2.1.tickets = context.tickets)
    (hstage : ∀ reply, (job.course.after c reply).stage = job.course.stage)
    (hrequests : ∀ reply, (job.course.after c reply).requests = job.course.requests)
    (hcommit : ∀ ticket, c ≠ .commit ticket) :
    S.AllFit (S.recorded h (.call id) (answeredSystem h id context c go)) (s.afterCall c) := by
  -- Whether or not there is a reply, the stage and the log stay.
  have hsame : (courseAfterCall h.system id job.course).stage = job.course.stage ∧
      (courseAfterCall h.system id job.course).requests = job.course.requests := by
    cases hreply : (h.system.world.perform context c).2.2 with
    | none =>
      rw [courseAfterCall_none htask hreply]
      exact ⟨rfl, rfl⟩
    | some reply =>
      rw [courseAfterCall_some htask hreply]
      exact ⟨hstage reply, hrequests reply⟩
  refine hf.called hjob hallows rfl (fun _ => ?_) (fun tx htx => ?_) ?_ (fun hcommitted => ?_)
    fun ticket hc => absurd hc (hcommit ticket)
  · refine (hf.fits hjob).spans.stay hsame.1 hsame.2 fun _ _ _ _ _ hback => ?_
    rw [hstore]
    exact hback
  · rw [hsame.1] at htx
    exact .inl htx
  · rw [htickets, hsame.1]
    exact (hf.fits hjob).tickets _ htask
  · cases hreply : (h.system.world.perform context c).2.2 with
    | none => exact courseAfterCall_none htask hreply _
    | some reply =>
      rw [courseAfterCall_some htask hreply]
      exact Discipline.after_of_isCommitted hcommitted hallows reply

/-- An open transaction has not committed. -/
theorem not_isCommitted_of_opened {k : Course} {tx : Ticket} (hstage : k.stage = .opened tx) :
    ¬ k.IsCommitted := by
  rintro ⟨tx', hstage'⟩
  exact absurd (hstage.symm.trans hstage') (by simp)

/-- A transaction begins, with a number that no other one has had. -/
theorem AllFit.begin (hf : S.AllFit h s) (hjob : h.jobs[id]? = some job)
    {go : Ticket → Program ρ}
    (htask : h.system.tasks.find? id = some ⟨.call (.begin S.store) go, context⟩)
    (hallows : Discipline.Allows ⟨S.store, P⟩ job.course (.begin S.store)) :
    S.AllFit (S.recorded h (.call id) (answeredSystem h id context (.begin S.store) go))
      (s.afterCall (.begin S.store)) := by
  have hfresh : job.course.stage = .fresh := hallows.2
  have hreply := World.reply_begin hf.store context
  refine hf.called hjob hallows (courseAfterCall_some htask hreply _) (fun _ => ?_)
    (fun tx htx => ?_) ?_ (fun hcommitted => ?_) fun ticket hc => absurd hc (by simp)
  -- Its moments; its number, which is new; its tickets; and it was not committed before.
  · exact (hf.fits hjob).spans.begin hfresh hf.committed S.store
  · exact .inr ⟨(Option.some.inj htx).symm, Nat.lt_succ_self _⟩
  · rw [World.tickets_begin hf.store, (hf.fits hjob).tickets _ htask, hfresh]
    rfl
  · obtain ⟨tx, htx⟩ := hcommitted
    exact absurd (hfresh.symm.trans htx) (by simp)

/-- A request is answered and adds its answer to the log, or it waits. -/
theorem AllFit.ask (hf : S.AllFit h s) (hjob : h.jobs[id]? = some job) {tx : Ticket}
    {request : Request} {go : Except Store.Fault request.Reply → Program ρ}
    (htask : h.system.tasks.find? id = some ⟨.call (.ask tx request) go, context⟩)
    (hallows : Discipline.Allows ⟨S.store, P⟩ job.course (.ask tx request)) :
    S.AllFit (S.recorded h (.call id) (answeredSystem h id context (.ask tx request) go))
      (s.afterCall (.ask tx request)) := by
  have hstage : job.course.stage = .opened tx := hallows
  have hspans := (hf.fits hjob).spans
  have hon : tx.store = S.store :=
    ((hf.fits hjob).ticket tx (ticket_of_allows hallows (.inl ⟨request, rfl⟩))).1
  have hreply := World.reply_ask (hon ▸ hf.store) context request
  have hheld : (h.system.world.perform context (.ask tx request)).2.1.tickets =
      job.course.stage.open?.toList := by
    rw [World.tickets_ask]
    exact (hf.fits hjob).tickets _ htask
  cases hanswer : (s.ask tx.id request).2 with
  | none =>
    rw [hanswer] at hreply
    -- The request waits: the log stays, and the store backs it as before.
    refine hf.called hjob hallows (courseAfterCall_none htask hreply _) (fun _ => ?_)
      (fun tx htx => .inl htx) hheld (fun _ => rfl) fun ticket hc => absurd hc (by simp)
    refine hspans.stay rfl rfl fun ticket hopened _ _ _ hback => ?_
    obtain rfl : tx = ticket := Stage.opened.inj (hstage.symm.trans hopened)
    exact hback.ask_none hanswer
  | some reply =>
    rw [hanswer] at hreply
    -- The request is answered: the store backs the longer log.
    refine hf.called hjob hallows (courseAfterCall_some htask hreply _) (fun _ => ?_)
      (fun tx htx => .inl htx) hheld (fun h => absurd h (not_isCommitted_of_opened hstage))
      fun ticket hc => absurd hc (by simp)
    exact hspans.ask hstage rfl rfl hanswer

/-- A transaction ends with its changes. -/
theorem AllFit.commit (hf : S.AllFit h s) (hjob : h.jobs[id]? = some job) {tx : Ticket}
    {go : Unit → Program ρ}
    (htask : h.system.tasks.find? id = some ⟨.call (.commit tx) go, context⟩)
    (hallows : Discipline.Allows ⟨S.store, P⟩ job.course (.commit tx)) :
    S.AllFit (S.recorded h (.call id) (answeredSystem h id context (.commit tx) go))
      (s.afterCall (.commit tx)) := by
  have hstage : job.course.stage = .opened tx := hallows.1
  have hspans := (hf.fits hjob).spans
  -- The end of a transaction is the move at which its moments are closed.
  obtain ⟨b, -, -, -, -, hmove⟩ := hspans.end hstage hf.committed
  -- Its moments; its ticket, which stays the same; nothing is open; it was not committed; and now
  -- is the move at which what is committed changes.
  refine hf.called hjob hallows (courseAfterCall_some htask rfl _) (fun hstore => ?_)
    (fun tx' htx' => ?_) ?_ (fun h => absurd h (not_isCommitted_of_opened hstage))
    fun _ _ => ⟨(hmove _ rfl rfl).2, tx, rfl⟩
  · exact hspans.commit hstage hf.committed hstore
  · rw [← Option.some.inj htx']
    exact .inl (ticket_of_allows hallows (.inr (.inl rfl)))
  · show context.tickets.erase tx = []
    rw [(hf.fits hjob).tickets _ htask, hstage]
    exact List.erase_cons_head _ _

/-- A transaction ends without its changes, or has done so before. -/
theorem AllFit.discard (hf : S.AllFit h s) (hjob : h.jobs[id]? = some job) {tx : Ticket}
    {go : Unit → Program ρ}
    (htask : h.system.tasks.find? id = some ⟨.call (.discard tx) go, context⟩)
    (hallows : Discipline.Allows ⟨S.store, P⟩ job.course (.discard tx)) :
    S.AllFit (S.recorded h (.call id) (answeredSystem h id context (.discard tx) go))
      (s.afterCall (.discard tx)) := by
  have hspans := (hf.fits hjob).spans
  have htickets := (hf.fits hjob).tickets _ htask
  have hticket : ∀ tx', (Stage.discarded tx).ticket? = some tx' →
      job.course.stage.ticket? = some tx' := by
    intro tx' htx'
    rw [← Option.some.inj htx']
    exact ticket_of_allows hallows (.inr (.inr rfl))
  have hopen : ¬ job.course.IsCommitted := by
    rintro ⟨tx', hstage'⟩
    rcases hallows with hstage | hstage
    · exact absurd (hstage.symm.trans hstage') (by simp)
    · exact absurd (hstage.symm.trans hstage') (by simp)
  refine hf.called hjob hallows (courseAfterCall_some htask rfl _) (fun hstore => ?_)
    (fun tx' htx' => .inl (hticket tx' htx')) ?_ (fun h => absurd h hopen)
    fun ticket hc => absurd hc (by simp)
  · rcases hallows with hstage | hstage
    · -- The transaction is open, or it was discarded before and stays so.
      exact hspans.discard hstage hf.committed hstore (s.committed_discard tx.id)
    · exact hspans.stay hstage.symm rfl fun ticket hopened =>
        absurd (hstage.symm.trans hopened) (by simp)
  · show context.tickets.erase tx = []
    rcases hallows with hstage | hstage
    · rw [htickets, hstage]
      exact List.erase_cons_head _ _
    · rw [htickets, hstage]
      rfl

/-- All jobs fit after a call of one of them. -/
theorem AllFit.call (hf : S.AllFit h s) (hjob : h.jobs[id]? = some job)
    (htask : h.system.tasks.find? id = some ⟨.call c go, context⟩)
    (hallows : Discipline.Allows ⟨S.store, P⟩ job.course c) :
    S.AllFit (S.recorded h (.call id) (answeredSystem h id context c go)) (s.afterCall c) := by
  -- The calls that change the stage have their own lemmas; the rest leaves the store as it is.
  cases c with
  | begin store =>
    obtain rfl : store = S.store := hallows.1
    exact hf.begin hjob htask hallows
  | ask tx request => exact hf.ask hjob htask hallows
  | commit tx => exact hf.commit hjob htask hallows
  | discard tx => exact hf.discard hjob htask hallows
  | _ =>
    exact hf.quiet hjob htask hallows rfl
      (World.tickets_perform _ _ (by simp) (by simp) (by simp)) (fun _ => rfl) (fun _ => rfl)
      (by simp)

end Calls

/-- All jobs fit after the waiting of one of them has ended. -/
theorem AllFit.expire (hf : S.AllFit h s) (hjob : h.jobs[id]? = some job) {task : Task ρ}
    (htask : h.system.tasks.find? id = some task)
    (hsystem : system = ⟨(h.system.world.expire task.context task.program).1,
      h.system.tasks.insert id ⟨(h.system.world.expire task.context task.program).2.2,
        (h.system.world.expire task.context task.program).2.1⟩⟩) :
    ∃ s', S.AllFit (S.recorded h (.expire id) system) s' := by
  subst hsystem
  obtain ⟨waiting, hstore⟩ := World.store?_expire hf.store task.context task.program
  have hfits := hf.fits hjob
  have hnext : s.nextId ≤ (s.afterWaiting waiting).nextId :=
    Nat.le_of_eq (s.nextId_afterWaiting waiting).symm
  have hcommitted := s.committed_afterWaiting waiting
  -- Waiting for nothing changes the locks at most, so the other jobs keep what they had.
  refine ⟨s.afterWaiting waiting, ?_⟩
  refine hf.modify hjob (getElem?_modify_self hjob _)
    (fun id' hid => List.getElem?_modify_ne _ _ (Ne.symm hid))
    (fun id' hid => SortedMap.find?_insert_of_ne _ _ hid) hstore hnext
    (fun _ _ _ _ _ _ _ hback => hback.afterWaiting waiting) ?_ (fun tx htx => .inl htx)
    (fun _ => rfl) fun hne => absurd hcommitted hne
  refine hfits.moved rfl ?_ ?_ ?_
  · exact hfits.spans.stay rfl rfl fun _ _ _ _ _ hback => hback.afterWaiting waiting
  · intro tx htx
    obtain ⟨hon, hlt⟩ := hfits.ticket tx htx
    exact ⟨hon, Nat.lt_of_lt_of_le hlt hnext⟩
  · intro task' htask'
    obtain rfl := Option.some.inj ((SortedMap.find?_insert_self ..).symm.trans htask')
    exact (World.tickets_expire ..).trans (hfits.tickets task htask)

/-- What a dropped course keeps of its transaction. -/
theorem ticket?_drop (k : Course) : k.drop.stage.ticket? = k.stage.ticket? := by
  unfold Course.drop
  split
  · rename_i tx hstage
    rw [hstage]
    rfl
  · rfl

/-- An open transaction is that of the stage. -/
theorem ticket?_of_open? {stage : Stage} {tx : Ticket} (h : stage.open? = some tx) :
    stage.ticket? = some tx :=
  Stage.ticket?_of_opened (Stage.opened_of_open? h)

/-- The transaction of a job that is dropped is discarded if it is open, and stays as it is
otherwise. -/
theorem Spans.drop (hspans : Spans h s job) (hpast : h.past h.now = s.committed)
    (hstore : system.world.store? S.store = some s') (hsame : s'.committed = s.committed) :
    Spans (S.recorded h move system) s' (job.move h.now job.course.drop) := by
  cases hstage : job.course.stage with
  -- Only an open transaction is dropped; at the other stages the course stays as it is.
  | opened tx =>
    have hdrop : job.course.drop = { job.course with stage := .discarded tx } := by
      unfold Course.drop
      rw [hstage]
    rw [hdrop]
    exact hspans.discard hstage hpast hstore hsame
  | _ =>
    have hdrop : job.course.drop = job.course := by
      unfold Course.drop
      rw [hstage]
    rw [hdrop]
    exact hspans.stay rfl rfl fun ticket hopened =>
      absurd (hstage.symm.trans hopened) (by simp)

/-- The store after a job is dropped: the waiting of its task has ended, and its open transaction,
if any, is discarded. What it backs for others it still backs. -/
theorem AllFit.store_abandon (hf : S.AllFit h s) (hjob : h.jobs[id]? = some job) {task : Task ρ}
    (htask : h.system.tasks.find? id = some task) :
    ∃ s' : Store, (h.system.world.abandon task.context task.program).store? S.store = some s' ∧
      s'.committed = s.committed ∧ s'.nextId = s.nextId ∧
      ∀ ticket : Ticket, job.course.stage.ticket? ≠ some ticket → ticket.store = S.store →
        ticket.id < s.nextId → ∀ snapshot log tx,
        s.Backs ticket.id snapshot log tx → s'.Backs ticket.id snapshot log tx := by
  have htickets := (hf.fits hjob).tickets task htask
  have hown := (hf.fits hjob).ticket
  -- The tickets of the task are at most the one of its course, which is on the store.
  have hstores : ∀ tx ∈ task.context.tickets, tx.store = S.store := by
    intro tx htx
    rw [htickets, Option.mem_toList] at htx
    exact (hown tx (ticket?_of_open? htx)).1
  obtain ⟨waiting, hstore⟩ :=
    World.store?_abandon hf.store task.context task.program hstores
  have hcommitted := s.committed_afterWaiting waiting
  have hnext := s.nextId_afterWaiting waiting
  rw [htickets] at hstore
  cases hstage : job.course.stage.open? with
  | none =>
    rw [hstage] at hstore
    exact ⟨_, hstore, hcommitted, hnext, fun _ _ _ _ _ _ _ hback => hback.afterWaiting waiting⟩
  | some mine =>
    rw [hstage] at hstore
    refine ⟨_, hstore, (Store.committed_discard _ _).trans hcommitted,
      (Store.nextId_discard _ _).trans hnext, ?_⟩
    intro ticket hne hon _ snapshot log tx hback
    -- Another transaction on the store has another number.
    refine (hback.afterWaiting waiting).discard fun hids => ?_
    have hmine := ticket?_of_open? hstage
    have hsame : mine = ticket := ticket_eq ((hown _ hmine).1.trans hon.symm) hids.symm
    exact hne (hsame ▸ hmine)

/-- All jobs fit after one of them is dropped. -/
theorem AllFit.abandon (hf : S.AllFit h s) (hjob : h.jobs[id]? = some job) {task : Task ρ}
    (htask : h.system.tasks.find? id = some task)
    (hsystem : system = ⟨h.system.world.abandon task.context task.program,
      h.system.tasks.erase id⟩) :
    ∃ s', S.AllFit (S.recorded h (.abandon id) system) s' := by
  subst hsystem
  obtain ⟨s', hstore, hcommitted, hnext, hbacks⟩ := hf.store_abandon hjob htask
  have hfits := hf.fits hjob
  refine ⟨s', ?_⟩
  refine hf.modify (k := job.course.drop) hjob (getElem?_modify_self hjob _)
    (fun id' hid => List.getElem?_modify_ne _ _ (Ne.symm hid))
    (fun id' hid => SortedMap.find?_erase_of_ne _ hid) hstore (Nat.le_of_eq hnext.symm) hbacks
    ?_ ?_ ?_ fun hne => absurd hcommitted hne
  · refine hfits.moved rfl ?_ ?_ ?_
    · exact hfits.spans.drop hf.committed hstore hcommitted
    · intro tx htx
      rw [ticket?_drop] at htx
      obtain ⟨hon, hlt⟩ := hfits.ticket tx htx
      exact ⟨hon, hnext ▸ hlt⟩
    · intro task' htask'
      exact absurd ((SortedMap.find?_erase_self ..).symm.trans htask') (by simp)
  · intro tx htx
    rw [ticket?_drop] at htx
    exact .inl htx
  · -- A job that has committed has no transaction that is open.
    intro hcommit
    obtain ⟨tx, htx⟩ := hcommit
    unfold Course.drop
    rw [htx]

/-- All jobs fit after a move that changes neither the jobs nor what is committed. -/
theorem AllFit.same (hf : S.AllFit h s) (hjobs : (jobsAfter h move).1 = h.jobs)
    (hstore : system.world.store? S.store = some s)
    (htasks : ∀ id task', system.tasks.find? id = some task' →
      ∃ task, h.system.tasks.find? id = some task ∧
        task'.context.tickets = task.context.tickets) :
    S.AllFit (S.recorded h move system) s where
  store := hstore
  committed := past_recorded_now hstore
  -- No job moves, no store changes; the world may.
  fits := by
    intro id job hjob
    have hjob' : h.jobs[id]? = some job := hjobs ▸ hjob
    exact (hf.fits hjob').frame (fun _ _ _ _ _ hback => hback) (Nat.le_refl _) (htasks id)
  distinct hi hj := hf.distinct (hjobs ▸ hi) (hjobs ▸ hj)
  still := by
    intro n hn hpast
    rcases past_recorded_cases hstore hf.committed hn hpast with ⟨hlt, hold⟩ | ⟨-, hne⟩
    · obtain ⟨id, job, hjob, hended⟩ := hf.still hlt hold
      exact ⟨id, job, (congrArg (·[id]?) hjobs).trans hjob, hended⟩
    · exact absurd rfl hne

/-- All jobs fit after another one is started. -/
theorem AllFit.start (hf : S.AllFit h s) (what : ι) (isCancelled : Bool) (trigger : Trigger) :
    S.AllFit (S.recorded h (.start what isCancelled trigger)
      (h.system.withTask h.jobs.length ⟨S.program what, .start isCancelled trigger⟩)) s where
  store := hf.store
  committed := past_recorded_now hf.store
  fits := by
    intro id job hjob
    rcases getElem?_concat_cases hjob with ⟨rfl, rfl⟩ | ⟨hlt, hold⟩
    · exact {
        started := ⟨Nat.le_refl _, Nat.lt_succ_self _, who_recorded_now rfl⟩
        began := fun b hb => absurd hb (by simp)
        ended := fun e he => absurd he (by simp)
        spans := ⟨rfl, rfl, rfl⟩
        ticket := fun tx htx => absurd htx (by simp [Course.start, Stage.ticket?])
        tickets := fun task htask => by
          obtain rfl := Option.some.inj ((SortedMap.find?_insert_self ..).symm.trans htask)
          rfl }
    · refine (hf.fits hold).frame
        (fun _ _ _ _ _ hback => hback) (Nat.le_refl _) fun task htask => ?_
      exact ⟨task, (SortedMap.find?_insert_of_ne _ _ (Nat.ne_of_lt hlt)).symm.trans htask, rfl⟩
  distinct := by
    -- The job that is started has no ticket yet.
    have hold : ∀ {id : TaskId} {job : Job ι} {tx : Ticket},
        (h.jobs ++ [⟨what, .start, h.now, none, none, h.now⟩])[id]? = some job →
        job.course.stage.ticket? = some tx → h.jobs[id]? = some job := by
      intro id job tx hjob htx
      rcases getElem?_concat_cases hjob with ⟨-, rfl⟩ | ⟨-, hjob⟩
      · exact absurd htx (by simp [Course.start, Stage.ticket?])
      · exact hjob
    intro i j jobi jobj tx hi hj hti htj
    exact hf.distinct (hold hi hti) (hold hj htj) hti htj
  still := by
    intro n hn hpast
    have hstore : (h.system.withTask h.jobs.length ⟨S.program what,
        .start isCancelled trigger⟩).world.store? S.store = some s := hf.store
    rcases past_recorded_cases hstore hf.committed hn hpast with ⟨hlt, hold⟩ | ⟨-, hne⟩
    · obtain ⟨id, job, hjob, hended⟩ := hf.still hlt hold
      refine ⟨id, job, ?_, hended⟩
      have hlen : id < h.jobs.length := (List.getElem?_eq_some_iff.1 hjob).1
      exact (List.getElem?_append_left hlen).trans hjob
    · exact absurd rfl hne

/-- All programs of the setting keep to its store. -/
def IsDisciplined (S : Setting ι ρ) : Prop :=
  ∀ what, ∃ P Q, (S.program what).Along ⟨S.store, P⟩ Q .start

/-- The next call of a program is one that the course of its job allows. -/
theorem IsDisciplined.allows (hS : S.IsDisciplined) (hfollow : S.AllFollow h)
    (hjob : h.jobs[id]? = some job) {task : Task ρ} (htask : h.system.tasks.find? id = some task)
    {c : Call} {go : c.Reply → Program ρ} (hprogram : task.program = .call c go) :
    ∃ P, Discipline.Allows ⟨S.store, P⟩ job.course c := by
  obtain ⟨P, Q, halong⟩ := hS job.what
  have hrest := (hfollow.follows hjob P Q halong).2 task htask
  rw [hprogram] at hrest
  exact ⟨P, hrest.1⟩

/-- Every move keeps all jobs fitting. -/
theorem AllFit.after (hS : S.IsDisciplined) (hfollow : S.AllFollow h) (hf : S.AllFit h s)
    (move : Move ι) : ∃ s', S.AllFit (S.after h move) s' := by
  -- Every task that runs is one of the jobs.
  have hjobs : ∀ {id task}, h.system.tasks.find? id = some task →
      ∃ job, h.jobs[id]? = some job := fun htask =>
    ⟨_, List.getElem?_eq_getElem (hfollow.known htask)⟩
  unfold Setting.after
  split
  · rename_i system hstep
    cases move with
    | start what isCancelled trigger =>
      obtain ⟨-, rfl⟩ := System.step_start hstep
      exact ⟨s, hf.start what isCancelled trigger⟩
    | call id =>
      obtain ⟨context, c, go, htask, rfl⟩ := System.step_call hstep
      obtain ⟨job, hjob⟩ := hjobs htask
      obtain ⟨P, hallows⟩ := hS.allows hfollow hjob htask rfl
      exact ⟨_, hf.call hjob htask hallows⟩
    | expire id =>
      obtain ⟨task, htask, hsystem⟩ := System.step_expire hstep
      obtain ⟨job, hjob⟩ := hjobs htask
      exact hf.expire hjob htask hsystem
    | abandon id =>
      obtain ⟨task, htask, hsystem⟩ := System.step_abandon hstep
      obtain ⟨job, hjob⟩ := hjobs htask
      exact hf.abandon hjob htask hsystem
    | cancel id =>
      obtain ⟨task, htask, rfl⟩ := System.step_cancel hstep
      refine ⟨s, hf.same rfl hf.store fun id' task' htask' => ?_⟩
      rcases SortedMap.find?_insert_cases htask' with ⟨rfl, rfl⟩ | ⟨-, hold⟩
      · exact ⟨task, htask, rfl⟩
      · exact ⟨task', hold, rfl⟩
    | wait micros =>
      obtain rfl := Option.some.inj hstep
      exact ⟨s, hf.same rfl hf.store fun _ task' htask' => ⟨task', htask', rfl⟩⟩
    | tick nanos =>
      obtain rfl := Option.some.inj hstep
      exact ⟨s, hf.same rfl hf.store fun _ task' htask' => ⟨task', htask', rfl⟩⟩
  · exact ⟨s, hf⟩

/-- **In every run all jobs fit.** -/
theorem fits_run (hS : S.IsDisciplined) {world : World} {s : Store}
    (hstore : world.store? S.store = some s) (moves : List (Move ι)) :
    ∃ s', S.AllFit (S.run world moves) s' := by
  induction moves using List.reverseRecOn with
  | nil =>
    -- Nothing has happened, so there are no jobs and the past is what the store keeps.
    have hpast : ∀ n, (S.run world []).past n = s.committed := by
      intro n
      show S.committed ⟨world, .empty⟩ = s.committed
      rw [Setting.committed, hstore]
    exact ⟨s, {
      store := hstore
      committed := hpast _
      fits := fun hjob => absurd hjob (by simp [run, begin])
      distinct := fun hjob => absurd hjob (by simp [run, begin])
      still := fun hn => absurd hn (Nat.not_lt_zero _) }⟩
  | append_singleton moves move ih =>
    obtain ⟨s', hs'⟩ := ih
    rw [run_concat]
    exact hs'.after hS (S.follows_run world moves) move

end Setting

end Muster
