import Muster.Proofs.Store.Snapshot
import Muster.Proofs.System.Climb
import Muster.Proofs.System.Leads

/-!
# A history without some of its jobs

What is committed at a moment is what was committed at the start under the logs of the jobs that
have committed since, one after another (`AllFit.without_eq_past`). `History.without` leaves some
jobs out of this. If those have asked for nothing in some dictionaries, then in these the contents
are the same without them (`AllFit.without_agrees`), none of their steps changes a cell there
(`Steps.agree`), and whoever holds a lock there or waits for one is not one of them
(`AllAscend.exists_locker`).
-/

namespace Muster

/-- A request buffers a change in the dictionary that it is about. -/
theorem Answered.dictionary_of_buffered? {a : Answered} {write : Cell × Option Bytes}
    (h : a.buffered? = some write) : a.1.dictionary = write.1.dictionary := by
  obtain ⟨r, reply⟩ := a
  -- A request buffers its own cell, if it buffers one at all.
  cases r with
  | set cell value =>
    obtain rfl := Option.some.inj h
    rfl
  | add cell value =>
    cases reply with
    | true =>
      obtain rfl := Option.some.inj h
      rfl
    | false => exact absurd h (by simp [buffered?])
  | remove cell =>
    cases reply with
    | some value =>
      obtain rfl := Option.some.inj h
      rfl
    | none => exact absurd h (by simp [buffered?])
  | _ => exact absurd h (by simp [buffered?])

namespace Contents

variable {c c' : Contents} {Has : String → Prop}

/-- The contents hold the same in some of the dictionaries. -/
def AgreeOn (Has : String → Prop) (c c' : Contents) : Prop :=
  ∀ cell, Has cell.dictionary → c.find? cell = c'.find? cell

/-- What is put over contents that hold the same in a cell leaves the same there. -/
theorem find?_under_congr {cell : Cell} (h : c.find? cell = c'.find? cell)
    (log : List Answered) : (c.under log).find? cell = (c'.under log).find? cell := by
  induction log using List.reverseRecOn with
  | nil => exact h
  | append_singleton log a ih =>
    rw [under_concat, under_concat]
    cases a.buffered? with
    | none => exact ih
    | some write =>
      show ((c.under log).change write.1 write.2).find? cell =
        ((c'.under log).change write.1 write.2).find? cell
      rw [find?_change, find?_change, ih]

/-- A log leaves a cell in a dictionary that none of its requests is about. -/
theorem find?_under_of_notMem (c : Contents) {log : List Answered} {cell : Cell}
    (h : ∀ a ∈ log, a.1.dictionary ≠ cell.dictionary) :
    (c.under log).find? cell = c.find? cell := by
  induction log using List.reverseRecOn with
  | nil => rfl
  | append_singleton log a ih =>
    have hlog := ih fun b hb => h b (List.mem_append_left _ hb)
    have hcell := h a (List.mem_append_right _ List.mem_cons_self)
    rw [under_concat]
    -- The last request writes into its own dictionary, which is not that of the cell.
    cases hwrite : a.buffered? with
    | none => exact hlog
    | some write =>
      have hne : cell ≠ write.1 := by
        rintro rfl
        exact hcell (Answered.dictionary_of_buffered? hwrite)
      show ((c.under log).change write.1 write.2).find? cell = c.find? cell
      rw [find?_change, if_neg hne, hlog]

end Contents

namespace History

variable {ι ρ : Type}

/-- The job that has committed at a moment. -/
def committing? (h : History ι ρ) (n : Nat) : Option (Job ι) :=
  ((h.who n).bind (h.jobs[·]?)).filter fun job => job.course.IsCommitted ∧ job.closing = n

/-- What would be committed at a moment if some jobs were left out: the contents at the start under
the logs of the others that have committed before that moment, one after another. -/
def without (h : History ι ρ) (out : ι → Bool) : Nat → Contents
  | 0 => h.past 0
  | n + 1 =>
    match h.committing? n with
    | some job =>
      if out job.what then h.without out n
      else (h.without out n).under job.course.requests.reverse
    | none => h.without out n

/-- The job that commits at a moment is the one that has moved then, and its transaction has ended
there with its changes. -/
theorem committing?_eq_some_iff {h : History ι ρ} {n : Nat} {job : Job ι} :
    h.committing? n = some job ↔ ∃ id, h.who n = some id ∧ h.jobs[id]? = some job ∧
      job.course.IsCommitted ∧ job.closing = n := by
  unfold committing?
  rw [Option.filter_eq_some_iff, Option.bind_eq_some_iff, decide_eq_true_iff]
  constructor
  · rintro ⟨⟨id, hwho, hjob⟩, hcommitted, hclosing⟩
    exact ⟨id, hwho, hjob, hcommitted, hclosing⟩
  · rintro ⟨id, hwho, hjob, hcommitted, hclosing⟩
    exact ⟨⟨id, hwho, hjob⟩, hcommitted, hclosing⟩

end History

/-- A task that is dropped has requested what it had. -/
theorem Course.requests_drop (k : Course) : k.drop.requests = k.requests := by
  unfold Course.drop
  split
  · rfl
  · rfl

namespace Setting

variable {ι ρ : Type} {S : Setting ι ρ} {h h' : History ι ρ} {s : Store} {id : TaskId}
  {job : Job ι} {MayFail : Prop} {Has : String → Prop} {out : ι → Bool} {n : Nat}

/-- The job has asked for nothing in some of the dictionaries, and it does not do so now. -/
structure Spares (h : History ι ρ) (id : TaskId) (job : Job ι) (Has : String → Prop) : Prop where
  /-- It was answered no request there. -/
  requests : ∀ a ∈ job.course.requests, ¬ Has a.1.dictionary
  /-- It asks for no lock there. -/
  asks : ∀ {cell}, Asks h id cell → ¬ Has cell.dictionary

/-- A job whose program keeps to its bounds spares what is beyond them. -/
theorem Led.spares (hl : S.Led MayFail h id job) {e : Bounds} {Q : ρ → Course → Prop}
    (hkeeps : (S.program job.what).KeepsTo e Q .start) (hstore : e.store = S.store)
    (hmay : e.MayFail = MayFail) (hbeyond : ∀ dictionary, e.Has dictionary → ¬ Has dictionary) :
    Spares h id job Has := by
  obtain ⟨p, k, hleads, hrest⟩ := hl
  rw [← hstore, ← hmay] at hleads
  obtain ⟨hgoes, hrequests⟩ := hkeeps.leads hleads
  -- The task is at a call of its program, or it was abandoned and its course dropped.
  rcases hrest with ⟨hprogram, rfl⟩ | ⟨hnone, hdrop⟩
  · refine ⟨fun a ha => hbeyond _ (hrequests a ha), ?_⟩
    rintro cell ⟨tx, request, go, hask, hlock⟩
    obtain rfl := Option.some.inj (hprogram.symm.trans hask)
    rw [Request.dictionary_of_lock? hlock]
    exact hbeyond _ hgoes.1
  · refine ⟨fun a ha => hbeyond _ (hrequests a ?_), ?_⟩
    · rwa [hdrop, Course.requests_drop] at ha
    · rintro cell ⟨tx, request, go, hask, -⟩
      exact absurd (hnone.symm.trans hask) (by simp)

/-- The log of a job leaves the cells alone that the job spares. -/
theorem Spares.find?_under (hspares : Spares h id job Has) (c : Contents) {cell : Cell}
    (hcell : Has cell.dictionary) :
    (c.under job.course.requests.reverse).find? cell = c.find? cell := by
  refine Contents.find?_under_of_notMem c fun a ha hsame => ?_
  refine hspares.requests a (List.mem_reverse.1 ha) ?_
  rwa [hsame]

/-- The transaction of a job began in the past. -/
theorem Fits.opening_le_now (hfits : S.Fits h s id job) : job.opening ≤ h.now := by
  obtain ⟨hstarted, hlast, -⟩ := hfits.started
  rw [Job.opening]
  cases hb : job.began with
  | none => exact Nat.le_of_lt (Nat.lt_of_le_of_lt hstarted hlast)
  | some b => exact Nat.le_of_lt (Nat.lt_of_le_of_lt (hfits.began b hb).2.1 hlast)

/-! ## Contents -/

/-- A commit puts the log of its job over the contents. -/
theorem AllFit.past_succ_of_committing (hf : S.AllFit h s)
    (hcommitting : h.committing? n = some job) :
    h.past (n + 1) = (h.past n).under job.course.requests.reverse := by
  obtain ⟨id, -, hjob, hcommitted, rfl⟩ := History.committing?_eq_some_iff.1 hcommitting
  obtain ⟨tx, hcloses⟩ := hf.closes hjob fun tx hopened =>
    not_isCommitted_of_opened hopened hcommitted
  rw [hcloses.applied hcommitted, hcloses.replays.apply_eq]

/-- Without a commit the contents stay as they are. -/
theorem AllFit.past_succ_of_not_committing (hf : S.AllFit h s) (hn : n < h.now)
    (hnone : h.committing? n = none) : h.past (n + 1) = h.past n := by
  by_contra hpast
  obtain ⟨id, job, hjob, hended, hcommitted⟩ := hf.still hn hpast
  have hwho := ((hf.fits hjob).ended n hended).2
  have hclosing : job.closing = n := by
    rw [Job.closing, hended]
    rfl
  have hsome := History.committing?_eq_some_iff.2 ⟨id, hwho, hjob, hcommitted, hclosing⟩
  exact absurd (hnone.symm.trans hsome) (by simp)

/-- What jobs spare is the same without them. -/
theorem AllFit.without_agrees (hf : S.AllFit h s)
    (hspares : ∀ {id : TaskId} {job : Job ι}, h.jobs[id]? = some job → out job.what = true →
      Spares h id job Has) (hn : n ≤ h.now) : (h.without out n).AgreeOn Has (h.past n) := by
  induction n with
  | zero => exact fun _ _ => rfl
  | succ n ih =>
    intro cell hcell
    have hbefore := ih (Nat.le_of_succ_le hn) cell hcell
    rw [History.without]
    -- What is committed at this moment is left out, and was beyond the dictionaries, or it stays
    -- in.
    cases hcommitting : h.committing? n with
    | none =>
      rw [hf.past_succ_of_not_committing hn hcommitting]
      exact hbefore
    | some job =>
      rw [hf.past_succ_of_committing hcommitting]
      dsimp only
      cases hout : out job.what with
      | true =>
        obtain ⟨id, -, hjob, -⟩ := History.committing?_eq_some_iff.1 hcommitting
        rw [if_pos rfl, (hspares hjob hout).find?_under _ hcell]
        exact hbefore
      | false =>
        rw [if_neg (by simp)]
        exact Contents.find?_under_congr hbefore _

/-- No step of a job changes a cell that the job spares. -/
theorem Steps.agree {world : World} {moves : List (Move ι)} {k k' : History ι ρ}
    (hsteps : S.Steps world moves id k k') (hf : S.AllFit (S.run world moves) s)
    (hjob : (S.run world moves).jobs[id]? = some job)
    (hspares : Spares (S.run world moves) id job Has) :
    (S.committed k'.system).AgreeOn Has (S.committed k.system) := by
  intro cell hcell
  rcases hsteps.past with rfl | ⟨-, hlt, hwho, hpast, hpast'⟩
  · rfl
  · rw [← hpast, ← hpast']
    -- Either nobody commits at this step, or this job does, which spares the cell.
    cases hcommitting : (S.run world moves).committing? k.now with
    | none => rw [hf.past_succ_of_not_committing hlt hcommitting]
    | some job' =>
      obtain ⟨id', hwho', hjob', -⟩ := History.committing?_eq_some_iff.1 hcommitting
      obtain rfl := Option.some.inj (hwho.symm.trans hwho')
      obtain rfl := Option.some.inj (hjob.symm.trans hjob')
      rw [hf.past_succ_of_committing hcommitting, hspares.find?_under _ hcell]

/-! ## Locks -/

/-- Who holds a lock or waits for one does so for a job with an open transaction that does not spare
the dictionary. -/
theorem AllAscend.exists_locker (ha : AllAscend h s) (hs : Secures h s 0) (hf : S.AllFit h s)
    {number : TransactionId} {cell : Cell} (hcell : Has cell.dictionary)
    (hlock : s.locks.holds number cell = true ∨ s.locks.Queues number cell) :
    ∃ (id : TaskId) (job : Job ι) (tx : Ticket), h.jobs[id]? = some job ∧
      job.course.stage = .opened tx ∧ tx.id = number ∧ ¬ Spares h id job Has := by
  rcases hlock with hholds | hqueues
  · obtain ⟨lock, hlock, rfl⟩ := Locks.holds_iff.1 hholds
    -- Every holder is a job, for no lock was there at the beginning.
    rcases hs.guarded.holder hlock with hold | ⟨id, job, tx, hjob, hstage, hnumber⟩
    · exact absurd hold (Nat.not_lt_zero _)
    · refine ⟨id, job, tx, hjob, hstage, hnumber, fun hspares => ?_⟩
      rw [← hnumber] at hholds
      -- The lock was earned by a request or is asked for, and neither is in these dictionaries.
      rcases (ha hjob).earned hstage hholds with hlocked | hasks
      · obtain ⟨a, hmem, hlock⟩ := List.mem_filterMap.1 hlocked
        refine hspares.requests a hmem ?_
        rwa [← Request.dictionary_of_lock? hlock]
      · exact hspares.asks hasks hcell
  · obtain ⟨id, job, tx, hjob, hstage, hnumber, hasks⟩ := hs.exists_asks hf hqueues
    exact ⟨id, job, tx, hjob, hstage, hnumber, fun hspares => hspares.asks hasks hcell⟩

end Setting

end Muster
