import Muster.Gateways.Operations
import Muster.Proofs.Program.Climb
import Muster.Proofs.Program.Trail

/-!
# What a refresh does

A refresh scans the rows in one transaction, which it discards, and hands in one list: that of the
gateways of the rows, with what it has read from the clock before. If it fails, it has handed in
none.
-/

namespace Muster.GatewayList

open Operation

/-- The way in which a refresh ends without failure: its course and the gateways that it returns. -/
inductive Outcome (g : GatewayList) : Course → List Uri → Prop
  /-- The rows were scanned. -/
  | scanned (tx : Ticket) (rows : List Row) :
    Outcome g ⟨.discarded tx, [⟨.scan g.stateName, rows⟩], []⟩ (ofRows g.codec rows)

/-- The trail of a refresh with a result. -/
def Trailed (g : GatewayList) : Except Failure (List Uri) → Trail → Prop
  | .ok gateways, k => ∃ startedAt,
    k.readings = [startedAt] ∧ k.published = [(g.owner, ⟨gateways, startedAt⟩)]
  | .error _, k => k.published = []

/-- A refresh may use its store and does not commit. -/
def discipline (g : GatewayList) : Discipline :=
  ⟨g.store, fun _ => False⟩

variable {g : GatewayList}

/-- Notices leave the course as it is. -/
theorem along_forM_note {d : Discipline} {E : Course → Prop} {k : Course}
    {Q : Unit → Course → Prop} (notices : List Notice) (h : Q () k) :
    Along d E (notices.forM note) k Q := by
  induction notices with
  | nil => exact along_pure h
  | cons notice rest ih => exact along_bind (along_note _ ih)

/-- **A refresh ends with its outcome, or it fails; it never commits.** -/
theorem isFollowed_refresh (g : GatewayList) :
    Along g.discipline Course.IsFailed g.refresh .start fun gateways k => g.Outcome k gateways := by
  have hstart : Course.IsFailed .start := .inl rfl
  refine along_bind (along_resolve _ ?_ hstart)
  refine along_bind (along_perform trivial fun startedAt _ => ?_)
  refine along_bind (along_within rfl fun tx htx => ?_)
  refine along_bind (along_scan rfl rfl htx (fun _ hopened => .inl hopened) fun rows => ?_)
  refine along_bind (along_discard (.inl rfl) (along_pure ?_))
  -- The transaction has ended; what is left is telling, publishing and returning.
  refine along_bind (along_forM_note _ ?_)
  refine along_bind (along_note _ ?_)
  refine along_bind (along_perform trivial fun isKept _ => ?_)
  cases isKept with
  | true => exact along_pure (.scanned tx rows)
  | false => exact along_bind (along_note _ (along_pure (.scanned tx rows)))

/-- A refresh asks for no lock at all. -/
theorem climbs_refresh (g : GatewayList) : Climbs g.refresh [] fun _ _ => True := by
  refine climbs_bind (climbs_resolve _ ?_)
  refine climbs_bind (climbs_perform (by simp) fun startedAt => ?_)
  -- A scan is the only request of a refresh, and it asks for no lock.
  refine climbs_bind (climbs_within fun tx => ?_)
  refine climbs_bind (climbs_scan _ tx fun rows _ => ?_)
  refine climbs_bind (climbs_discard tx (climbs_pure ?_))
  refine climbs_bind (climbs_forM_note _ ?_)
  refine climbs_bind (climbs_note _ ?_)
  refine climbs_bind (climbs_perform (by simp) fun isKept => ?_)
  cases isKept with
  | true => exact climbs_pure trivial
  | false => exact climbs_bind (climbs_note _ (climbs_pure trivial))

/-- Between the clock and the list a refresh only gets its rows. -/
theorem isPlain_rows (g : GatewayList) : IsPlain (within g.store fun tx => do
    let rows ← scan g.members tx
    discard tx
    return rows) :=
  isPlain_within fun tx => isPlain_bind (isPlain_scan _ _) fun rows =>
    isPlain_bind (isPlain_discard tx) fun _ => isPlain_pure rows

/-- **A refresh reads the clock once and hands in one list; if it fails, it hands in none.** -/
theorem leaves_refresh (g : GatewayList) : g.refresh.Leaves .start g.Trailed := by
  refine (isPlain_resolve _).leaves_bind (fun _ => rfl) fun _ => ?_
  refine leaves_perform_bind fun startedAt => ?_
  refine g.isPlain_rows.leaves_bind (fun _ => rfl) fun rows => ?_
  refine (isPlain_forM isPlain_note _).leaves_bind (fun _ => rfl) fun _ => ?_
  refine (isPlain_note _).leaves_bind (fun _ => rfl) fun _ => ?_
  -- Behind the list that is handed in nothing can fail.
  refine leaves_perform_bind fun isKept => ?_
  cases isKept with
  | true => exact leaves_pure ⟨startedAt, rfl, rfl⟩
  | false => exact leaves_perform_bind fun _ => leaves_pure ⟨startedAt, rfl, rfl⟩

end Muster.GatewayList
