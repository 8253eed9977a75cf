import Muster.Proofs.Activity.Basic
import Muster.Proofs.Program.Heed

/-!
# Activities that heed what they are told

A reading of all rows, a deletion of the entries of the own cluster and a refresh of a gateway list
scan the rows, and can be told to give up. Each of them looks before its scan, before each row of it
and before its end; a deletion also looks before each removal and, for the last time, between its
last removal and its commit (`Activity.Signed`). All three heed what they are told
(`heeds_program`).
-/

namespace Muster

open Operation

namespace Table

/-- The signs of removals: the program has looked before each of them. -/
inductive ClearSigns (t : Table) : List Row → List Sign → Prop
  /-- There are no rows to remove. -/
  | nil : ClearSigns t [] []
  /-- One more row was removed first. -/
  | cons (row : Row) (old : Option Bytes) {rest : List Row} {signs : List Sign}
    (behind : ClearSigns t rest signs) : ClearSigns t (row :: rest)
      (.looked :: .asked ⟨.remove ⟨t.stateName, row.1⟩, old⟩ :: signs)

variable {t : Table}

/-- The loop over the rows looks at the token once before each removal. -/
theorem heeds_removeRows {tx : Ticket} {rows : List Row} {signs : List Sign}
    {Q : Unit → List Sign → Prop}
    (h : ∀ removals, t.ClearSigns rows removals → Q () (signs ++ removals)) :
    (t.removeRows tx rows).Heeds signs Q := by
  induction rows generalizing signs with
  | nil =>
    have hdone := h [] .nil
    rw [List.append_nil] at hdone
    exact heeds_pure hdone
  | cons row rest ih =>
    refine heeds_bind (heeds_checkCancelled ?_)
    refine heeds_bind (heeds_ask fun old => ?_)
    refine ih fun removals hremovals => ?_
    rw [List.append_assoc, List.append_assoc]
    exact h _ (.cons row old hremovals)

/-- The signs of a reading that has scanned rows. -/
def ReadSigns (t : Table) (rows : List Row) (signs : List Sign) : Prop :=
  ∃ stored, signs = scanSigns t.stateName rows ++ [.asked ⟨.read t.versionCell, stored⟩]

/-- The signs of a deletion that has scanned rows. -/
def DeleteSigns (t : Table) (rows : List Row) (signs : List Sign) : Prop :=
  ∃ removals stored, t.ClearSigns rows removals ∧ signs = scanSigns t.stateName rows ++
    (removals ++ [.asked ⟨.remove t.versionCell, stored⟩, .looked, .committed])

/-- A full reading looks at the token where the scan does, and nowhere else. -/
theorem heeds_readAll (t : Table) :
    t.readAll.Heeds [] fun _ signs => ∃ rows, t.ReadSigns rows signs := by
  refine heeds_bind (heeds_resolve _ ?_)
  refine heeds_bind (heeds_resolve _ ?_)
  refine heeds_bind (heeds_within fun tx => ?_)
  refine heeds_bind (heeds_scan fun rows => ?_)
  refine heeds_bind (heeds_ask fun stored => ?_)
  -- Behind the version nothing can be seen of the reading any more.
  refine heeds_bind (heeds_read fun version _ => ?_)
  refine heeds_bind (heeds_discard tx (heeds_pure ?_))
  refine heeds_bind (heeds_read fun members _ => ?_)
  exact heeds_bind (heeds_note _ (heeds_pure ⟨rows, stored, rfl⟩))

/-- A deletion looks at the token during the scan, before each removal and before its commit. -/
theorem heeds_deleteEntries (t : Table) :
    (t.deleteEntries t.clusterId).Heeds [] fun _ signs => ∃ rows, t.DeleteSigns rows signs := by
  rw [deleteEntries, if_neg (not_not_intro rfl)]
  refine heeds_bind (heeds_resolve _ ?_)
  refine heeds_bind (heeds_resolve _ ?_)
  refine heeds_bind (heeds_within fun tx => ?_)
  refine heeds_bind (heeds_scan fun rows => ?_)
  refine heeds_bind (heeds_removeRows fun removals hremovals => ?_)
  refine heeds_bind (heeds_ask fun stored => ?_)
  -- The last look is in front of the commit; behind it the deletion cannot be told any more.
  refine heeds_bind (heeds_checkCancelled ?_)
  refine heeds_bind (heeds_commit tx (heeds_pure ?_))
  refine heeds_note _ ⟨rows, removals, stored, hremovals, ?_⟩
  simp only [List.nil_append, List.append_assoc]
  rfl

end Table

/-- A refresh looks at the token where the scan does, and nowhere else. -/
theorem GatewayList.heeds_refresh (g : GatewayList) :
    g.refresh.Heeds [] fun _ signs => ∃ rows, signs = scanSigns g.stateName rows := by
  refine heeds_bind (heeds_resolve _ ?_)
  -- Neither the clock nor the handing in of the list shows.
  refine heeds_bind (heeds_silent id (fun _ => rfl) fun startedAt => ?_)
  refine heeds_bind (heeds_within fun tx => ?_)
  refine heeds_bind (heeds_scan fun rows => ?_)
  refine heeds_bind (heeds_discard tx (heeds_pure ?_))
  refine heeds_bind (heeds_forM_note _ ?_)
  refine heeds_bind (heeds_note _ ?_)
  refine heeds_bind (heeds_silent id (fun _ => rfl) fun isKept => ?_)
  cases isKept with
  | true => exact heeds_pure ⟨rows, rfl⟩
  | false => exact heeds_bind (heeds_note _ (heeds_pure ⟨rows, rfl⟩))

namespace Activity

variable {store : String}

/-- An activity that scans the rows and can be told to give up. -/
inductive Scans : Activity store → Prop
  /-- A reading of all rows. -/
  | read (t : Table) (on : t.store = store) : Scans (.table t on .readAll)
  /-- A deletion of the entries of the own cluster. -/
  | delete (t : Table) (on : t.store = store) : Scans (.table t on (.deleteEntries t.clusterId))
  /-- A refresh of a gateway list. -/
  | refresh (g : GatewayList) (on : g.store = store) : Scans (.refresh g on)

/-- The signs of an activity that has scanned rows and was not told to give up. -/
def Signed : Activity store → List Row → List Sign → Prop
  | .table t _ .readAll, rows, signs => t.ReadSigns rows signs
  | .table t _ (.deleteEntries _), rows, signs => t.DeleteSigns rows signs
  | .refresh g _, rows, signs => signs = scanSigns g.stateName rows
  | .table _ _ _, _, _ => False

/-- **An activity that scans heeds what it is told.** -/
theorem heeds_program {activity : Activity store} (hscans : activity.Scans) :
    activity.program.Heeds (fun _ signs => ∃ rows, activity.Signed rows signs) [] := by
  cases hscans with
  | read t on =>
    refine heeds_bind (heeds_bind (t.heeds_readAll.mono fun roster signs hsigns => ?_))
    exact heeds_pure (heeds_pure hsigns)
  | delete t on =>
    refine heeds_bind (heeds_bind (t.heeds_deleteEntries.mono fun _ signs hsigns => ?_))
    exact heeds_pure (heeds_pure hsigns)
  | refresh g on =>
    exact heeds_bind (g.heeds_refresh.mono fun uris signs hsigns => heeds_pure hsigns)

end Activity

end Muster
