import Muster.Proofs.Activity.Listed
import Muster.Proofs.System.Climb
import Muster.Proofs.Table.Climb

/-!
# Activities do not wait for each other in a cycle

Operations of tables ask for locks in ascending order of cells, whatever tables they are of, and
refreshes ask for none. So however activities on a store are interleaved, no transaction waits for
itself through others (`never_deadlocks`), be it for the holders of locks or for those that stand
before it in a queue.
-/

namespace Muster.Activity

variable {store : String} {world : World} {s : Store}

/-- Every activity asks for locks in ascending order. -/
theorem climbs_operation (activity : Activity store) :
    Operation.Climbs activity.operation [] fun _ _ => True := by
  cases activity with
  | table t on action => exact (t.climbs_operation action).answer Answer.table
  | refresh g on => exact g.climbs_refresh.answer Answer.gateways

/-- All activities ask for locks in ascending order. -/
theorem isAscending (store : String) : (setting store).IsAscending :=
  fun activity => Program.Climbs.mono activity.climbs_operation fun _ _ _ => trivial

/-- **Activities cannot deadlock.** On a store that nothing is locked in, let any operations of any
tables and any refreshes be started, moved, cancelled, timed out and dropped in any order. A
transaction that has asked for a lock waits for its holder and for all that stand before it in the
queue, and among the transactions of the store there is no cycle of waiting. -/
theorem never_deadlocks (hstore : world.store? store = some s) (hlocks : s.locks = .empty)
    (moves : List (Move (Activity store))) :
    ∃ s', ((setting store).run world moves).system.world.store? store = some s' ∧
      ∀ id, ¬ Relation.TransGen s'.locks.WaitsFor id id := by
  obtain ⟨s', hf, hs, ha⟩ :=
    Setting.ascends_run (isAscending store) (isDisciplined store) hstore hlocks moves
  exact ⟨s', hf.store, (ha.isAscending hs hf).not_cycle⟩

/-! ## A table whose rows are the version of another one -/

namespace Sample

/-- A table whose dictionary of rows is that of the version of another table. -/
def upper : Table :=
  { Table.Sample.table with owner := "upper", stateName := "members.version" }

/-- A store with the version of the lower table. -/
def versionedStore : Store :=
  { Store.empty with
    committed := SortedMap.empty.insert Table.Sample.table.versionCell
      (Stored.versionToBytes .initial) }

/-- A world with this store. -/
def versionedWorld : World :=
  { Table.Sample.world with
    sites := SortedMap.empty.insert "main"
      { Site.empty Site.defaultLockTimeout with store := versionedStore } }

/-- A row is inserted into the lower table. Before its version is locked, the upper table is deleted
from, to which this version is a row; then a second row is inserted. -/
def crowdedMoves : List (Move (Activity "main")) :=
  .start (insertion Table.Sample.entry) false .never :: List.replicate 15 (.call 0) ++
    .start (.table upper rfl (.deleteEntries "cluster")) false .never ::
      List.replicate 22 (.call 1) ++
    .call 0 :: .start (insertion neighbour) false .never :: List.replicate 10 (.call 2)

/-- The history in which all three want to lock the version. -/
def crowded : Run "main" :=
  (setting "main").run versionedWorld crowdedMoves

end Sample

/-- The first insertion waits for the deletion, and the second one for the first, but nobody in a
cycle. -/
theorem never_deadlocks_crowded :
    Sample.versionedWorld.store? "main" = some Sample.versionedStore ∧
    Sample.versionedStore.locks = .empty ∧
    ∃ s', Sample.crowded.system.world.store? "main" = some s' ∧
      s'.locks.WaitsFor 1 2 ∧ s'.locks.WaitsFor 3 1 ∧
      ∀ id, ¬ Relation.TransGen s'.locks.WaitsFor id id := by
  have hlock : (Sample.crowded.system.world.store? "main").bind (fun s =>
      s.locks.find? Table.Sample.table.versionCell) = some ⟨2, [1, 3]⟩ := by decide +kernel
  have hstore : Sample.versionedWorld.store? "main" = some Sample.versionedStore := rfl
  unfold Sample.crowded at hlock ⊢
  obtain ⟨s', hs', hcycle⟩ := never_deadlocks hstore rfl Sample.crowdedMoves
  rw [hs', Option.bind_some] at hlock
  -- The queue of the version is what the run has left of it: two transactions behind the holder.
  have hfirst : s'.locks.Stands 1 Table.Sample.table.versionCell 0 := ⟨_, hlock, rfl⟩
  have hsecond : s'.locks.Stands 3 Table.Sample.table.versionCell 1 := ⟨_, hlock, rfl⟩
  have hheld : s'.locks.holds 2 Table.Sample.table.versionCell = true :=
    Locks.holds_iff.2 ⟨_, hlock, rfl⟩
  exact ⟨hstore, rfl, s', hs', ⟨_, 0, hfirst, .inl hheld⟩,
    ⟨_, 1, hsecond, .inr ⟨0, Nat.zero_lt_one, hfirst⟩⟩, hcycle⟩

end Muster.Activity
