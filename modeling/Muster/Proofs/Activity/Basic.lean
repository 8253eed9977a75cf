import Muster.Proofs.Gateways.Refresh
import Muster.Proofs.Table.History
import Muster.Proofs.Table.Plain

/-!
# Activities on a store

What goes on in a store: operations of any tables that are kept there, and refreshes of any gateway
lists that read from it. An activity ends with an outcome of its operation, or it fails without
having committed anything (`along_program`); only a refresh hands in a gateway list, and only if it
does not fail (`leaves_program`).
-/

namespace Muster

/-- What can be done on the store of a name. -/
inductive Activity (store : String)
  /-- An operation of a table. -/
  | table (t : Table) (on : t.store = store) (action : Table.Action)
  /-- A refresh of a gateway list. -/
  | refresh (g : GatewayList) (on : g.store = store)

namespace Activity

/-- What activities answer. -/
inductive Answer
  /-- The answer of a table. -/
  | table (answer : Table.Answer)
  /-- The gateways that were read. -/
  | gateways (uris : List Uri)

open Operation

variable {store : String}

/-- The operation of an activity. -/
def operation : Activity store → Operation Answer
  | .table t _ action => return .table (← t.operation action)
  | .refresh g _ => return .gateways (← g.refresh)

/-- The program of an activity. -/
def program (activity : Activity store) : Program (Except Failure Answer) :=
  activity.operation.run

/-- The activities on a store. -/
def setting (store : String) : Setting (Activity store) (Except Failure Answer) :=
  ⟨store, program⟩

/-- The ways in which an activity ends without failure: those of its operation. -/
inductive Outcome : Activity store → Course → Answer → Prop
  /-- An operation of a table has ended. -/
  | table {t : Table} {on : t.store = store} {action : Table.Action} {k : Course}
    {answer : Table.Answer} (h : t.Outcome action k answer) :
    Outcome (.table t on action) k (.table answer)
  /-- A refresh has ended. -/
  | refresh {g : GatewayList} {on : g.store = store} {k : Course} {uris : List Uri}
    (h : g.Outcome k uris) : Outcome (.refresh g on) k (.gateways uris)

/-- The courses with which an activity may have committed. -/
def Commits (activity : Activity store) (k : Course) : Prop :=
  match activity with
  | .table t _ action => ∃ answer, t.Outcome action k answer
  | .refresh _ _ => False

/-- The course of an activity that is done fits its result. -/
def Ends (activity : Activity store) : Except Failure Answer → Course → Prop
  | .ok answer, k => activity.Outcome k answer
  | .error _, k => k.IsFailed

/-- The trail of an activity that is done: a refresh that has not failed has handed in one list,
with what it has read from the clock. -/
def Trailed : Activity store → Except Failure Answer → Trail → Prop
  | .refresh g _, .ok (.gateways uris), k => g.Trailed (.ok uris) k
  | _, _, k => k.published = []

/-- Every activity keeps the discipline of its store and ends as it should. -/
theorem along_program (activity : Activity store) :
    activity.program.Along ⟨store, activity.Commits⟩ activity.Ends .start := by
  cases activity with
  | table t on action =>
    cases on
    refine Program.Along.bind (t.isFollowed action) fun result k hresult => ?_
    cases result with
    | ok answer => exact .table hresult
    | error failure => exact hresult
  | refresh g on =>
    cases on
    refine Program.Along.bind g.isFollowed_refresh fun result k hresult => ?_
    cases result with
    | ok uris => exact .refresh hresult
    | error failure => exact hresult

/-- The setting of activities on one store is disciplined: this is what each program does, whatever
replies it gets. -/
theorem isDisciplined (store : String) : (setting store).IsDisciplined := fun activity =>
  ⟨_, _, activity.along_program⟩

/-- Every activity leaves the trail that belongs to it. -/
theorem leaves_program (activity : Activity store) :
    activity.program.Leaves activity.Trailed .start := by
  cases activity with
  | table t on action =>
    refine (t.isPlain_operation action).leaves_bind (fun _ => rfl) fun answer => ?_
    exact leaves_pure rfl
  | refresh g on =>
    exact leaves_bind g.leaves_refresh (fun uris k hk => leaves_pure hk) fun failure k hk => hk

/-- An activity that fails has handed in no list. -/
theorem Trailed.published_eq_nil {activity : Activity store} {failure : Failure} {k : Trail}
    (h : activity.Trailed (.error failure) k) : k.published = [] := by
  cases activity with
  | table t on action => exact h
  | refresh g on => exact h

/-- An activity that has ended has no open transaction. -/
theorem Ends.not_opened {activity : Activity store} {result : Except Failure Answer} {k : Course}
    (h : activity.Ends result k) (tx : Ticket) : k.stage ≠ .opened tx := by
  intro hopened
  cases result with
  | ok answer =>
    cases h with
    | table ho => exact ho.not_opened tx hopened
    | refresh ho =>
      cases ho
      exact absurd hopened (by simp)
  | error failure => exact Course.IsFailed.not_opened h tx hopened

end Activity

end Muster
