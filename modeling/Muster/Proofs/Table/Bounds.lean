import Muster.Proofs.System.Without
import Muster.Proofs.Table.Alone
import Muster.Proofs.Table.Sequential

/-!
# The dictionaries of a table

A table owns two dictionaries, named after its state: that of its rows and that of its version. No
operation of the table asks for anything else, whether it succeeds, fails or is given up on the way
(`keepsTo_operation`). Two tables are apart if they own no dictionary together; for that it is not
enough that their state names differ (`isApart_iff`).

Of readings it is also known how they fail (`Reads`): what was read cannot be decoded, a failure was
planned, or the reading was told to give up. They never fail for a lock.
-/

namespace Muster.Table

open Muster.Silo (Address Entry)
open Operation

variable {t u : Table} {dictionary : String}

/-- The dictionaries of a table: that of its rows and that of its version. -/
def Owns (t : Table) (dictionary : String) : Prop :=
  dictionary = t.stateName ∨ dictionary = t.stateName ++ ".version"

/-- The tables have different state names, and neither keeps its rows under the name under which the
other keeps its version. -/
structure IsApart (t u : Table) : Prop where
  /-- The state names differ. -/
  name : t.stateName ≠ u.stateName
  /-- The rows of the first are not where the version of the second is. -/
  front : t.stateName ≠ u.stateName ++ ".version"
  /-- The rows of the second are not where the version of the first is. -/
  back : u.stateName ≠ t.stateName ++ ".version"

/-- Tables are apart if and only if they own no dictionary together. -/
theorem isApart_iff : t.IsApart u ↔ ∀ dictionary, t.Owns dictionary → ¬ u.Owns dictionary := by
  constructor
  · rintro h dictionary (rfl | rfl) (hu | hu)
    · exact h.name hu
    · exact h.front hu
    · exact h.back hu.symm
    · refine h.name (String.toList_inj.1 (List.append_cancel_right (?_ : _ ++ ".version".toList = _)))
      rw [← String.toList_append, hu, String.toList_append]
  · intro h
    refine ⟨fun hname => h _ (.inl rfl) (.inl hname), fun hfront => h _ (.inl rfl) (.inr hfront),
      fun hback => h _ (.inr rfl) (.inl hback.symm)⟩

/-- What operations of a table keep to. -/
def bounds (t : Table) (MayFail : Prop) : Bounds :=
  ⟨t.store, t.Owns, MayFail⟩

variable {MayFail : Prop}

/-! ## Writing -/

/-- Moving the version on keeps to the dictionaries of the table. -/
theorem isConfined_advanceVersion {tx : Ticket} (htx : tx.store = t.store) (expected : Version) :
    IsConfined (t.bounds MayFail) (t.advanceVersion tx expected) := by
  refine isConfined_bind (isConfined_resolve rfl (.inr rfl)) fun _ => ?_
  refine isConfined_bind (isConfined_ask htx (.inr rfl)) fun stored => ?_
  refine isConfined_bind (isConfined_read _) fun version => ?_
  refine isConfined_bind isConfined_mint fun etag => ?_
  have hset : IsConfined (t.bounds MayFail) (do
      ask t.store tx (.set t.versionCell (Stored.versionToBytes (version.next etag)))
      return version.next etag) :=
    isConfined_bind (isConfined_ask htx (.inr rfl)) fun _ => isConfined_pure _
  exact isConfined_ite (isConfined_bind (isConfined_note _) fun _ => hset) hset

/-- Removing rows keeps to the dictionaries of the table. -/
theorem isConfined_removeRows {tx : Ticket} (htx : tx.store = t.store) (rows : List Row) :
    IsConfined (t.bounds MayFail) (t.removeRows tx rows) := by
  induction rows with
  | nil => exact isConfined_pure ()
  | cons row rest ih =>
    refine isConfined_bind isConfined_checkCancelled fun _ => ?_
    exact isConfined_bind (isConfined_ask htx (.inl rfl)) fun _ => ih

/-- Preparing the table keeps to its dictionaries. -/
theorem isConfined_prepare (t : Table) (createVersion : Bool) :
    IsConfined (t.bounds MayFail) (t.prepare createVersion) := by
  refine isConfined_bind (isConfined_resolve rfl (.inl rfl)) fun _ => ?_
  refine isConfined_bind (isConfined_resolve rfl (.inr rfl)) fun _ => ?_
  have hready : IsConfined (t.bounds MayFail) (note (.tableReady t.clusterId t.stateName)) :=
    isConfined_note _
  refine isConfined_ite (isConfined_bind (isConfined_within fun tx htx => ?_) fun _ => hready)
    hready
  refine isConfined_bind (isConfined_ask htx (.inr rfl)) fun isAdded => ?_
  refine isConfined_ite (isConfined_bind (isConfined_commit htx) fun _ => isConfined_note _) ?_
  exact isConfined_discard tx

/-- An insertion keeps to the dictionaries of the table. -/
theorem isConfined_insertRow (t : Table) (entry : Entry) (expected : Version) :
    IsConfined (t.bounds MayFail) (t.insertRow entry expected) := by
  refine isConfined_bind (isConfined_resolve rfl (.inl rfl)) fun _ => ?_
  refine isConfined_bind isConfined_mint fun etag => isConfined_within fun tx htx => ?_
  refine isConfined_bind (isConfined_ask htx (.inl rfl)) fun isAdded => isConfined_ite ?_ ?_
  · refine isConfined_bind (isConfined_advanceVersion htx expected) fun version => ?_
    refine isConfined_bind (isConfined_commit htx) fun _ => ?_
    exact isConfined_bind (isConfined_note _) fun _ => isConfined_pure _
  · refine isConfined_bind (isConfined_discard tx) fun _ => ?_
    exact isConfined_bind (isConfined_note _) fun _ => isConfined_pure _

/-- An update keeps to the dictionaries of the table. -/
theorem isConfined_updateRow (t : Table) (entry : Entry) (etag : String) (expected : Version) :
    IsConfined (t.bounds MayFail) (t.updateRow entry etag expected) := by
  refine isConfined_bind (isConfined_resolve rfl (.inl rfl)) fun _ => ?_
  refine isConfined_within fun tx htx => ?_
  refine isConfined_bind (isConfined_ask htx (.inl rfl)) fun current => ?_
  -- No row, a row with another etag, and a row that is replaced.
  cases current with
  | none =>
    refine isConfined_bind (isConfined_discard tx) fun _ => ?_
    exact isConfined_bind (isConfined_note _) fun _ => isConfined_pure _
  | some bytes =>
    refine isConfined_bind (isConfined_read _) fun record => isConfined_ite ?_ ?_
    · refine isConfined_bind (isConfined_discard tx) fun _ => ?_
      exact isConfined_bind (isConfined_note _) fun _ => isConfined_pure _
    · refine isConfined_bind isConfined_mint fun newEtag => ?_
      refine isConfined_bind (isConfined_ask htx (.inl rfl)) fun _ => ?_
      refine isConfined_bind (isConfined_advanceVersion htx expected) fun version => ?_
      refine isConfined_bind (isConfined_commit htx) fun _ => ?_
      exact isConfined_bind (isConfined_note _) fun _ => isConfined_pure _

/-- A heartbeat keeps to the dictionaries of the table. -/
theorem isConfined_heartbeat (t : Table) (entry : Entry) :
    IsConfined (t.bounds MayFail) (t.heartbeat entry) := by
  refine isConfined_bind (isConfined_resolve rfl (.inl rfl)) fun _ => ?_
  refine isConfined_within fun tx htx => ?_
  refine isConfined_bind (isConfined_ask htx (.inl rfl)) fun current => ?_
  cases current with
  | none => exact isConfined_bind (isConfined_discard tx) fun _ => isConfined_note _
  | some bytes =>
    refine isConfined_bind (isConfined_read _) fun record => ?_
    refine isConfined_bind isConfined_mint fun etag => ?_
    refine isConfined_bind (isConfined_ask htx (.inl rfl)) fun _ => ?_
    exact isConfined_bind (isConfined_commit htx) fun _ => isConfined_note _

/-- A deletion keeps to the dictionaries of the table. -/
theorem isConfined_deleteEntries (t : Table) (clusterId : String) :
    IsConfined (t.bounds MayFail) (t.deleteEntries clusterId) := by
  refine isConfined_ite (isConfined_note _) ?_
  refine isConfined_bind (isConfined_resolve rfl (.inl rfl)) fun _ => ?_
  refine isConfined_bind (isConfined_resolve rfl (.inr rfl)) fun _ => ?_
  refine isConfined_bind (isConfined_within fun tx htx => ?_) fun count => isConfined_note _
  refine isConfined_bind (isConfined_scan rfl htx (.inl rfl)) fun rows => ?_
  refine isConfined_bind (isConfined_removeRows htx rows) fun _ => ?_
  refine isConfined_bind (isConfined_ask htx (.inr rfl)) fun _ => ?_
  refine isConfined_bind isConfined_checkCancelled fun _ => ?_
  exact isConfined_bind (isConfined_commit htx) fun _ => isConfined_pure _

/-! ## Reading -/

/-- What an action that reads makes of contents. -/
def reads? (t : Table) (c : Contents) : Action → Option (Except Stored.Fault Roster)
  | .readRow address => some (t.rowReading? c address)
  | .readAll => some (t.fullReading? c)
  | _ => none

/-- The ways in which a reading of contents may end: it answers what it makes of them, a failure was
planned, or it was told to give up. -/
inductive Answers (t : Table) (MayFail : Prop) (c : Contents) (action : Action) :
    Except Failure Answer → Prop
  /-- It answers what it makes of the contents, be it that they cannot be decoded. -/
  | read {reading : Except Stored.Fault Roster} (h : t.reads? c action = some reading) :
    Answers t MayFail c action (readingAnswer reading)
  /-- A call was planned to fail. -/
  | planned (message : String) (hmay : MayFail) :
    Answers t MayFail c action (.error (.store (.planned message)))
  /-- It was told to give up. -/
  | cancelled (hall : action = .readAll) : Answers t MayFail c action (.error .cancelled)

/-- The results of readings and the courses with which they end. -/
inductive Reads (t : Table) (MayFail : Prop) : Action → Except Failure Answer → Course → Prop
  /-- The transaction was told the row and the version. -/
  | row (tx : Ticket) (address : Address) (row stored : Option Bytes) :
    Reads t MayFail (.readRow address)
      (readingAnswer (t.reading?
        (row.toList.map fun bytes => ((t.rowCell address).key, bytes)) stored))
      ⟨.discarded tx, [⟨.read t.versionCell, stored⟩, ⟨.read (t.rowCell address), row⟩], []⟩
  /-- The transaction was told all rows and the version. -/
  | all (tx : Ticket) (rows : List Row) (stored : Option Bytes) :
    Reads t MayFail .readAll (readingAnswer (t.reading? rows stored))
      ⟨.discarded tx, [⟨.read t.versionCell, stored⟩, ⟨.scan t.stateName, rows⟩], []⟩
  /-- A call was planned to fail. -/
  | planned (action : Action) (message : String) (k : Course) (hmay : MayFail) :
    Reads t MayFail action (.error (.store (.planned message))) k
  /-- The reading was told to give up. -/
  | cancelled (k : Course) : Reads t MayFail .readAll (.error .cancelled) k

/-- A planned failure is one of the ways in which readings end. -/
theorem allowsFaults_reads (t : Table) (MayFail : Prop) (action : Action) :
    (t.bounds MayFail).AllowsFaults (t.Reads MayFail action) :=
  fun k message hmay => .planned action message k hmay

/-- A reading of all rows keeps to the dictionaries of the table and ends as a reading. -/
theorem keepsTo_readAll (t : Table) (MayFail : Prop) :
    KeepsTo (t.bounds MayFail) (t.operation .readAll) .start (t.Reads MayFail .readAll) := by
  have hfaults := t.allowsFaults_reads MayFail .readAll
  refine keepsTo_bind (keepsTo_bind (keepsTo_resolve rfl (.inl rfl) hfaults ?_))
  refine keepsTo_bind (keepsTo_resolve rfl (.inr rfl) hfaults ?_)
  refine keepsTo_bind (keepsTo_within hfaults fun tx htx => ?_)
  refine keepsTo_bind (keepsTo_scan rfl htx (.inl rfl) (fun _ => hfaults _)
    (fun _ => .cancelled _) fun rows => ?_)
  refine keepsTo_bind (keepsTo_ask_free htx (.inr rfl) rfl (fun _ => hfaults _) fun stored => ?_)
  -- What is left depends on whether the version and then the rows can be decoded.
  have hreads : t.Reads MayFail .readAll (readingAnswer (t.reading? rows stored)) _ :=
    .all tx rows stored
  refine keepsTo_bind (keepsTo_read (fun version hversion => ?_) fun fault hversion => ?_)
  · refine keepsTo_bind (keepsTo_discard tx (keepsTo_pure ?_))
    refine keepsTo_bind (keepsTo_read (fun members hmembers => ?_) fun fault hmembers => ?_)
    · refine keepsTo_bind (keepsTo_note _ (keepsTo_pure (keepsTo_pure ?_)))
      rwa [reading?_ok hversion hmembers] at hreads
    · rwa [reading?_error_members hversion hmembers] at hreads
  · rwa [reading?_error_version hversion] at hreads

/-- A reading of one row keeps to the dictionaries of the table and ends as a reading. -/
theorem keepsTo_readRow (t : Table) (MayFail : Prop) (address : Address) :
    KeepsTo (t.bounds MayFail) (t.operation (.readRow address)) .start
      (t.Reads MayFail (.readRow address)) := by
  have hfaults := t.allowsFaults_reads MayFail (.readRow address)
  refine keepsTo_bind (keepsTo_bind (keepsTo_resolve rfl (.inl rfl) hfaults ?_))
  refine keepsTo_bind (keepsTo_resolve rfl (.inr rfl) hfaults ?_)
  refine keepsTo_bind (keepsTo_within hfaults fun tx htx => ?_)
  refine keepsTo_bind (keepsTo_ask_free htx (.inl rfl) rfl (fun _ => hfaults _) fun row => ?_)
  refine keepsTo_bind (keepsTo_ask_free htx (.inr rfl) rfl (fun _ => hfaults _) fun stored => ?_)
  -- Whatever was read, the answer is that of the two readings, in the order in which they are
  -- decoded.
  have hreads : t.Reads MayFail (.readRow address) (readingAnswer (t.reading?
      (row.toList.map fun bytes => ((t.rowCell address).key, bytes)) stored)) _ :=
    .row tx address row stored
  refine keepsTo_bind (keepsTo_read (fun version hversion => ?_) fun fault hversion => ?_)
  · refine keepsTo_bind (keepsTo_discard tx (keepsTo_pure ?_))
    refine keepsTo_bind (keepsTo_read (fun members hmembers => ?_) fun fault hmembers => ?_)
    · refine keepsTo_pure (keepsTo_pure ?_)
      rwa [reading?_ok hversion hmembers] at hreads
    · rwa [reading?_error_members hversion hmembers] at hreads
  · rwa [reading?_error_version hversion] at hreads

/-- A reading keeps to the bounds of the table and ends in one of few ways. -/
theorem keepsTo_reading {action : Action} (t : Table) (MayFail : Prop)
    (hread : action.isRead = true) :
    KeepsTo (t.bounds MayFail) (t.operation action) .start (t.Reads MayFail action) := by
  cases action with
  | readRow address => exact t.keepsTo_readRow MayFail address
  | readAll => exact t.keepsTo_readAll MayFail
  | _ => exact absurd hread (by simp [Action.isRead])

/-- **No operation goes beyond the dictionaries of its table.** -/
theorem keepsTo_operation (t : Table) (MayFail : Prop) (action : Action) :
    ∃ Q, KeepsTo (t.bounds MayFail) (t.operation action) .start Q := by
  -- Each operation on the table keeps to its store; what it answers matters for the readings alone.
  cases action with
  | readRow address => exact ⟨_, t.keepsTo_reading MayFail rfl⟩
  | readAll => exact ⟨_, t.keepsTo_reading MayFail rfl⟩
  | prepare createVersion =>
    exact ⟨_, isConfined_bind (t.isConfined_prepare createVersion) (fun _ => isConfined_pure _) _⟩
  | insertRow entry expected =>
    exact ⟨_, isConfined_bind (t.isConfined_insertRow entry expected) (fun _ => isConfined_pure _) _⟩
  | updateRow entry etag expected =>
    exact ⟨_, isConfined_bind (t.isConfined_updateRow entry etag expected)
      (fun _ => isConfined_pure _) _⟩
  | heartbeat entry =>
    exact ⟨_, isConfined_bind (t.isConfined_heartbeat entry) (fun _ => isConfined_pure _) _⟩
  | deleteEntries clusterId =>
    exact ⟨_, isConfined_bind (t.isConfined_deleteEntries clusterId) (fun _ => isConfined_pure _) _⟩

section Answers

variable {action : Action} {c c' : Contents} {result : Except Failure Answer}
  {reading : Except Stored.Fault Roster}

/-- Readings look at the dictionaries of their table only. -/
theorem reads?_congr (h : c.AgreeOn t.Owns c') (action : Action) :
    t.reads? c action = t.reads? c' action := by
  have hversion : c.find? t.versionCell = c'.find? t.versionCell := h _ (.inr rfl)
  cases action with
  | readRow address =>
    have hrow : c.find? (t.rowCell address) = c'.find? (t.rowCell address) := h _ (.inl rfl)
    rw [reads?, reads?, rowReading?, rowReading?, hrow, hversion]
  | readAll =>
    have hrows : c.rows t.stateName = c'.rows t.stateName :=
      Contents.rows_congr fun key => h ⟨t.stateName, key⟩ (.inl rfl)
    rw [reads?, reads?, fullReading?, fullReading?, hrows, hversion]
  | _ => rfl

/-- What an operation answers depends on the cells of its table only. -/
theorem Answers.congr (h : t.Answers MayFail c action result) (hsame : c.AgreeOn t.Owns c') :
    t.Answers MayFail c' action result := by
  cases h with
  | read hread => exact .read (reads?_congr hsame action ▸ hread)
  | planned message hmay => exact .planned message hmay
  | cancelled hall => exact .cancelled hall

/-- A reading of a history answers what it makes of the contents at which its transaction began. -/
theorem Reads.answers {ι ρ : Type} {S : Setting ι ρ} {h : History ι ρ} {s : Store} {id : TaskId}
    {job : Job ι} (hreads : t.Reads MayFail action result job.course) (hf : S.AllFit h s)
    (hjob : h.jobs[id]? = some job) : t.Answers MayFail (h.past job.opening) action result := by
  have hcloses : ∀ {tx : Ticket}, job.course.stage = .discarded tx →
      ∃ tx, Transaction.Replays (h.past job.closing) (.begin (h.past job.opening))
        job.course.requests tx := by
    intro tx hstage
    obtain ⟨tx, hcloses⟩ := hf.closes hjob fun tx' hopened =>
      absurd (hstage.symm.trans hopened) (by simp)
    exact ⟨tx, hcloses.replays⟩
  generalize job.course = k at hreads hcloses
  -- A reading is made at its opening, since it reads without locks.
  cases hreads with
  | row tx address row stored =>
    obtain ⟨tx', hreplays⟩ := hcloses rfl
    obtain ⟨hread, rfl⟩ := Transaction.Replays.read hreplays
    obtain ⟨rfl, rfl⟩ := Transaction.Replays.read hread
    exact .read rfl
  | all tx rows stored =>
    obtain ⟨tx', hreplays⟩ := hcloses rfl
    obtain ⟨hread, rfl⟩ := Transaction.Replays.read hreplays
    obtain ⟨rfl, rfl⟩ := Transaction.Replays.scan hread
    exact .read rfl
  | planned action message k hmay => exact .planned message hmay
  | cancelled k => exact .cancelled rfl

/-- A reading that runs alone answers what it makes of the committed contents. -/
theorem run_reading {w : World} {site : Site} {me : Context}
    (hquiet : w.IsQuiet t.store site fun _ => False) (hcancelled : me.isCancelled = false)
    (htrigger : me.trigger = .never) (hread : t.reads? site.store.committed action = some reading) :
    ∃ w' me', w.run me (t.program action) = (w', me', .done (readingAnswer reading)) := by
  cases action with
  | readRow address =>
    obtain rfl := Option.some.inj hread
    exact run_readRow hquiet me address
  | readAll =>
    obtain rfl := Option.some.inj hread
    exact run_readAll hquiet hcancelled htrigger
  | _ => exact absurd hread (by simp [reads?])

end Answers

end Muster.Table
