import Muster.Proofs.Table.Ledger

/-!
# A deletion is a full reset

Whatever a store keeps, readable or not, a deletion for the cluster of a table that runs alone
clears the rows and the version record of the table and nothing else. Behind it the contents bear
the ledger that keeps nothing, as an empty store does, so from then on every sequence of operations
has the answers that it has on a new table over an empty store, up to the names of the etags that
are minted (`answers_of_holds`, by induction on the sequence with `exists_runAlone` for each step).
A deletion for another cluster does nothing. All this is put together in `deletion_resets`.
-/

namespace Muster.Table

open Operation

/-! ## Sequences of actions -/

/-- An action that runs alone and is not told to give up: the world afterwards, and the answer if
the action comes to an end. -/
def runAlone (t : Table) (w : World) (action : Action) : World × Option (Except Failure Answer) :=
  match w.run (.start false .never) (t.program action) with
  | (w', _, .done result) => (w', some result)
  | (w', _, .call _ _) => (w', none)

/-- The answers of actions that run alone, one after another. -/
def answersAlone (t : Table) (w : World) : List Action → List (Option (Except Failure Answer))
  | [] => []
  | action :: rest => (t.runAlone w action).2 :: t.answersAlone (t.runAlone w action).1 rest

/-- What a ledger answers to actions, one after another. -/
def Ledger.answers (l : Ledger) (t : Table) : List Action → List (Except Failure Answer)
  | [] => []
  | action :: rest => (l.act t action).1 :: (l.act t action).2.answers t rest

/-- A quiet world keeps the records of a ledger, and its next `n` etags are those of the ledger, all
renamed. -/
def Holds (t : Table) (ρ : String → String) (n : Nat) (l : Ledger) (w : World) : Prop :=
  ∃ site, w.IsQuiet t.store site (fun _ => True) ∧ t.Bears ρ l site.store.committed ∧
    l.etags.Renames ρ n w.etags

variable {t : Table} {w : World} {site : Site} {ρ : String → String} {l : Ledger} {n : Nat}

/-- One action has the answer of the ledger, and the world holds the ledger afterwards. -/
theorem exists_runAlone (h : t.Holds ρ (n + 2) l w) (hzero : ρ "0" = "0")
    (hinjective : Function.Injective ρ) (action : Action) : ∃ w',
      t.runAlone w (action.rename ρ) = (w', some ((l.act t action).1.map (Answer.rename ρ))) ∧
        t.Holds ρ n (l.act t action).2 w' := by
  obtain ⟨site, hquiet, hbears, hnames⟩ := h
  obtain ⟨w', me', result, site', hrun, hquiet', -, hfollows⟩ :=
    hquiet.run_quiet (.start false .never)
      (does_act hbears ⟨rfl, rfl⟩ (fun _ => trivial) hzero hinjective hnames action)
      fun _ _ hfollows => hfollows.current
  refine ⟨w', ?_, site', hquiet', hfollows.bears, hfollows.etags⟩
  rw [runAlone, hrun, ← hfollows.result]

/-- **A sequence of actions has the answers of the ledger**, with all etags renamed. -/
theorem answers_of_holds (hzero : ρ "0" = "0") (hinjective : Function.Injective ρ)
    (actions : List Action) (h : t.Holds ρ (2 * actions.length) l w) :
    t.answersAlone w (actions.map (Action.rename ρ)) =
      (l.answers t actions).map fun answer => some (answer.map (Answer.rename ρ)) := by
  -- The ledger carries the induction; each action takes two of the etags that are left.
  induction actions generalizing l w with
  | nil => rfl
  | cons action rest ih =>
    obtain ⟨w', hrun, hholds⟩ := exists_runAlone h hzero hinjective action
    rw [List.map_cons, answersAlone, hrun, ih hholds]
    rfl

/-- The ledger that keeps nothing is held where the table has no rows and no version record. -/
theorem holds_fresh (hquiet : w.IsQuiet t.store site (fun _ => True))
    (hrows : ∀ key, site.store.committed.find? ⟨t.stateName, key⟩ = none)
    (hversion : site.store.committed.find? t.versionCell = none) {etags : Etag.Source}
    (hnames : etags.Renames ρ n w.etags) : t.Holds ρ n (.fresh etags) w :=
  ⟨site, hquiet, bears_fresh ρ etags hrows hversion, hnames⟩

/-! ## Resets -/

/-- The table of the same name, cluster and codec, used by another owner over another store. -/
def moved (t : Table) (owner store : String) : Table :=
  { t with owner, store }

/-- Nothing that the table keeps is left, and all the rest is as it was. -/
structure IsReset (t : Table) (before after : Contents) : Prop where
  /-- The dictionary of the rows has no key. -/
  rows : ∀ key, after.find? ⟨t.stateName, key⟩ = none
  /-- There is no version record. -/
  version : after.find? t.versionCell = none
  /-- The other dictionaries, and the other keys of the dictionary of the version, keep their
  bytes. -/
  others : ∀ cell, cell.dictionary ≠ t.stateName → cell ≠ t.versionCell →
    after.find? cell = before.find? cell

/-- From a world on, sequences of actions have the answers that they have on the same table over any
empty store, up to a permutation that takes the etags minted here to those minted there and moves no
other texts. An action mints two etags at most. Sequences are compared for as long as neither source
mints an etag twice, and none does before its count wraps around; the caller of an update could tell
an etag that comes back. -/
def IsLikeNew (t : Table) (w : World) : Prop :=
  ∀ (owner store : String) (fresh : World) (site : Site),
    fresh.IsQuiet store site (fun _ => True) → site.store.committed = .empty →
    ∀ n, (w.etags.take (2 * n)).Nodup → (fresh.etags.take (2 * n)).Nodup →
      ∃ ρ : Equiv.Perm String, w.etags.Renames ρ (2 * n) fresh.etags ∧
        (∀ etag, etag ∉ w.etags.take (2 * n) → etag ∉ fresh.etags.take (2 * n) → ρ etag = etag) ∧
        ∀ actions : List Action, actions.length ≤ n →
          (∀ answer ∈ t.answersAlone w actions, answer.isSome = true) ∧
          (t.moved owner store).answersAlone fresh (actions.map (Action.rename ρ)) =
            (t.answersAlone w actions).map (Option.map (Except.map (Answer.rename ρ)))

/-- A deletion for the cluster of the table clears what the table keeps. -/
theorem does_reset (t : Table) {sites : SortedMap String Site} {IsUntold : Prop} {c : Contents}
    {source : Etag.Source} (hcalm : IsUntold) :
    Program.Does (t.solo sites (fun _ => True) IsUntold) ⟨c, none, source⟩
      (t.program (.deleteEntries t.clusterId)) fun result k =>
        result = .ok .done ∧ t.IsReset c k.committed ∧ k.current = none := by
  refine does_bind (does_deleteEntries hcalm (fun _ => trivial) fun c' hafter =>
    does_pure ⟨rfl, ⟨fun key => ?_, ?_, fun cell hdictionary hcell => ?_⟩, rfl⟩)
  · rw [hafter, if_pos (.inr rfl)]
  · rw [hafter, if_pos (.inl rfl)]
  · rw [hafter, if_neg (not_or.2 ⟨hcell, hdictionary⟩)]

/-- The answers of a ledger depend neither on the owner of a table nor on its store. -/
theorem Ledger.answers_moved (owner store : String) (actions : List Action) :
    l.answers (t.moved owner store) actions = l.answers t actions := by
  induction actions generalizing l with
  | nil => rfl
  | cons action rest ih => exact congrArg (List.cons (l.act t action).1) ih

/-- Where nothing is left of a table, it is like new. -/
theorem isLikeNew_of_isReset {before : Contents} (hquiet : w.IsQuiet t.store site (fun _ => True))
    (hreset : t.IsReset before site.store.committed) : t.IsLikeNew w := by
  intro owner store fresh newSite hfresh hempty n hnodup hnodup'
  obtain ⟨ρ, hnames, hfixed⟩ := Etag.exists_renaming hnodup hnodup'
  have hzero : ρ "0" = "0" :=
    hfixed "0" (Etag.Source.zero_notMem_take _ _) (Etag.Source.zero_notMem_take _ _)
  refine ⟨ρ, hnames, hfixed, fun actions hlength => ?_⟩
  -- Both worlds hold the same ledger, one of them under the renaming.
  have hholds : t.Holds id (2 * actions.length) (.fresh w.etags) w :=
    holds_fresh hquiet hreset.rows hreset.version (.refl _ _)
  have hholds' : (t.moved owner store).Holds ρ (2 * actions.length) (.fresh w.etags) fresh :=
    holds_fresh hfresh (fun key => by rw [hempty]; rfl) (by rw [hempty]; rfl)
      (hnames.mono (by omega))
  -- Here nothing is renamed, so the answers are those of the ledger as they are.
  have hanswers : t.answersAlone w actions =
      ((Ledger.fresh w.etags).answers t actions).map some := by
    have h := answers_of_holds rfl Function.injective_id actions hholds
    rwa [Action.rename_id, Answer.rename_id, Except.map_id, List.map_id] at h
  have hanswers' := answers_of_holds hzero ρ.injective actions hholds'
  rw [Ledger.answers_moved] at hanswers'
  refine ⟨fun answer hanswer => ?_, ?_⟩
  · rw [hanswers] at hanswer
    obtain ⟨_, -, rfl⟩ := List.mem_map.1 hanswer
    rfl
  · rw [hanswers', hanswers, List.map_map]
    rfl

/-- **A deletion is a full reset, and of its own table only.** In every quiet world, whatever is
stored, a deletion for the cluster of the table is done. It leaves no row and no version record,
nothing else has changed, and from then on the table is like a new one over an empty store. For any
other cluster a deletion is done and changes no store, whatever else goes on and whether or not it
has been told to give up. -/
theorem deletion_resets (t : Table) :
    (∀ (w : World) (site : Site), w.IsQuiet t.store site (fun _ => True) → ∃ w' site',
      t.runAlone w (.deleteEntries t.clusterId) = (w', some (.ok .done)) ∧
        w'.IsQuiet t.store site' (fun _ => True) ∧
        t.IsReset site.store.committed site'.store.committed ∧
        (∀ name, name ≠ t.store → w'.sites.find? name = w.sites.find? name) ∧
        t.IsLikeNew w') ∧
    ∀ clusterId, clusterId ≠ t.clusterId → ∀ (w : World) (me : Context), ∃ w' me',
      w.run me (t.program (.deleteEntries clusterId)) = (w', me', .done (.ok .done)) ∧
        w'.sites = w.sites := by
  refine ⟨fun w site hquiet => ?_, fun clusterId hne w me => ?_⟩
  · obtain ⟨w', me', result, site', hrun, hquiet', hothers, hresult, hreset, -⟩ :=
      hquiet.run_quiet (.start false .never) (t.does_reset ⟨rfl, rfl⟩) fun _ _ h => h.2.2
    refine ⟨w', site', ?_, hquiet', hreset, hothers, isLikeNew_of_isReset hquiet' hreset⟩
    rw [runAlone, hrun, hresult]
  · -- The program only tells that it ignores the request, so it never waits.
    have hprogram : t.program (.deleteEntries clusterId) =
        .call (.note (.ignoredDelete clusterId t.clusterId)) fun _ => .done (.ok .done) := by
      show (t.operation (.deleteEntries clusterId)).run = _
      rw [operation, deleteEntries, if_pos hne]
      rfl
    refine ⟨{ w with notices := .ignoredDelete clusterId t.clusterId :: w.notices }, me, ?_, rfl⟩
    rw [hprogram]
    rfl

namespace Sample

/-- Contents with a row and a version record that nobody can read, and with a key beside the version
that does not belong to the table. -/
def litter : Contents :=
  ((SortedMap.empty.insert ⟨"members", "row"⟩ [0x7b, 0xff]).insert table.versionCell [0x00]).insert
    ⟨"members.version", "other"⟩ [0x01]

/-- A store with these contents. -/
def litteredSite : Site :=
  { Site.empty Site.defaultLockTimeout with store := { Store.empty with committed := litter } }

/-- A world with that store. -/
def litteredWorld : World :=
  { world with sites := SortedMap.empty.insert "main" litteredSite }

/-- Nothing stands in the way in the littered world. -/
theorem isQuiet_litteredWorld : litteredWorld.IsQuiet "main" litteredSite fun _ => True :=
  isQuiet_sole rfl rfl rfl _ _

/-- A world with an empty store that mints other etags. -/
def newWorld : World :=
  { world with etags := ⟨7, fun _ => 1⟩ }

/-- Nothing stands in the way in the new world. -/
theorem isQuiet_newWorld :
    newWorld.IsQuiet "main" (Site.empty Site.defaultLockTimeout) fun _ => True :=
  isQuiet_sole rfl rfl rfl _ _

/-- A silo joins, says that it is alive, and is read. -/
def joining : List Action :=
  [.insertRow entry .initial, .heartbeat entry, .readAll]

end Sample

/-- What nobody can read is deleted, what does not belong to the table stays, and then a silo joins
as on a new table. For another cluster nothing is deleted. -/
theorem deletion_resets_litter :
    (∃ (w' : World) (site' : Site),
      Sample.table.runAlone Sample.litteredWorld (.deleteEntries "cluster") =
        (w', some (.ok .done)) ∧
      w'.sites.find? "main" = some site' ∧
      site'.store.committed.find? ⟨"members", "row"⟩ = none ∧
      site'.store.committed.find? Sample.table.versionCell = none ∧
      site'.store.committed.find? ⟨"members.version", "other"⟩ = some [0x01] ∧
      ∃ ρ : Equiv.Perm String, (Sample.table.moved "new" "main").answersAlone Sample.newWorld
          (Sample.joining.map (Action.rename ρ)) =
        (Sample.table.answersAlone w' Sample.joining).map
          (Option.map (Except.map (Answer.rename ρ)))) ∧
    ∃ w' me', Sample.litteredWorld.run (.start true .never)
        (Sample.table.program (.deleteEntries "elsewhere")) = (w', me', .done (.ok .done)) ∧
      w'.sites = Sample.litteredWorld.sites := by
  obtain ⟨hown, hforeign⟩ := deletion_resets Sample.table
  -- The other row of the store is not the table's, and stays.
  obtain ⟨w', site', hrun, hquiet, hreset, -, hnew⟩ := hown _ _ Sample.isQuiet_litteredWorld
  have hfew : 2 * 3 ≤ Etag.limit := by decide
  -- Three etags on either side, none of them twice.
  obtain ⟨ρ, -, -, hanswers⟩ := hnew "new" "main" _ _ Sample.isQuiet_newWorld rfl 3
    (Etag.Source.nodup_take _ hfew) (Etag.Source.nodup_take _ hfew)
  have hother : site'.store.committed.find? ⟨"members.version", "other"⟩ = some [0x01] :=
    (hreset.others _ (by decide) (by decide)).trans (by decide)
  exact ⟨⟨w', site', hrun, hquiet.found, hreset.rows _, hreset.version, hother, ρ,
    (hanswers _ (by decide)).2⟩,
    hforeign "elsewhere" (by decide) Sample.litteredWorld (.start true .never)⟩

end Muster.Table
