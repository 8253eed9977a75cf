import Muster.Proofs.Activity.Kept
import Muster.Proofs.Gateways.Listing

/-!
# Refreshes list the gateways of one snapshot

A refresh that returns has read the rows of one moment of its own, whatever else goes on in the
store, and what it returns is the list of their gateways (`refresh_lists_gateways`). The table with
the same dictionary and codec is read in another way, which fails at the first row that does not
decode; where it does not fail on the same rows, its members that are gateways are what a refresh
lists.
-/

namespace Muster.Activity

open GatewayList (IsListing Decodes)
open Setting (AllFit Closes)

variable {store : String} {world : World} {moves : List (Move (Activity store))} {id : TaskId}
  {s : Store} {job : Job (Activity store)}

/-- What an activity has returned is borne out by its own moments. -/
theorem exists_closes {result : Except Failure Answer}
    (hf : (setting store).AllFit ((setting store).run world moves) s)
    (hjob : ((setting store).run world moves).jobs[id]? = some job)
    (hresult : ((setting store).run world moves).result? id = some result) :
    job.what.Ends result job.course ∧
      ∃ tx, Closes ((setting store).run world moves) id job tx := by
  obtain ⟨job', trail, steps, hd⟩ := exists_done hf hresult
  obtain rfl := Option.some.inj (hjob.symm.trans hd.known)
  exact ⟨hd.ends, hf.closes hjob hd.ends.not_opened⟩

/-- The members that a reading of all rows returns are those of its snapshot. -/
theorem members_of_snapshot {t : Table} {on : t.store = store} {roster : Table.Roster}
    (hf : (setting store).AllFit ((setting store).run world moves) s)
    (hjob : ((setting store).run world moves).jobs[id]? = some job)
    (hwhat : job.what = .table t on .readAll)
    (hresult : ((setting store).run world moves).result? id =
      some (.ok (.table (.roster roster)))) :
    Table.entriesOf? t.codec
      ((((setting store).run world moves).past job.opening).rows t.stateName) =
        .ok roster.members := by
  obtain ⟨hends, tx, hcloses⟩ := exists_closes hf hjob hresult
  rw [hwhat] at hends
  cases hends with
  | table ho =>
    have heffect := ho.effect hcloses.replays hcloses.applied hcloses.still
    generalize job.course.etags = etags at heffect
    cases heffect with
    | allRead members version hversion hmembers hafter => exact hmembers

/-- **A refresh lists the gateways of one snapshot.** A refresh that has returned has taken a
snapshot at one of its moments; it has returned, in the order of their keys, the URIs of the rows
there that decode and belong to an active silo with a gateway. Rows that do not decode change
nothing, and no gateway is left out, as every address has a URI. So where the table of the same
dictionary and codec was read on the same rows, the list is that of its members with a gateway. -/
theorem refresh_lists_gateways {g : GatewayList} {on : g.store = store} {uris : List Uri}
    (hstore : world.store? store = some s) (moves : List (Move (Activity store)))
    (hjob : ((setting store).run world moves).jobs[id]? = some job)
    (hwhat : job.what = .refresh g on)
    (hresult : ((setting store).run world moves).result? id = some (.ok (.gateways uris))) :
    let h := (setting store).run world moves
    let seen := h.past job.opening
    (h.who job.opening = some id ∧ job.started ≤ job.opening ∧ job.opening ≤ job.last) ∧
    (∃ listed, IsListing g.codec seen g.stateName listed ∧
      uris.map Except.ok = listed.map fun gateway => gateway.2.gatewayUri?) ∧
    (∀ c : Contents, (∀ key, c.find? ⟨g.stateName, key⟩ = seen.find? ⟨g.stateName, key⟩ ∨
        c.find? ⟨g.stateName, key⟩ = none ∧ ∃ bytes, seen.find? ⟨g.stateName, key⟩ = some bytes ∧
          ∀ entry, ¬ Decodes g.codec bytes entry) →
      GatewayList.ofRows g.codec (c.rows g.stateName) = uris) ∧
    (∀ (address : Silo.Address) (port : UInt16),
      ∃ uri, Silo.Gateway.uri? address port = .ok uri) ∧
    ∀ (id' : TaskId) (job' : Job (Activity store)) (t : Table) (on' : t.store = store)
      (roster : Table.Roster), h.jobs[id']? = some job' → job'.what = .table t on' .readAll →
      h.result? id' = some (.ok (.table (.roster roster))) →
      t.stateName = g.stateName → t.codec = g.codec →
      (h.past job'.opening).rows t.stateName = seen.rows g.stateName →
      uris.map Except.ok =
        ((roster.members.map Prod.fst).filter Silo.Entry.isGateway).map Silo.Entry.gatewayUri? := by
  intro h seen
  obtain ⟨s', hf⟩ := Setting.fits_run (isDisciplined store) hstore moves
  obtain ⟨hends, tx, hcloses⟩ := exists_closes hf hjob hresult
  rw [hwhat] at hends
  -- The refresh has listed the rows of its snapshot.
  have hreads : uris = GatewayList.ofRows g.codec (seen.rows g.stateName) := by
    cases hends with
    | refresh ho => exact (ho.reads hcloses.replays).1
  have hlisting := GatewayList.isListing_rows g.codec seen g.stateName
  refine ⟨⟨hcloses.who.1, hcloses.opening.1, Nat.le_trans hcloses.opening.2 hcloses.closing.1⟩,
    ⟨_, hlisting, ?_⟩, fun c hcells => ?_, fun address port => ⟨_, Silo.Gateway.uri?_eq ..⟩, ?_⟩
  -- The listing of these rows is what `ofRows` makes of them.
  · rw [hreads]
    exact hlisting.ofRows
  -- Rows that cannot be decoded are in no listing.
  · have hsame := (hlisting.of_undecodable hcells).ofRows
    rw [← hlisting.ofRows, ← hreads] at hsame
    exact List.map_injective_iff.2 (fun _ _ => Except.ok.inj) hsame
  -- A full reading of the same rows decodes all of them, so its gateways are those of the listing.
  · intro id' job' t on' roster hjob' hwhat' hresult' hname hcodec hsame
    have hmembers := members_of_snapshot hf hjob' hwhat' hresult'
    rw [hsame, hcodec] at hmembers
    rw [hreads]
    exact GatewayList.ofRows_of_entriesOf? hmembers

/-! ## A refresh and a reading of the same rows -/

namespace Sample

/-- The entry of a silo without a gateway, next to the one that has one. -/
def neighbour : Silo.Entry :=
  { Table.Sample.entry with address := ⟨.v4 ⟨10, 0, 0, 2⟩ 11111, 1⟩ }

/-- A store with the rows of both silos. -/
def rowsStore : Store :=
  { Store.empty with
    committed := [gateway, neighbour].foldl (fun c entry =>
      c.insert (Table.Sample.table.rowCell entry.address)
        (Table.Sample.table.rowBytes entry "0")) SortedMap.empty }

/-- A world with this store. -/
def rowsWorld : World :=
  { Table.Sample.world with
    sites := SortedMap.empty.insert "main"
      { Site.empty Site.defaultLockTimeout with store := rowsStore } }

/-- The small table is on the store of the small world. -/
theorem store_table : Table.Sample.table.store = "main" :=
  rfl

/-- A reading of all rows of the table. -/
def reading : Activity "main" :=
  .table Table.Sample.table store_table .readAll

/-- The list is refreshed, and the table is read. -/
def listedMoves : List (Move (Activity "main")) :=
  .start refresh false .never :: List.replicate 19 (.call 0) ++
    .start reading false .never :: List.replicate 24 (.call 1)

/-- The history of a refresh and a reading. -/
def listed : Run "main" :=
  (setting "main").run rowsWorld listedMoves

/-- Whether an activity is a refresh. -/
def isRefresh : Activity "main" → Bool
  | .refresh _ _ => true
  | .table _ _ _ => false

/-- The gateways that were returned. -/
def uris? : Except Failure Answer → Option (List Uri)
  | .ok (.gateways uris) => some uris
  | _ => none

/-- The roster that was returned. -/
def roster? : Except Failure Answer → Option Table.Roster
  | .ok (.table (.roster roster)) => some roster
  | _ => none

/-- The URIs are the whole answer of a refresh. -/
theorem eq_of_uris? {result : Except Failure Answer} {uris : List Uri}
    (h : uris? result = some uris) : result = .ok (.gateways uris) := by
  unfold uris? at h
  split at h
  · rw [Option.some.inj h]
  · exact absurd h (by simp)

/-- The roster is the whole answer of a reading. -/
theorem eq_of_roster? {result : Except Failure Answer} {roster : Table.Roster}
    (h : roster? result = some roster) : result = .ok (.table (.roster roster)) := by
  unfold roster? at h
  split at h
  · rw [Option.some.inj h]
  · exact absurd h (by simp)

/-- What was started in the sample. -/
theorem what_listed {id : TaskId} {job : Job (Activity "main")}
    (hjob : listed.jobs[id]? = some job) :
    job.what = if isRefresh job.what then refresh else reading := by
  unfold listed at hjob
  obtain ⟨isCancelled, trigger, hmem⟩ := Setting.exists_start _ _ _ hjob
  simp only [listedMoves, List.cons_append, List.mem_cons, List.mem_append, List.mem_replicate,
    Move.start.injEq, reduceCtorEq, and_false, false_or, or_false] at hmem
  rcases hmem with ⟨hwhat, -⟩ | ⟨hwhat, -⟩
  · rw [hwhat]
    rfl
  · rw [hwhat]
    rfl

end Sample

/-- The refresh has listed the one gateway among the members that the reading has returned. -/
theorem refresh_lists_gateways_listed :
    Sample.rowsWorld.store? "main" = some Sample.rowsStore ∧
    ∃ job uris, Sample.listed.jobs[0]? = some job ∧ job.what = Sample.refresh ∧
      Sample.listed.result? 0 = some (.ok (.gateways uris)) ∧ uris.length = 1 ∧
      ∃ roster : Table.Roster,
        Sample.listed.result? 1 = some (.ok (.table (.roster roster))) ∧
        uris.map Except.ok =
          ((roster.members.map Prod.fst).filter Silo.Entry.isGateway).map
            Silo.Entry.gatewayUri? := by
  have hrun : Sample.listed.jobs.map (fun job => Sample.isRefresh job.what) = [true, false] ∧
      Sample.listed.jobs.map (fun job => (Sample.listed.past job.opening).rows "members") =
        List.replicate 2 (Sample.rowsStore.committed.rows "members") ∧
      ((Sample.listed.result? 0).bind Sample.uris?).map List.length = some 1 ∧
      ((Sample.listed.result? 1).bind Sample.roster?).isSome = true := by
    decide +kernel
  obtain ⟨hkinds, hrows, huris, hroster⟩ := hrun
  -- There are two jobs, the refresh and the reading, and both have returned.
  obtain ⟨job, rest, hjobs, hkind, hrest⟩ := List.map_eq_cons_iff.1 hkinds
  obtain ⟨job', rest', rfl, hkind', hrest'⟩ := List.map_eq_cons_iff.1 hrest
  obtain rfl := List.map_eq_nil_iff.1 hrest'
  have hjob : Sample.listed.jobs[0]? = some job := by rw [hjobs]; rfl
  have hjob' : Sample.listed.jobs[1]? = some job' := by rw [hjobs]; rfl
  have hwhat := Sample.what_listed hjob
  have hwhat' := Sample.what_listed hjob'
  rw [hkind, if_pos rfl] at hwhat
  rw [hkind', if_neg (by simp)] at hwhat'
  obtain ⟨uris, huris, hlength⟩ := Option.map_eq_some_iff.1 huris
  obtain ⟨result, hresult, huris⟩ := Option.bind_eq_some_iff.1 huris
  obtain ⟨roster, hroster⟩ := Option.isSome_iff_exists.1 hroster
  obtain ⟨result', hresult', hroster⟩ := Option.bind_eq_some_iff.1 hroster
  rw [Sample.eq_of_uris? huris] at hresult
  rw [Sample.eq_of_roster? hroster] at hresult'
  -- Both have seen the same rows.
  rw [hjobs, List.map_cons, List.map_singleton] at hrows
  obtain ⟨hseen, hseen'⟩ := List.cons.inj hrows
  have hsame := (List.cons.inj hseen').1.trans hseen.symm
  refine ⟨rfl, job, uris, hjob, hwhat, hresult, hlength, roster, hresult', ?_⟩
  unfold Sample.listed at hjob hjob' hresult hresult' hsame
  exact (refresh_lists_gateways rfl Sample.listedMoves hjob hwhat hresult).2.2.2.2 1 job'
    Table.Sample.table rfl roster hjob' hwhat' hresult' rfl rfl hsame

end Muster.Activity
