import Muster.Proofs.Activity.Phases

/-!
# The latest refresh

Of the lists that refreshes have returned, the one is kept whose refresh has read the clock last,
and among those that have read it at the same instant the one that was returned last
(`latest_is_kept`). Refreshes may overlap in any way, so the order in which they read the clock and
the order in which they come to their end have nothing to do with each other; and refreshes that
fail, are told to give up or are dropped leave no trace.

What is kept is the latest of the completed lists (`Keeps`). Every move keeps this invariant,
because the last step of a refresh hands in its list, or a later one was kept before it
(`exists_completes`), while a list that comes to be kept is that of a refresh that completes
(`Installs.completes`).
-/

namespace Muster

open GatewayList (Phase)

variable {owner : String} {instant : Nat}

namespace Activity

variable {store : String} {world : World} {moves : List (Move (Activity store))}
  {move : Move (Activity store)} {id : TaskId} {list : KeptList} {n : Nat}

/-- The name under which an activity looks up its dictionaries. -/
def ownName : Activity store → String
  | .table t _ _ => t.owner
  | .refresh g _ => g.owner

/-- The phase in which an activity ends: a refresh that has returned has handed in what it has
returned, and nothing else hands anything in. -/
def HandsIn : Activity store → Except Failure Answer → Phase → Prop
  | .table _ _ _, _, phase => phase = .fresh
  | .refresh _ _, .ok (.gateways uris), phase => ∃ list, phase = .handed list ∧ list.gateways = uris
  | .refresh _ _, .ok (.table _), _ => False
  | .refresh _ _, .error _, phase => ∀ list, phase ≠ .handed list

/-- Every activity goes through the phases of a refresh of its own list, or through none. -/
theorem refreshes_program (activity : Activity store) :
    activity.program.Refreshes activity.ownName activity.HandsIn .fresh := by
  cases activity with
  | table t on action =>
    refine Program.IsPlain.refreshes_bind (t.isPlain_operation action) fun result => ?_
    cases result with
    | ok answer => exact rfl
    | error failure => exact rfl
  | refresh g on =>
    refine Program.Refreshes.wrap g.refreshes_refresh fun result => ?_
    cases result with
    | ok uris => exact ⟨_, rfl, fun phase hphase => hphase⟩
    | error failure => exact ⟨_, rfl, fun phase hphase => hphase⟩

/-! ## Refreshes that complete -/

/-- With the move behind `moves`, a refresh for an owner completes: it returns the gateways of a
list, and the instant of the list is the one at which it has read the clock. -/
structure Completes (world : World) (owner : String) (moves : List (Move (Activity store)))
    (move : Move (Activity store)) (id : TaskId) (list : KeptList) : Prop where
  /-- It is a refresh for the owner. -/
  refresh : ∃ job g on, ((setting store).run world (moves ++ [move])).jobs[id]? = some job ∧
    job.what = .refresh g on ∧ g.owner = owner
  /-- It has not returned before. -/
  before : ((setting store).run world moves).result? id = none
  /-- It has returned behind the move. -/
  behind : ((setting store).run world (moves ++ [move])).result? id =
    some (.ok (.gateways list.gateways))
  /-- It has read the clock. -/
  read : (setting store).HasRead world moves id list.startedAt

/-- A refresh for an owner has completed with the `n`-th move of a run. -/
def HasCompleted (world : World) (owner : String) (moves : List (Move (Activity store))) (n : Nat)
    (id : TaskId) (list : KeptList) : Prop :=
  ∃ front move, front ++ [move] <+: moves ∧ front.length = n ∧
    Completes world owner front move id list

/-- The refreshes that one more move completes are those completed before and the one that it
completes. -/
theorem hasCompleted_concat : HasCompleted world owner (moves ++ [move]) n id list ↔
    HasCompleted world owner moves n id list ∨
      n = moves.length ∧ Completes world owner moves move id list := by
  constructor
  · rintro ⟨front, last, hfront, rfl, hcompletes⟩
    rcases List.prefix_concat_iff.1 hfront with hall | hold
    · obtain ⟨rfl, hlast⟩ := List.append_inj' hall rfl
      obtain rfl := List.singleton_inj.1 hlast
      exact .inr ⟨rfl, hcompletes⟩
    · exact .inl ⟨front, last, hold, rfl, hcompletes⟩
  · rintro (⟨front, last, hfront, hlength, hcompletes⟩ | ⟨rfl, hcompletes⟩)
    · exact ⟨front, last, hfront.trans (List.prefix_append _ _), hlength, hcompletes⟩
    · exact ⟨moves, move, List.prefix_rfl, rfl, hcompletes⟩

/-- A refresh is completed at one of the moves of the run. -/
theorem HasCompleted.lt (h : HasCompleted world owner moves n id list) : n < moves.length := by
  obtain ⟨front, move, hfront, rfl, -⟩ := h
  have hle := hfront.length_le
  rw [List.length_append, List.length_singleton] at hle
  exact hle

/-- A refresh has read the clock once. -/
theorem hasRead_unique {job : Job (Activity store)} {result : Except Failure Answer}
    {instant' : Nat} (hjob : ((setting store).run world moves).jobs[id]? = some job)
    (hresult : ((setting store).run world moves).result? id = some result)
    (hread : (setting store).HasRead world moves id instant)
    (hread' : (setting store).HasRead world moves id instant') : instant' = instant := by
  obtain ⟨phase, hp⟩ := (setting store).inPhase_run world moves hjob job.what.refreshes_program
    (Setting.result?_eq_some_iff.1 hresult)
  exact Option.some.inj (((hp.read _).1 hread').symm.trans ((hp.read _).1 hread))

/-- A refresh is not done from the start. -/
theorem refresh_not_done {g : GatewayList} {on : g.store = store} {uris : List Uri} :
    (Activity.refresh g on).program ≠ .done (.ok (.gateways uris)) := by
  intro hdone
  have hends := (Activity.refresh g on).refreshes_program
  rw [hdone] at hends
  obtain ⟨list, hlist, -⟩ := hends
  exact absurd hlist (by simp)

/-- Behind the last call of a refresh a list with the URIs that it returns has been handed in: with
this call, or before it, and then a later list is kept. -/
theorem exists_handedIn {g : GatewayList} {on : g.store = store} {uris : List Uri} {c : Call}
    {go : c.Reply → Program (Except Failure Answer)} {phase : Phase} {reply : c.Reply}
    (hp : (setting store).InPhase world moves g.owner (HandsIn (.refresh g on)) id (.call c go)
      phase) (hreply : go reply = .done (.ok (.gateways uris))) :
    ∃ list : KeptList, list.gateways = uris ∧
      (setting store).HasRead world moves id list.startedAt ∧
      (c = .publish g.owner list ∨
        ((setting store).run world moves).system.world.IsHeld g.owner (list.startedAt + 1)) := by
  -- The last call of a refresh that is done hands in its list, or the list was turned away before.
  by_cases hplain : c.IsPlain
  · have hends := (Program.refreshes_call hplain).1 hp.refreshes reply
    rw [hreply] at hends
    obtain ⟨list, rfl, hgateways⟩ := hends
    refine ⟨list, hgateways, (hp.read _).2 rfl, .inr ?_⟩
    rcases hp.turnedAway list rfl with ⟨result, hresult⟩ | hheld
    · exact absurd hresult (by simp)
    · exact hheld
  · cases c with
    -- A refresh that has only read the clock is not done.
    | now =>
      have hends := hp.refreshes.2 reply
      rw [hreply] at hends
      obtain ⟨list, hlist, -⟩ := hends
      exact absurd hlist (by simp)
    | publish owner' list =>
      obtain ⟨rfl, rfl, -, hrest⟩ := hp.refreshes
      have hends := hrest reply
      rw [hreply] at hends
      obtain ⟨list', hlist, hgateways⟩ := hends
      obtain rfl := Phase.handed.inj hlist
      exact ⟨list, hgateways, (hp.read _).2 rfl, .inl rfl⟩
    | _ => exact absurd trivial hplain

/-- **The last step of a refresh hands in its list, or a later one is kept before it.** -/
theorem exists_completes {job : Job (Activity store)} {g : GatewayList} {on : g.store = store}
    {uris : List Uri} (hjob : ((setting store).run world (moves ++ [move])).jobs[id]? = some job)
    (hwhat : job.what = .refresh g on)
    (hbefore : ((setting store).run world moves).result? id = none)
    (hbehind : ((setting store).run world (moves ++ [move])).result? id =
      some (.ok (.gateways uris))) :
    ∃ startedAt, Completes world g.owner moves move id ⟨uris, startedAt⟩ ∧
      ((∃ context go, move = .call id ∧ ((setting store).run world moves).system.tasks.find? id =
        some ⟨.call (.publish g.owner ⟨uris, startedAt⟩) go, context⟩) ∨
      ((setting store).run world moves).system.world.IsHeld g.owner (startedAt + 1)) := by
  have hdone := Setting.result?_eq_some_iff.1 hbehind
  have hcompletes : ∀ {list : KeptList}, list.gateways = uris →
      (setting store).HasRead world moves id list.startedAt →
      Completes world g.owner moves move id ⟨uris, list.startedAt⟩ := fun _ hread =>
    ⟨⟨job, g, on, hjob, hwhat, rfl⟩, hbefore, hbehind, hread⟩
  have hjob' := hjob
  rw [Setting.run_concat] at hjob' hdone
  -- The program before the step is in a phase.
  have hphase : ∀ {program}, ((setting store).run world moves).program? id = some program →
      ∃ phase, (setting store).InPhase world moves g.owner (HandsIn (.refresh g on)) id program
        phase := by
    intro program hprogram
    obtain ⟨job', hold, hsame⟩ := Setting.exists_job_of_program? hjob' hprogram
    refine (setting store).inPhase_run world moves hold ?_ hprogram
    rw [hsame, hwhat]
    exact (Activity.refresh g on).refreshes_program
  cases (setting store).advances_after ((setting store).run world moves) move id with
  | idle hsame =>
    rw [hsame, ← Setting.result?_eq_some_iff, hbefore] at hdone
    exact absurd hdone (by simp)
  | @started what isCancelled trigger hmove hid hnone hstarted =>
    rcases Setting.what_after_cases hjob' with ⟨job', hold, -⟩ | ⟨-, isCancelled', trigger', hstart⟩
    · exact absurd hid (Nat.ne_of_lt (List.getElem?_eq_some_iff.1 hold).1)
    · obtain ⟨rfl, -⟩ := Move.start.inj (hmove.symm.trans hstart)
      have hprogram : job.what.program = .done _ := Option.some.inj (hstarted.symm.trans hdone)
      rw [hwhat] at hprogram
      exact absurd hprogram refresh_not_done
  | @answered context c go reply hmove htask hreply hworld hanswered =>
    obtain ⟨phase, hp⟩ := hphase (History.program?_eq htask)
    obtain ⟨list, rfl, hread, hlast⟩ :=
      exists_handedIn hp (Option.some.inj (hanswered.symm.trans hdone))
    refine ⟨list.startedAt, hcompletes rfl hread, ?_⟩
    rcases hlast with rfl | hheld
    · exact .inl ⟨context, go, hmove, htask⟩
    · exact .inr hheld
  | timedOut hmove hcall hanswered =>
    obtain ⟨phase, hp⟩ := hphase hcall
    obtain ⟨list, rfl, hread, hlast⟩ :=
      exists_handedIn hp (Option.some.inj (hanswered.symm.trans hdone))
    have hheld := hlast.resolve_left (by simp)
    exact ⟨list.startedAt, hcompletes rfl hread, .inr hheld⟩
  | dropped hmove hcall hnone => exact absurd (hnone.symm.trans hdone) (by simp)

/-- With the call of a job its list comes to be kept: it hands it in, and none of a later refresh is
kept. -/
structure Installs (world : World) (owner : String) (moves : List (Move (Activity store)))
    (id : TaskId) (list : KeptList) : Prop where
  /-- The job hands in the list. -/
  task : ∃ context go, ((setting store).run world moves).system.tasks.find? id =
    some ⟨.call (.publish owner list) go, context⟩
  /-- No later one is kept. -/
  latest : ∀ old, ((setting store).run world moves).system.world.kept.find? owner = some old →
    old.startedAt ≤ list.startedAt

/-- The call is answered, and the list is kept. -/
theorem Installs.publish (h : Installs world owner moves id list) :
    (((setting store).run world moves).system.world.publish owner list).2 = true ∧
      (((setting store).run world moves).system.world.publish owner list).1.kept =
        ((setting store).run world moves).system.world.kept.insert owner list := by
  rcases World.publish_cases ((setting store).run world moves).system.world owner list with
    ⟨hreply, hkept, -⟩ | ⟨-, -, old, hold, hlt⟩
  · exact ⟨hreply, hkept⟩
  · exact absurd (h.latest old hold) (Nat.not_le.2 hlt)

/-- **A list that comes to be kept is that of a refresh that completes.** -/
theorem Installs.completes (h : Installs world owner moves id list) :
    Completes world owner moves (.call id) id list := by
  obtain ⟨context, go, htask⟩ := h.task
  have hlt := ((setting store).follows_run world moves).known htask
  have hjob := List.getElem?_eq_getElem hlt
  generalize ((setting store).run world moves).jobs[id] = job at hjob
  have hcall := History.program?_eq htask
  obtain ⟨phase, hp⟩ :=
    (setting store).inPhase_run world moves hjob job.what.refreshes_program hcall
  -- The phase tells the list that is handed in, and that the refresh is done behind it.
  obtain ⟨howner, rfl, ⟨result, hdone⟩, hrest⟩ := hp.refreshes
  have hends := hrest true
  rw [hdone] at hends
  obtain ⟨job', hjob', hwhat⟩ := (setting store).exists_job_after (.call id) hjob
  have hbehind : ((setting store).run world (moves ++ [.call id])).result? id = some result := by
    rw [Setting.result?_eq_some_iff, Setting.run_concat,
      Setting.program?_after_call htask (congrArg some h.publish.1), hdone]
  have hbefore : ((setting store).run world moves).result? id = none := by
    rw [Option.eq_none_iff_forall_ne_some]
    intro result' hresult
    exact absurd (hcall.symm.trans (Setting.result?_eq_some_iff.1 hresult)) (by simp)
  cases hactivity : job.what with
  | table t on action =>
    -- An operation of a table does not hand in lists.
    rw [hactivity] at hends
    exact absurd hends (by simp [Program.Refreshes, HandsIn])
  | refresh g on =>
    rw [hactivity] at hends howner
    cases result with
    | error failure => exact absurd rfl (hends list)
    | ok answer =>
      cases answer with
      | table answer => exact hends.elim
      | gateways uris =>
        obtain ⟨list', hlist, rfl⟩ := hends
        obtain rfl := Phase.handed.inj hlist
        refine ⟨⟨job', g, on, ?_, hwhat.trans hactivity, howner.symm⟩, hbefore, hbehind,
          (hp.read _).2 rfl⟩
        rw [Setting.run_concat, hjob']

/-- A list that a refresh installs is the one that is kept right behind its call. -/
theorem Installs.kept (h : Installs world owner moves id list) :
    ((setting store).run world (moves ++ [.call id])).system.world.kept.find? owner =
      some list := by
  obtain ⟨context, go, htask⟩ := h.task
  have hstep : ((setting store).run world moves).system.step (.call id) = some
      ⟨(((setting store).run world moves).system.world.publish owner list).1,
        ((setting store).run world moves).system.tasks.insert id
          ⟨go (((setting store).run world moves).system.world.publish owner list).2, context⟩⟩ := by
    rw [System.step, htask]
    rfl
  rw [Setting.run_concat, Setting.after, Setting.event, hstep]
  show (((setting store).run world moves).system.world.publish owner list).1.kept.find? owner = _
  rw [h.publish.2, SortedMap.find?_insert_self]

/-- With any other move what is kept for an owner stays. -/
theorem kept_of_not_installs
    (hnot : ¬ ∃ id list, move = .call id ∧ Installs world owner moves id list) :
    ((setting store).run world (moves ++ [move])).system.world.kept.find? owner =
      ((setting store).run world moves).system.world.kept.find? owner := by
  rw [Setting.run_concat]
  rcases (setting store).kept_after_cases ((setting store).run world moves) move with hsame |
    ⟨id, context, owner', list, go, rfl, htask, hkept⟩
  · rw [hsame]
  · rcases World.publish_cases ((setting store).run world moves).system.world owner' list with
      ⟨-, hinsert, hlatest⟩ | ⟨-, hturned, -⟩
    -- A list that is taken for the owner would be installed.
    · have hne : owner ≠ owner' := by
        rintro rfl
        exact hnot ⟨id, list, rfl, ⟨context, go, htask⟩, hlatest⟩
      rw [hkept, hinsert, SortedMap.find?_insert_of_ne _ _ hne]
    · rw [hkept, hturned]

/-! ## What is kept -/

/-- What is kept for an owner is the latest of the lists of completed refreshes: of those whose
clock showed the most, the one that was completed last. -/
structure Keeps (world : World) (owner : String) (moves : List (Move (Activity store))) : Prop where
  /-- Nothing is kept as long as no refresh has completed. -/
  nothing : ((setting store).run world moves).system.world.kept.find? owner = none →
    ∀ n id list, ¬ HasCompleted world owner moves n id list
  /-- What is kept is the list of a completed refresh, and no other one is later. -/
  latest : ∀ list, ((setting store).run world moves).system.world.kept.find? owner = some list →
    ∃ n id, HasCompleted world owner moves n id list ∧
      ∀ n' id' list', HasCompleted world owner moves n' id' list' →
        list'.startedAt < list.startedAt ∨ list'.startedAt = list.startedAt ∧ n' ≤ n

/-- A refresh that completes with a move hands in its list with it, or a list of a later refresh was
kept before. -/
theorem Completes.handsIn_or (h : Completes world owner moves move id list) :
    (∃ context go, move = .call id ∧ ((setting store).run world moves).system.tasks.find? id =
      some ⟨.call (.publish owner list) go, context⟩) ∨
    ((setting store).run world moves).system.world.IsHeld owner (list.startedAt + 1) := by
  obtain ⟨job, g, on, hjob, hwhat, rfl⟩ := h.refresh
  obtain ⟨startedAt, hc, hcases⟩ := exists_completes hjob hwhat h.before h.behind
  have hsame := hasRead_unique hjob h.behind (Setting.hasRead_concat.2 (.inl hc.read))
    (Setting.hasRead_concat.2 (.inl h.read))
  dsimp only at hsame
  rw [← hsame] at hcases
  exact hcases

/-- A move with which a list comes to be kept keeps the invariant: the refresh completes last, and
began no earlier than the one whose list was kept. -/
theorem Keeps.install (hk : Keeps world owner moves) (h : Installs world owner moves id list) :
    Keeps world owner (moves ++ [.call id]) := by
  refine ⟨fun hnone => absurd (hnone.symm.trans h.kept) (by simp), fun list' hlist' => ?_⟩
  obtain rfl := Option.some.inj (h.kept.symm.trans hlist')
  refine ⟨moves.length, id, hasCompleted_concat.2 (.inr ⟨rfl, h.completes⟩), ?_⟩
  intro n' id' list' hc
  rcases hasCompleted_concat.1 hc with hbefore | ⟨rfl, hlast⟩
  · -- Whatever completed before began no later than what was kept.
    cases hfind : ((setting store).run world moves).system.world.kept.find? owner with
    | none => exact absurd hbefore (hk.nothing hfind n' id' list')
    | some old =>
      obtain ⟨n, -, -, hlatest⟩ := hk.latest old hfind
      have hle := h.latest old hfind
      have hlt := hbefore.lt
      rcases hlatest n' id' list' hbefore with hlt' | ⟨heq, -⟩
      · exact .inl (Nat.lt_of_lt_of_le hlt' hle)
      · omega
  · rcases hlast.handsIn_or with ⟨context', go', hmove, htask'⟩ | ⟨old, hfind, hlt⟩
    · obtain ⟨context, go, htask⟩ := h.task
      obtain rfl : id = id' := Move.call.inj hmove
      have hcall := congrArg Task.program (Option.some.inj (htask.symm.trans htask'))
      obtain ⟨-, rfl⟩ := Call.publish.inj (Program.call.inj hcall).1
      exact .inr ⟨rfl, Nat.le_refl _⟩
    · have hle := h.latest old hfind
      exact .inl (by omega)

/-- Any other move keeps it as well: a refresh that completes without its list being kept is behind
the one that is. -/
theorem Keeps.same (hk : Keeps world owner moves)
    (hnot : ¬ ∃ id list, move = .call id ∧ Installs world owner moves id list) :
    Keeps world owner (moves ++ [move]) := by
  have hsame := kept_of_not_installs hnot
  -- The list of a refresh that completes now is turned away.
  have hlast : ∀ {id list}, Completes world owner moves move id list →
      ∃ old, ((setting store).run world moves).system.world.kept.find? owner = some old ∧
        list.startedAt < old.startedAt := by
    intro id list hc
    rcases hc.handsIn_or with ⟨context, go, rfl, htask⟩ | ⟨old, hfind, hlt⟩
    · rcases World.publish_cases ((setting store).run world moves).system.world owner list with
        ⟨-, -, hlatest⟩ | ⟨-, -, hlater⟩
      · exact absurd ⟨id, list, rfl, ⟨context, go, htask⟩, hlatest⟩ hnot
      · exact hlater
    · exact ⟨old, hfind, hlt⟩
  refine ⟨fun hnone n id list hc => ?_, fun list hlist => ?_⟩
  · rw [hsame] at hnone
    rcases hasCompleted_concat.1 hc with hc | ⟨-, hc⟩
    · exact hk.nothing hnone n id list hc
    · obtain ⟨old, hfind, -⟩ := hlast hc
      exact absurd (hnone.symm.trans hfind) (by simp)
  · rw [hsame] at hlist
    obtain ⟨n, id, hc, hlatest⟩ := hk.latest list hlist
    refine ⟨n, id, hasCompleted_concat.2 (.inl hc), fun n' id' list' hc' => ?_⟩
    rcases hasCompleted_concat.1 hc' with hc' | ⟨-, hc'⟩
    · exact hlatest n' id' list' hc'
    · obtain ⟨old, hfind, hlt⟩ := hlast hc'
      obtain rfl := Option.some.inj (hlist.symm.trans hfind)
      exact .inl hlt

/-- In a run that begins without a list of the owner, what is kept is always the list of the best
completed refresh. -/
theorem keeps_run {world : World} (hnew : world.kept.find? owner = none)
    (moves : List (Move (Activity store))) : Keeps world owner moves := by
  induction moves using List.reverseRecOn with
  | nil =>
    refine ⟨fun _ n id list hc => absurd hc.lt (Nat.not_lt_zero _), fun list hlist => ?_⟩
    exact absurd (hnew.symm.trans hlist) (by simp)
  | append_singleton moves move ih =>
    by_cases hinstalls : ∃ id list, move = .call id ∧ Installs world owner moves id list
    · obtain ⟨id, list, rfl, h⟩ := hinstalls
      exact ih.install h
    · exact ih.same hinstalls

/-- A refresh that has returned has completed with one of the moves. -/
theorem exists_hasCompleted {job : Job (Activity store)} {g : GatewayList} {on : g.store = store}
    {uris : List Uri} (hjob : ((setting store).run world moves).jobs[id]? = some job)
    (hwhat : job.what = .refresh g on)
    (hresult : ((setting store).run world moves).result? id = some (.ok (.gateways uris))) :
    ∃ n startedAt, HasCompleted world g.owner moves n id ⟨uris, startedAt⟩ := by
  induction moves using List.reverseRecOn generalizing job with
  | nil => exact absurd hjob (by simp [Setting.run, Setting.begin])
  | append_singleton moves move ih =>
    cases hbefore : ((setting store).run world moves).result? id with
    | none =>
      obtain ⟨startedAt, hc, -⟩ := exists_completes hjob hwhat hbefore hresult
      exact ⟨moves.length, startedAt, hasCompleted_concat.2 (.inr ⟨rfl, hc⟩)⟩
    | some result =>
      -- What a refresh has returned before it returns still.
      have hdone := Setting.result?_eq_some_iff.1 hbefore
      have hjob' := hjob
      rw [Setting.run_concat] at hjob'
      obtain ⟨job', hold, hsame⟩ := Setting.exists_job_of_program? hjob' hdone
      have hstays := Setting.result?_after (S := setting store) move hbefore
      rw [← Setting.run_concat, hresult] at hstays
      rw [Option.some.inj hstays.symm] at hbefore
      obtain ⟨n, startedAt, hc⟩ := ih hold (hsame.trans hwhat) hbefore
      exact ⟨n, startedAt, hasCompleted_concat.2 (.inl hc)⟩

/-- **The list that is kept is that of the latest refresh.** Take a gateway list of which nothing is
kept yet, and any run of refreshes of it and of other activities, overlapping in any way, some of
them failing, told to give up or dropped, while the clock moves on in any way. Nothing is kept
exactly as long as no refresh has completed. After that the list of a completed refresh is kept, and
every other completed one has read the clock when it showed less, or the same and has completed
earlier. What is kept changes only with a move with which a refresh completes, and never to one that
has read the clock earlier. And every refresh that has returned has completed, with the one instant
at which it has read the clock. -/
theorem latest_is_kept (world : World) (owner : String) (hnew : world.kept.find? owner = none)
    (moves : List (Move (Activity store))) :
    let kept := fun moves => ((setting store).run world moves).system.world.kept.find? owner
    (kept moves = none ↔ ∀ n id list, ¬ HasCompleted world owner moves n id list) ∧
      (∀ list, kept moves = some list → ∃ n id, HasCompleted world owner moves n id list ∧
        ∀ n' id' list', HasCompleted world owner moves n' id' list' →
          list'.startedAt < list.startedAt ∨ list'.startedAt = list.startedAt ∧ n' ≤ n) ∧
      (∀ move, kept (moves ++ [move]) ≠ kept moves → ∃ id list,
        kept (moves ++ [move]) = some list ∧ Completes world owner moves move id list ∧
          ∀ old, kept moves = some old → old.startedAt ≤ list.startedAt) ∧
      ∀ id job g on uris, ((setting store).run world moves).jobs[id]? = some job →
        job.what = .refresh g on → g.owner = owner →
        ((setting store).run world moves).result? id = some (.ok (.gateways uris)) →
        ∃ n startedAt, HasCompleted world owner moves n id ⟨uris, startedAt⟩ ∧
          ∀ instant, (setting store).HasRead world moves id instant ↔ instant = startedAt := by
  intro kept
  have hkeeps : ∀ moves : List (Move (Activity store)), Keeps world owner moves := keeps_run hnew
  -- All four parts follow from what is kept behind any number of moves.
  refine ⟨⟨(hkeeps moves).nothing, fun hnone => ?_⟩, (hkeeps moves).latest, fun move hchanged => ?_,
    fun id job g on uris hjob hwhat howner hresult => ?_⟩
  · rw [Option.eq_none_iff_forall_ne_some]
    intro list hlist
    obtain ⟨n, id, hc, -⟩ := (hkeeps moves).latest list hlist
    exact hnone n id list hc
  · by_cases hinstalls : ∃ id list, move = .call id ∧ Installs world owner moves id list
    · obtain ⟨id, list, rfl, h⟩ := hinstalls
      exact ⟨id, list, h.kept, h.completes, h.latest⟩
    · exact absurd (kept_of_not_installs hinstalls) hchanged
  · subst howner
    obtain ⟨n, startedAt, hc⟩ := exists_hasCompleted hjob hwhat hresult
    refine ⟨n, startedAt, hc, fun instant => ?_⟩
    obtain ⟨front, move, hfront, -, hcompletes⟩ := hc
    have hread := hcompletes.read.mono ((List.prefix_append _ _).trans hfront)
    constructor
    · exact hasRead_unique hjob hresult hread
    · rintro rfl
      exact hread

/-! ## A refresh that is overtaken -/

namespace Sample

/-- A refresh reads the clock; another one reads it later and completes; then the first one does. -/
def overtakingMoves : List (Move (Activity "main")) :=
  .start refresh false .never :: List.replicate 5 (.call 0) ++ .tick 1 ::
    .start refresh false .never :: List.replicate 12 (.call 1) ++ List.replicate 11 (.call 0)

/-- The history of both refreshes. -/
def overtaking : Run "main" :=
  (setting "main").run Table.Sample.world overtakingMoves

end Sample

/-- The list of the refresh that has overtaken the other one is kept, although it is not the one
that was returned last. -/
theorem latest_is_kept_overtaking :
    Table.Sample.world.kept.find? "gateways" = none ∧
      (Sample.overtaking.result? 0).isSome = true ∧
      Sample.overtaking.system.world.kept.find? "gateways" = some ⟨[], 1⟩ ∧
      ∃ n id, HasCompleted Table.Sample.world "gateways" Sample.overtakingMoves n id ⟨[], 1⟩ := by
  have hkept : Sample.overtaking.system.world.kept.find? "gateways" = some ⟨[], 1⟩ := by
    decide +kernel
  obtain ⟨-, hlatest, -, -⟩ :=
    latest_is_kept Table.Sample.world "gateways" rfl Sample.overtakingMoves
  refine ⟨rfl, by decide +kernel, hkept, ?_⟩
  unfold Sample.overtaking at hkept
  obtain ⟨n, id, hcompleted, -⟩ := hlatest ⟨[], 1⟩ hkept
  exact ⟨n, id, hcompleted⟩

end Activity

end Muster
