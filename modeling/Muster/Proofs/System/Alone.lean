import Muster.Proofs.Store.Locks
import Muster.Proofs.System.Perform

/-!
# Programs that run alone

A program that runs alone on a store never waits, so what it does can be told from its text. Of the
world, such a program meets a `Scene`: what is committed, its open transaction, and the source of
etags. `Solo.Stands` says that a world shows a scene to a program for which nothing stands in the
way: no call is planned to fail, the gate is open, no dictionary is being looked up, and the locks
that it will ask for are free.

`Operation.Does` says with which result and which scene an operation comes to its end. It is found
by going through the text of the operation from top to bottom, with one rule for each step; so it
includes that the operation comes to an end at all.
-/

namespace Muster

/-- What a program that runs alone meets. -/
structure Scene where
  /-- What has been committed. -/
  committed : Contents
  /-- The transaction that the program has open, with its number. -/
  current : Option (TransactionId × Transaction)
  /-- Where etags come from. -/
  etags : Etag.Source

/-- The setting of a program that runs alone. -/
structure Solo where
  /-- The name of the store that the program works on. -/
  store : String
  /-- The stores as they were when it began. -/
  sites : SortedMap String Site
  /-- The cells whose locks are free for it. -/
  IsFree : Cell → Prop
  /-- Nothing tells the program to give up. -/
  IsUntold : Prop

namespace Solo

/-- A site shows a scene and does not stand in the way of the program. -/
structure Suits (e : Solo) (k : Scene) (site : Site) : Prop where
  /-- No call is planned to fail. -/
  plan : site.plan = []
  /-- The gate is open. -/
  gate : site.gate = ⟨false, []⟩
  /-- What has been committed is that of the scene. -/
  committed : site.store.committed = k.committed
  /-- The open transaction is that of the scene. -/
  live : ∀ {id tx}, k.current = some (id, tx) → site.store.live.find? id = some tx
  /-- The locks are free, or the open transaction holds them and nobody waits. -/
  locks : ∀ cell, e.IsFree cell → site.store.locks.find? cell = none ∨
    ∃ id tx, k.current = some (id, tx) ∧ site.store.locks.find? cell = some ⟨id, []⟩

/-- A world shows a scene to the program and does not stand in its way. -/
structure Stands (e : Solo) (k : Scene) (w : World) (me : Context) : Prop where
  /-- The store shows the scene. -/
  site : ∃ site, w.sites.find? e.store = some site ∧ e.Suits k site
  /-- The other stores are as they were. -/
  others : ∀ name, name ≠ e.store → w.sites.find? name = e.sites.find? name
  /-- No dictionary is being looked up. -/
  handles : ∀ handle, w.handles.find? handle ≠ some .resolving
  /-- Etags come from the source of the scene. -/
  etags : w.etags = k.etags
  /-- The program has not been told to give up, and nothing will tell it to. -/
  untold : e.IsUntold → me.isCancelled = false ∧ me.trigger = .never

variable {e : Solo} {k k' : Scene} {w : World} {me me' : Context} {site : Site}

/-- A call on a site that suits is not planned to fail. -/
theorem Suits.attempt (h : e.Suits k site) (kind : CallKind) :
    (site.attempt kind).2 = none ∧ e.Suits k (site.attempt kind).1 := by
  have hplan : Site.takeFault kind site.plan = ([], none) := by
    rw [h.plan]
    rfl
  refine ⟨congrArg Prod.snd hplan, congrArg Prod.fst hplan, h.gate, h.committed, h.live, h.locks⟩

/-- The program goes on with another site that suits. -/
theorem Stands.insert (h : e.Stands k w me) (hsite : e.Suits k' site) (hetags : k'.etags = k.etags)
    (hme : e.IsUntold → me'.isCancelled = false ∧ me'.trigger = .never) :
    e.Stands k' { w with sites := w.sites.insert e.store site } me' where
  site := ⟨site, SortedMap.find?_insert_self .., hsite⟩
  others name hname := (SortedMap.find?_insert_of_ne _ _ hname).trans (h.others name hname)
  handles := h.handles
  etags := h.etags.trans hetags.symm
  untold := hme

/-! ## What happens to a site -/

/-- The locks that the program may ask for, seen from its open transaction. -/
theorem Suits.free {id : TransactionId} {tx : Transaction} (h : e.Suits k site)
    (hcurrent : k.current = some (id, tx)) {cell : Cell} (hcell : e.IsFree cell) :
    site.store.locks.find? cell = none ∨ site.store.locks.find? cell = some ⟨id, []⟩ := by
  rcases h.locks cell hcell with hnone | ⟨id', tx', hcurrent', hlock⟩
  · exact .inl hnone
  · obtain ⟨rfl, rfl⟩ := Prod.mk.inj (Option.some.inj (hcurrent.symm.trans hcurrent'))
    exact .inr hlock

/-- A transaction that begins becomes that of the scene. -/
theorem Suits.begin (h : e.Suits k site) (hcurrent : k.current = none) :
    e.Suits { k with current := some (site.store.nextId, .begin k.committed) }
      (site.withStore site.store.begin.2) where
  plan := h.plan
  gate := h.gate
  committed := h.committed
  live {id tx} hopen := by
    obtain ⟨rfl, rfl⟩ := Prod.mk.inj (Option.some.inj hopen)
    rw [← h.committed]
    exact SortedMap.find?_insert_self ..
  locks cell hcell := by
    rcases h.locks cell hcell with hnone | ⟨id, tx, hopen, -⟩
    · exact .inl hnone
    · exact absurd (hcurrent.symm.trans hopen) (by simp)

/-- A request is answered at once. -/
theorem Suits.ask {id : TransactionId} {tx : Transaction} {r : Request} (h : e.Suits k site)
    (hcurrent : k.current = some (id, tx)) (hfree : ∀ cell, r.lock? = some cell → e.IsFree cell) :
    (site.store.ask id r).2 = some (tx.perform k.committed r).2 ∧
      e.Suits { k with current := some (id, (tx.perform k.committed r).1) }
        (site.withStore (site.store.ask id r).1) := by
  have hlive := h.live hcurrent
  have hlocks : ∀ cell, e.IsFree cell →
      site.store.locks.find? cell = none ∨ site.store.locks.find? cell = some ⟨id, []⟩ :=
    fun _ => h.free hcurrent
  -- Whatever the locks are then, the transaction is performed on the committed contents.
  have hanswer : ∀ locks : Locks,
      (∀ cell, e.IsFree cell → locks.find? cell = none ∨ locks.find? cell = some ⟨id, []⟩) →
      (Store.answer { site.store with locks } id tx r).2 = (tx.perform k.committed r).2 ∧
        e.Suits { k with current := some (id, (tx.perform k.committed r).1) }
          (site.withStore (Store.answer { site.store with locks } id tx r).1) := by
    intro locks hlocks
    rw [← h.committed]
    refine ⟨rfl, h.plan, h.gate, rfl, fun {id' tx'} hopen => ?_, fun cell hcell => ?_⟩
    · obtain ⟨rfl, rfl⟩ := Prod.mk.inj (Option.some.inj hopen)
      exact SortedMap.find?_insert_self ..
    · exact (hlocks cell hcell).imp_right fun hmine => ⟨id, _, rfl, hmine⟩
  rw [Store.ask, hlive]
  dsimp only
  cases hlock : r.lock? with
  | none =>
    obtain ⟨hreply, hsuits⟩ := hanswer site.store.locks hlocks
    exact ⟨congrArg some hreply, hsuits⟩
  | some cell =>
    have hrequest := Locks.find?_request_of_free (hlocks cell (hfree cell hlock))
    have hholds : (site.store.locks.request id cell).holds id cell = true :=
      Locks.holds_iff.2 ⟨⟨id, []⟩, by rw [hrequest, if_pos rfl], rfl⟩
    obtain ⟨hreply, hsuits⟩ := hanswer (site.store.locks.request id cell) fun cell' hcell' => by
      rw [hrequest]
      split
      · exact .inr rfl
      · exact hlocks cell' hcell'
    dsimp only
    rw [if_pos hholds]
    exact ⟨congrArg some hreply, hsuits⟩

/-- The open transaction ends, and `contents` are committed from then on. -/
theorem Suits.close {id : TransactionId} {tx : Transaction} (h : e.Suits k site)
    (hcurrent : k.current = some (id, tx)) (contents : Contents) :
    e.Suits { k with committed := contents, current := none }
      (site.withStore (Store.discard { site.store with committed := contents } id)) := by
  have hlive : ({ site.store with committed := contents } : Store).live.find? id = some tx :=
    h.live hcurrent
  rw [Store.discard, hlive]
  refine ⟨h.plan, h.gate, rfl, fun hopen => absurd hopen (by simp), fun cell hcell => .inl ?_⟩
  exact Locks.find?_release_of_free (h.free hcurrent hcell)

end Solo

namespace World

/-- A call that is answered is followed by what the program does with the reply. -/
theorem run_call {ρ : Type} {w w' : World} {me me' : Context} {c : Call} {reply : c.Reply}
    (h : w.perform me c = (w', me', some reply)) (go : c.Reply → Program ρ) :
    w.run me (.call c go) = w'.run me' (go reply) := by
  rw [run, h]

/-- A program goes on where the one before it has ended. -/
theorem run_bind {α β : Type} {w w' : World} {me me' : Context} {p : Program α} {a : α}
    (h : w.run me p = (w', me', .done a)) (f : α → Program β) :
    w.run me (p >>= f) = w'.run me' (f a) := by
  induction p generalizing w me with
  | done b =>
    obtain ⟨hw, h⟩ := Prod.mk.inj h
    obtain ⟨hme, h⟩ := Prod.mk.inj h
    rw [Program.bind_done, Program.done.inj h, hw, hme]
  | call c go ih =>
    rw [Program.bind_call, run]
    rw [run] at h
    split at h
    · exact ih _ h
    · exact absurd h (by simp)

end World

namespace Program

variable {α β : Type} {e : Solo} {k : Scene}

/-- Run alone from a scene on, the program comes to an end, with a result and a scene that fit
`Q`. -/
def Does (e : Solo) (k : Scene) (p : Program α) (Q : α → Scene → Prop) : Prop :=
  ∀ w me, e.Stands k w me → ∃ w' me' result k',
    w.run me p = (w', me', .done result) ∧ e.Stands k' w' me' ∧ Q result k'

/-- One program after another: the second goes on from the scene that the first has left. -/
theorem Does.bind {Q : α → Scene → Prop} {R : β → Scene → Prop} {p : Program α}
    {f : α → Program β} (h : p.Does e k Q) (hf : ∀ a k, Q a k → (f a).Does e k R) :
    Does e k (p >>= f) R := by
  intro w me hw
  obtain ⟨w', me', a, k', hrun, hw', ha⟩ := h w me hw
  obtain ⟨w'', me'', b, k'', hrun', hw'', hb⟩ := hf a k' ha w' me' hw'
  exact ⟨w'', me'', b, k'', (World.run_bind hrun f).trans hrun', hw'', hb⟩

end Program

namespace Operation

variable {α β : Type} {e : Solo} {k : Scene}

/-- Run alone from a scene on, the operation comes to an end, with a result, be it a failure, and a
scene that fit `Q`. -/
def Does (e : Solo) (k : Scene) (p : Operation α) (Q : Except Failure α → Scene → Prop) : Prop :=
  Program.Does e k p.run Q

/-- An operation that does nothing leaves the scene as it is. -/
theorem does_pure {Q : Except Failure α → Scene → Prop} {a : α} (h : Q (.ok a) k) :
    Does e k (pure a) Q :=
  fun w me hw => ⟨w, me, .ok a, k, rfl, hw, h⟩

/-- An operation that only fails leaves the scene as it is. -/
theorem does_throw {Q : Except Failure α → Scene → Prop} {failure : Failure}
    (h : Q (.error failure) k) : Does e k (throw failure) Q :=
  fun w me hw => ⟨w, me, .error failure, k, rfl, hw, h⟩

/-- What is asked of the end may be weakened. -/
theorem Does.mono {Q R : Except Failure α → Scene → Prop} {p : Operation α} (h : p.Does e k Q)
    (himp : ∀ result k, Q result k → R result k) : p.Does e k R := by
  intro w me hw
  obtain ⟨w', me', result, k', hrun, hw', hresult⟩ := h w me hw
  exact ⟨w', me', result, k', hrun, hw', himp _ _ hresult⟩

/-- One operation after another; if the first fails, its failure is the result. -/
theorem does_bind {Q : Except Failure β → Scene → Prop} {p : Operation α}
    {f : α → Operation β} (h : p.Does e k fun
      | .ok a, k => (f a).Does e k Q
      | .error failure, k => Q (.error failure) k) : (p >>= f).Does e k Q := by
  refine Program.Does.bind h fun result k hresult => ?_
  cases result with
  | ok a => exact hresult
  | error failure => exact does_throw hresult

/-- An operation whose result is only wrapped. -/
theorem Does.answer {Q : Except Failure α → Scene → Prop} {p : Operation α} (h : p.Does e k Q)
    (f : α → β) : Does e k (do return f (← p)) fun result k =>
      ∃ inner, result = inner.map f ∧ Q inner k := by
  refine does_bind (h.mono fun result k hresult => ?_)
  cases result with
  | ok a => exact does_pure ⟨.ok a, rfl, hresult⟩
  | error failure => exact ⟨.error failure, rfl, hresult⟩

/-- A failure is handled where it occurs. -/
theorem does_tryCatch {Q : Except Failure α → Scene → Prop} {p : Operation α}
    {handler : Failure → Operation α} (h : p.Does e k fun
      | .ok a, k => Q (.ok a) k
      | .error failure, k => (handler failure).Does e k Q) :
    Does e k (tryCatch p handler) Q := by
  refine Program.Does.bind h fun result k hresult => ?_
  cases result with
  | ok a => exact does_pure hresult
  | error failure => exact hresult

/-- A call that is answered at once. -/
theorem does_perform {c : Call} {Q : Except Failure c.Reply → Scene → Prop}
    (h : ∀ w me, e.Stands k w me → ∃ w' me' reply k',
      w.perform me c = (w', me', some reply) ∧ e.Stands k' w' me' ∧ Q (.ok reply) k') :
    Does e k (perform c) Q := by
  intro w me hw
  obtain ⟨w', me', reply, k', hperform, hw', hreply⟩ := h w me hw
  exact ⟨w', me', .ok reply, k', World.run_call hperform _, hw', hreply⟩

/-! ## Steps outside of transactions -/

section Steps

variable {Q : Except Failure Unit → Scene → Prop}

/-- Notices do not change the scene. -/
theorem does_note (notice : Notice) (h : Q (.ok ()) k) : (note notice).Does e k Q :=
  does_perform fun w me hw => ⟨{ w with notices := notice :: w.notices }, me, (), k, rfl,
    ⟨hw.site, hw.others, hw.handles, hw.etags, hw.untold⟩, h⟩

/-- An etag is the next one of the source. -/
theorem does_mint {Q : Except Failure String → Scene → Prop}
    (h : Q (.ok k.etags.mint.1) { k with etags := k.etags.mint.2 }) :
    (perform .mint).Does e k Q := by
  refine does_perform fun w me hw => ?_
  obtain ⟨site, hsite, hsuits⟩ := hw.site
  refine ⟨{ w with etags := w.etags.mint.2 }, me, w.etags.mint.1,
    { k with etags := k.etags.mint.2 }, rfl, ?_, ?_⟩
  · exact ⟨⟨site, hsite, hsuits.plan, hsuits.gate, hsuits.committed, hsuits.live, hsuits.locks⟩,
      hw.others, hw.handles, congrArg (fun source => source.mint.2) hw.etags, hw.untold⟩
  · rw [hw.etags]
    exact h

/-- What cannot be read is the failure of the operation. -/
theorem does_read {Q : Except Failure α → Scene → Prop} {result : Except Stored.Fault α}
    (hok : ∀ a, result = .ok a → Q (.ok a) k)
    (herror : ∀ fault, result = .error fault → Q (.error (.stored fault)) k) :
    (read result).Does e k Q := by
  cases result with
  | ok a => exact does_pure (hok a rfl)
  | error fault => exact does_throw (herror fault rfl)

/-- No call fails that nobody has planned to fail. -/
theorem does_perform_attempt (kind : CallKind) {Q : Except Failure (Option String) → Scene → Prop}
    (h : Q (.ok none) k) : (perform (.attempt e.store kind)).Does e k Q := by
  refine does_perform fun w me hw => ?_
  obtain ⟨site, hsite, hsuits⟩ := hw.site
  obtain ⟨hnone, hsuits'⟩ := hsuits.attempt kind
  -- The trigger may fire at this attempt; a task that nobody tells has no trigger.
  let me' := if kind = .remove then World.removing me else me
  have huntold : e.IsUntold → me'.isCancelled = false ∧ me'.trigger = .never := by
    intro he
    obtain ⟨hcancelled, htrigger⟩ := hw.untold he
    dsimp only [me']
    split
    · exact ⟨by simp [World.removing, hcancelled, htrigger], htrigger⟩
    · exact ⟨hcancelled, htrigger⟩
  refine ⟨_, me', none, k, ?_, hw.insert hsuits' rfl huntold, h⟩
  rw [World.perform, hsite]
  dsimp only
  rw [hnone]

/-- A call that may be planned to fail does not. -/
theorem does_attempt (kind : CallKind) (h : Q (.ok ()) k) :
    (attempt e.store kind).Does e k Q :=
  does_bind (does_perform_attempt kind (does_pure h))

/-- A dictionary is looked up, unless that was done before. -/
theorem does_resolve {handle : Handle} (hstore : handle.store = e.store) (h : Q (.ok ()) k) :
    (resolve handle).Does e k Q := by
  intro w me hw
  cases hfound : w.handles.find? handle with
  | some state =>
    cases state with
    | resolving => exact absurd hfound (hw.handles handle)
    | resolved =>
      have hclaim : w.perform me (.claim handle) = (w, me, some .resolved) := by
        rw [World.perform, hfound]
      exact ⟨w, me, .ok (), k, World.run_call hclaim _, hw, h⟩
  | none =>
    obtain ⟨site, hsite, hsuits⟩ := hw.site
    obtain ⟨hnone, hsuits'⟩ := hsuits.attempt .resolve
    let claimed := { w with handles := w.handles.insert handle .resolving }
    let told := { claimed with notices := .resolving handle.dictionary :: w.notices }
    let tried := { told with sites := w.sites.insert e.store (site.attempt .resolve).1 }
    let claimer := { me with resolving := some handle }
    have hclaim : w.perform me (.claim handle) = (claimed, claimer, some .mine) := by
      rw [World.perform, hfound]
    have htell : claimed.perform claimer (.note (.resolving handle.dictionary)) =
        (told, claimer, some ()) := rfl
    have htry : told.perform claimer (.attempt handle.store .resolve) =
        (tried, claimer, some none) := by
      have hsame : told.sites.find? handle.store = some site := by
        rw [hstore]
        exact hsite
      rw [World.perform, if_neg (by simp), hsame, hstore]
      dsimp only
      rw [hnone]
    refine ⟨tried.settle handle true, { me with resolving := none }, .ok (), k, ?_, ?_, h⟩
    · exact (World.run_call hclaim _).trans <| (World.run_call htell _).trans <|
        World.run_call htry _
    · have hsites := hw.insert hsuits' rfl hw.untold
      refine ⟨hsites.site, hsites.others, fun other hother => ?_, hw.etags, hw.untold⟩
      -- The handle is settled, and the others are as they were.
      rcases SortedMap.find?_insert_cases hother with ⟨-, hstate⟩ | ⟨hne, hother⟩
      · exact absurd hstate (by simp)
      · rw [SortedMap.find?_insert_of_ne _ _ hne] at hother
        exact hw.handles other hother

end Steps

/-! ## Steps of transactions -/

section Transactions

variable {id : TransactionId} {tx : Transaction}

/-- A request gets the answer of the transaction. -/
theorem does_ask {r : Request} {Q : Except Failure r.Reply → Scene → Prop}
    (hcurrent : k.current = some (id, tx)) (hfree : ∀ cell, r.lock? = some cell → e.IsFree cell)
    (h : Q (.ok (tx.perform k.committed r).2)
      { k with current := some (id, (tx.perform k.committed r).1) }) :
    (ask e.store ⟨e.store, id⟩ r).Does e k Q := by
  refine does_bind (does_attempt _ ?_)
  dsimp only
  rw [if_neg (by simp)]
  refine does_bind (does_perform fun w me hw => ?_)
  -- Alone at the store no lock is in the way, so the request is answered at once.
  obtain ⟨site, hsite, hsuits⟩ := hw.site
  obtain ⟨hreply, hsuits'⟩ := hsuits.ask hcurrent hfree
  refine ⟨_, { me with deadline := none }, .ok _, _, ?_, hw.insert hsuits' rfl hw.untold,
    does_pure h⟩
  rw [World.perform, World.ask, hsite]
  dsimp only
  rw [hreply]
  rfl

/-- A transaction begins on what is committed. -/
theorem does_begin {Q : Except Failure Ticket → Scene → Prop} (hcurrent : k.current = none)
    (h : ∀ id, Q (.ok ⟨e.store, id⟩) { k with current := some (id, .begin k.committed) }) :
    (begin e.store).Does e k Q := by
  refine does_bind (does_attempt _ ?_)
  refine does_bind (does_perform fun w me hw => ?_)
  obtain ⟨site, hsite, hsuits⟩ := hw.site
  refine ⟨_, { me with tickets := ⟨e.store, site.store.nextId⟩ :: me.tickets },
    ⟨e.store, site.store.nextId⟩, _, ?_, hw.insert (hsuits.begin hcurrent) rfl hw.untold, ?_⟩
  · rw [World.perform, hsite]
    rfl
  · -- The gate is open, so the transaction passes.
    refine does_bind (does_perform fun w me hw => ?_)
    obtain ⟨site', hsite', hsuits'⟩ := hw.site
    refine ⟨_, me, (), _, ?_, hw.insert hsuits' rfl hw.untold, does_pure (h _)⟩
    rw [World.perform, hsite']
    dsimp only
    rw [Site.pass, hsuits'.gate]
    rfl

/-- The world after the end of the open transaction. -/
theorem stands_close {w : World} {me : Context} (hw : e.Stands k w me)
    (hcurrent : k.current = some (id, tx)) (f : Store → Store) (contents : Contents)
    (hf : ∀ s : Store, s.live.find? id = some tx → s.committed = k.committed →
      f s = Store.discard { s with committed := contents } id) (tickets : List Ticket) :
    e.Stands { k with committed := contents, current := none }
      (w.withSite e.store fun site => site.withStore (f site.store)) { me with tickets } := by
  obtain ⟨site, hsite, hsuits⟩ := hw.site
  have hclose := hsuits.close hcurrent contents
  rw [← hf site.store (hsuits.live hcurrent) hsuits.committed] at hclose
  rw [World.withSite, hsite]
  exact hw.insert hclose rfl hw.untold

/-- What a transaction has changed is gone with it. -/
theorem does_discard {Q : Except Failure Unit → Scene → Prop}
    (hcurrent : k.current = some (id, tx)) (h : Q (.ok ()) { k with current := none }) :
    (discard ⟨e.store, id⟩).Does e k Q := by
  refine does_perform fun w me hw => ?_
  have hend := stands_close hw hcurrent (fun s => s.discard id) k.committed
    (fun s _ hcommitted => by rw [← hcommitted]) (me.tickets.erase ⟨e.store, id⟩)
  exact ⟨_, _, (), _, rfl, hend, h⟩

/-- What a transaction has changed is committed. -/
theorem does_commit {Q : Except Failure Unit → Scene → Prop}
    (hcurrent : k.current = some (id, tx))
    (h : Q (.ok ()) { k with committed := k.committed.apply tx.changes, current := none }) :
    (commit ⟨e.store, id⟩).Does e k Q := by
  refine does_bind (does_perform_attempt .commit (does_perform fun w me hw => ?_))
  have hend := stands_close hw hcurrent (fun s => s.commit id) (k.committed.apply tx.changes)
    (fun s hlive hcommitted => by rw [Store.commit, hlive, hcommitted])
    (me.tickets.erase ⟨e.store, id⟩)
  exact ⟨_, _, (), _, rfl, hend, h⟩

/-- The body of a transaction; if it fails, its open transaction is discarded. -/
theorem does_within {body : Ticket → Operation α} {Q : Except Failure α → Scene → Prop}
    (hcurrent : k.current = none)
    (h : ∀ id, (body ⟨e.store, id⟩).Does e { k with current := some (id, .begin k.committed) } fun
      | .ok a, k => Q (.ok a) k
      | .error failure, k =>
        (∃ tx, k.current = some (id, tx)) ∧ Q (.error failure) { k with current := none }) :
    (within e.store body).Does e k Q := by
  refine does_bind (does_begin hcurrent fun id => does_tryCatch ((h id).mono ?_))
  intro result k hresult
  cases result with
  | ok a => exact hresult
  | error failure =>
    obtain ⟨⟨tx, hopen⟩, hfailed⟩ := hresult
    exact does_bind (does_discard hopen (does_throw hfailed))

end Transactions

/-! ## Scans -/

section Scans

variable {Q : Except Failure Unit → Scene → Prop}

/-- Nothing tells the program to give up. -/
theorem does_checkCancelled (he : e.IsUntold) (h : Q (.ok ()) k) : checkCancelled.Does e k Q := by
  refine does_bind (does_perform fun w me hw => ?_)
  refine ⟨w, me, me.isCancelled, k, rfl, hw, ?_⟩
  dsimp only
  rw [(hw.untold he).1]
  exact does_pure h

/-- Nothing is heard in front of a row. -/
theorem does_next (he : e.IsUntold) (isRow : Bool) {Q : Except Failure Bool → Scene → Prop}
    (h : Q (.ok false) k) : (perform (.next isRow)).Does e k Q := by
  refine does_perform fun w me hw => ?_
  obtain ⟨hcancelled, htrigger⟩ := hw.untold he
  have hnext : World.next me isRow = ({ me with rowsSeen := me.rowsSeen + 1 }, false) := by
    rw [World.next, hcancelled, htrigger]
    rfl
  refine ⟨w, { me with rowsSeen := me.rowsSeen + 1 }, false, k, ?_, ?_, h⟩
  · rw [World.perform, hnext]
  · exact ⟨hw.site, hw.others, hw.handles, hw.etags, fun _ => ⟨hcancelled, htrigger⟩⟩

/-- Rows are delivered without any failure. -/
theorem does_deliver (he : e.IsUntold) {handle : Handle} (hstore : handle.store = e.store)
    (rows : List Row) (h : Q (.ok ()) k) : (deliver handle rows).Does e k Q := by
  induction rows with
  | nil => exact does_bind (does_next he false (does_pure h))
  | cons row rest ih =>
    refine does_bind (does_next he true ?_)
    refine does_bind ?_
    rw [hstore]
    exact does_attempt _ ih

/-- A scan gives all rows that the transaction sees. -/
theorem does_scan (he : e.IsUntold) {handle : Handle} (hstore : handle.store = e.store)
    {id : TransactionId} {tx : Transaction} {Q : Except Failure (List Row) → Scene → Prop}
    (hcurrent : k.current = some (id, tx))
    (h : Q (.ok ((tx.snapshot.apply tx.changes).rows handle.dictionary)) k) :
    (scan handle ⟨e.store, id⟩).Does e k Q := by
  refine does_bind (does_checkCancelled he ?_)
  refine does_bind ?_
  rw [hstore]
  -- A scan asks for no lock, and leaves the transaction as it is.
  refine does_ask hcurrent (by simp [Request.lock?]) ?_
  have hsame : { k with current := some (id, tx) } = k := by
    rw [← hcurrent]
  refine does_bind (does_deliver he hstore _ (does_pure ?_))
  rw [Transaction.perform, hsame]
  exact h

end Scans

end Operation

/-! ## Whole programs -/

namespace World

/-- Nothing stands in the way of a program that runs alone on the store of a site and asks for the
locks of free cells at most. -/
structure IsQuiet (w : World) (store : String) (site : Site) (IsFree : Cell → Prop) : Prop where
  /-- The site is that of the store. -/
  found : w.sites.find? store = some site
  /-- No call is planned to fail. -/
  plan : site.plan = []
  /-- The gate is open. -/
  gate : site.gate = ⟨false, []⟩
  /-- Nobody holds the lock of a free cell. -/
  locks : ∀ cell, IsFree cell → site.store.locks.find? cell = none
  /-- No dictionary is being looked up. -/
  handles : ∀ handle, w.handles.find? handle ≠ some .resolving

variable {w : World} {store : String} {site : Site} {IsFree : Cell → Prop}

/-- A quiet world shows its committed contents to a program that has not begun. -/
theorem IsQuiet.stands (h : w.IsQuiet store site IsFree) (me : Context) :
    Solo.Stands ⟨store, w.sites, IsFree, me.isCancelled = false ∧ me.trigger = .never⟩
      ⟨site.store.committed, none, w.etags⟩ w me where
  site := ⟨site, h.found, h.plan, h.gate, rfl, fun hopen => absurd hopen (by simp),
    fun cell hcell => .inl (h.locks cell hcell)⟩
  others _ _ := rfl
  handles := h.handles
  etags := rfl
  untold := id

/-- A world is quiet again behind a program that has no transaction open. -/
theorem isQuiet_of_stands {e : Solo} {k : Scene} {me : Context} (h : e.Stands k w me)
    (hcurrent : k.current = none) : ∃ site, w.IsQuiet e.store site e.IsFree ∧
      site.store.committed = k.committed := by
  obtain ⟨site, hsite, hsuits⟩ := h.site
  refine ⟨site, ⟨hsite, hsuits.plan, hsuits.gate, fun cell hcell => ?_, h.handles⟩,
    hsuits.committed⟩
  rcases hsuits.locks cell hcell with hnone | ⟨id, tx, hopen, -⟩
  · exact hnone
  · exact absurd (hcurrent.symm.trans hopen) (by simp)

/-- A program that runs alone in a quiet world comes to an end. It leaves the other stores as they
are, and its result fits what is committed then and the source of etags then. -/
theorem IsQuiet.run {ρ : Type} (h : w.IsQuiet store site IsFree) (me : Context)
    {p : Program ρ} {Q : ρ → Scene → Prop}
    (hp : p.Does ⟨store, w.sites, IsFree, me.isCancelled = false ∧ me.trigger = .never⟩
      ⟨site.store.committed, none, w.etags⟩ Q) :
    ∃ w' me' result site' current, w.run me p = (w', me', .done result) ∧
      w'.sites.find? store = some site' ∧
      (∀ name, name ≠ store → w'.sites.find? name = w.sites.find? name) ∧
      Q result ⟨site'.store.committed, current, w'.etags⟩ := by
  obtain ⟨w', me', result, k', hrun, hstands', hresult⟩ := hp w me (h.stands me)
  obtain ⟨site', hsite', hsuits⟩ := hstands'.site
  refine ⟨w', me', result, site', k'.current, hrun, hsite', hstands'.others, ?_⟩
  rw [hsuits.committed, hstands'.etags]
  exact hresult

/-- If the program ends its transactions, the world is quiet again. -/
theorem IsQuiet.run_quiet {ρ : Type} (h : w.IsQuiet store site IsFree) (me : Context)
    {p : Program ρ} {Q : ρ → Scene → Prop}
    (hp : p.Does ⟨store, w.sites, IsFree, me.isCancelled = false ∧ me.trigger = .never⟩
      ⟨site.store.committed, none, w.etags⟩ Q) (hend : ∀ result k, Q result k → k.current = none) :
    ∃ w' me' result site', w.run me p = (w', me', .done result) ∧
      w'.IsQuiet store site' IsFree ∧
      (∀ name, name ≠ store → w'.sites.find? name = w.sites.find? name) ∧
      Q result ⟨site'.store.committed, none, w'.etags⟩ := by
  obtain ⟨w', me', result, k', hrun, hstands', hresult⟩ := hp w me (h.stands me)
  have hcurrent : k'.current = none := hend result k' hresult
  obtain ⟨site', hquiet, hcommitted⟩ := isQuiet_of_stands hstands' hcurrent
  refine ⟨w', me', result, site', hrun, hquiet, hstands'.others, ?_⟩
  rw [hcommitted, hstands'.etags, ← hcurrent]
  exact hresult

end World

end Muster
