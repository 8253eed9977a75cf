import Muster.Proofs.Program.Course
import Muster.Proofs.SortedMap
import Muster.System.Basic

/-!
# What a call does to a store

Of all that programs share, proofs look at one store, at the tickets that a program holds, at the
source of etags and at the gateway lists that are kept. Each of them is changed by few calls, and by
those in a way that can be said in a line; all other calls leave it as it is.
-/

namespace Muster

/-- The store after a call on it. -/
def Store.afterCall (s : Store) : Call → Store
  | .begin _ => s.begin.2
  | .ask tx request => (s.ask tx.id request).1
  | .commit tx => s.commit tx.id
  | .discard tx => s.discard tx.id
  | _ => s

/-- The store after the end of a waiting, if there was one. -/
def Store.afterWaiting (s : Store) : Option (Ticket × Request) → Store
  | some (tx, request) => s.withdraw tx.id request
  | none => s

/-- The call concerns transactions of the store of a name or none at all. -/
def Call.IsOn (name : String) : Call → Prop
  | .begin store => store = name
  | .ask tx _ => tx.store = name
  | .commit tx => tx.store = name
  | .discard tx => tx.store = name
  | _ => True

namespace World

variable {w : World} {me : Context} {name : String} {s : Store}

/-- The store of a name. -/
def store? (w : World) (name : String) : Option Store :=
  (w.sites.find? name).map Site.store

/-- Another site has its store under its own name. -/
theorem store?_insert (w : World) (n name : String) (site : Site) :
    store? { w with sites := w.sites.insert n site } name =
      if name = n then some site.store else w.store? name := by
  rw [store?, SortedMap.find?_insert]
  split
  · rfl
  · rfl

/-- Changing a site changes its store only. -/
theorem store?_withSite (h : w.store? name = some s) (n : String) (f : Store → Store) :
    (w.withSite n fun site => site.withStore (f site.store)).store? name =
      some (if n = name then f s else s) := by
  rw [withSite]
  split
  · rename_i site hsite
    rw [store?_insert]
    -- The store of another name is where it was.
    by_cases hn : name = n
    · subst hn
      rw [store?, hsite, Option.map_some, Option.some.injEq] at h
      rw [if_pos rfl, if_pos rfl, ← h]
      rfl
    · rw [if_neg hn, if_neg (Ne.symm hn), h]
  · rename_i hsite
    by_cases hn : name = n
    · subst hn
      rw [store?, hsite] at h
      exact absurd h (by simp)
    · rw [if_neg (Ne.symm hn), h]

/-- Discarding a transaction changes its own store only. -/
theorem store?_discard (h : w.store? name = some s) (tx : Ticket) :
    (w.discard tx).store? name = some (if tx.store = name then s.discard tx.id else s) :=
  store?_withSite h tx.store fun store => store.discard tx.id

/-- Committing a transaction changes its own store only. -/
theorem store?_commit (h : w.store? name = some s) (tx : Ticket) :
    (w.commit tx).store? name = some (if tx.store = name then s.commit tx.id else s) :=
  store?_withSite h tx.store fun store => store.commit tx.id

/-- A site of which only the plan or the gate changes keeps its store. -/
theorem store?_insert_same {site site' : Site} {n : String} (hsite : w.sites.find? n = some site)
    (hsame : site'.store = site.store) :
    store? { w with sites := w.sites.insert n site' } name = w.store? name := by
  rw [store?_insert]
  split
  · rename_i hn
    rw [store?, hn, hsite, hsame]
    rfl
  · rfl

/-- **A call changes a store by what it does to it as a store.** -/
theorem store?_perform (h : w.store? name = some s) {c : Call} (hon : c.IsOn name) :
    (w.perform me c).1.store? name = some (s.afterCall c) := by
  cases c with
  | claim handle =>
    rw [perform]
    split
    · exact h
    · exact h
    · exact h
  | settle handle isResolved => exact h
  | attempt store kind =>
    rw [perform]
    dsimp only
    split
    · exact h
    · rename_i site hsite
      -- An attempt moves the plan of faults on and leaves the store.
      have hsame : (site.attempt kind).1.store = site.store := rfl
      exact (store?_insert_same hsite hsame).trans h
  | begin store =>
    obtain rfl : store = name := hon
    rw [store?, Option.map_eq_some_iff] at h
    obtain ⟨site, hsite, rfl⟩ := h
    rw [perform, hsite]
    dsimp only
    rw [store?_insert, if_pos rfl]
    rfl
  | pass tx =>
    rw [perform]
    split
    · exact h
    · rename_i site hsite
      -- A gate lets the transaction pass or holds it back.
      have hsame : (site.pass tx.id).1.store = site.store := by
        rw [Site.pass]
        split
        · rfl
        · rfl
      exact (store?_insert_same hsite hsame).trans h
  | ask tx request =>
    obtain rfl : tx.store = name := hon
    rw [store?, Option.map_eq_some_iff] at h
    obtain ⟨site, hsite, rfl⟩ := h
    rw [perform, ask, hsite]
    dsimp only
    split
    · -- Answered or not, the store is the one after the request.
      rw [store?_insert, if_pos rfl]
      rfl
    · rw [store?_insert, if_pos rfl]
      rfl
  | commit tx =>
    obtain rfl : tx.store = name := hon
    have hcommit := store?_commit h tx
    rw [if_pos rfl] at hcommit
    exact hcommit
  | discard tx =>
    obtain rfl : tx.store = name := hon
    have hdiscard := store?_discard h tx
    rw [if_pos rfl] at hdiscard
    exact hdiscard
  | isCancelled => exact h
  | next isRow => exact h
  | mint => exact h
  | now => exact h
  | note notice => exact h
  | publish owner list =>
    show (w.publish owner list).1.store? name = some s
    rw [publish]
    split
    · split
      · exact h
      · exact h
    · exact h
  | kept owner => exact h

/-! ## Replies -/

/-- A transaction that begins gets the next number of its store. -/
theorem reply_begin (h : w.store? name = some s) (me : Context) :
    (w.perform me (.begin name)).2.2 = some ⟨name, s.nextId⟩ := by
  rw [store?, Option.map_eq_some_iff] at h
  obtain ⟨site, hsite, rfl⟩ := h
  rw [perform, hsite]
  rfl

/-- A request gets the reply of the store. -/
theorem reply_ask {tx : Ticket} (h : w.store? tx.store = some s) (me : Context)
    (request : Request) :
    (w.perform me (.ask tx request)).2.2 = (s.ask tx.id request).2.map .ok := by
  rw [store?, Option.map_eq_some_iff] at h
  obtain ⟨site, hsite, rfl⟩ := h
  rw [perform, ask, hsite]
  dsimp only
  cases (site.store.ask tx.id request).2 with
  | none => rfl
  | some reply => rfl

/-- Every reply is one that the call can get. -/
theorem isReply_perform (w : World) (me : Context) {c : Call} {reply : c.Reply}
    (h : (w.perform me c).2.2 = some reply) : c.IsReply reply := by
  cases c with
  | begin store =>
    rw [perform] at h
    split at h
    · exact absurd h (by simp)
    · obtain rfl := Option.some.inj h
      rfl
  | _ => trivial

/-! ## Tickets -/

/-- The tickets that a program holds after a call. -/
theorem tickets_begin (h : w.store? name = some s) (me : Context) :
    (w.perform me (.begin name)).2.1.tickets = ⟨name, s.nextId⟩ :: me.tickets := by
  rw [store?, Option.map_eq_some_iff] at h
  obtain ⟨site, hsite, rfl⟩ := h
  rw [perform, hsite]
  rfl

/-- A request opens and ends no transaction. -/
theorem tickets_ask (w : World) (me : Context) (tx : Ticket) (request : Request) :
    (w.perform me (.ask tx request)).2.1.tickets = me.tickets := by
  show (w.ask me tx request).2.1.tickets = me.tickets
  rw [ask]
  split
  · rfl
  · dsimp only
    split
    · rfl
    · rfl

/-- Calls other than those that begin or end a transaction leave the tickets alone. -/
theorem tickets_perform (w : World) (me : Context) {c : Call}
    (hbegin : ∀ store, c ≠ .begin store) (hcommit : ∀ tx, c ≠ .commit tx)
    (hdiscard : ∀ tx, c ≠ .discard tx) : (w.perform me c).2.1.tickets = me.tickets := by
  -- Only `begin`, `commit` and `discard` change which transactions a task has open.
  cases c with
  | begin store => exact absurd rfl (hbegin store)
  | commit tx => exact absurd rfl (hcommit tx)
  | discard tx => exact absurd rfl (hdiscard tx)
  | ask tx request => exact w.tickets_ask me tx request
  | claim handle =>
    rw [perform]
    split
    · rfl
    · rfl
    · rfl
  | attempt store kind =>
    have hremoving : (if kind = .remove then removing me else me).tickets = me.tickets := by
      split
      · rfl
      · rfl
    rw [perform]
    dsimp only
    split
    · exact hremoving
    · exact hremoving
  | pass tx =>
    rw [perform]
    split
    · rfl
    · rfl
  | next isRow =>
    have hnext : (next me isRow).1.tickets = me.tickets := by
      rw [next]
      split
      · rfl
      · dsimp only
        split
        · split
          · rfl
          · rfl
        · split
          · rfl
          · rfl
        · rfl
    exact hnext
  | settle handle isResolved => rfl
  | isCancelled => rfl
  | mint => rfl
  | now => rfl
  | note notice => rfl
  | publish owner list => rfl
  | kept owner => rfl

/-! ## What calls leave alone -/

/-- The worlds differ in their stores, their handles, what has been told and the clock of lock
timeouts at most. -/
structure Agrees (w w' : World) : Prop where
  /-- The etags to come are the same. -/
  etags : w'.etags = w.etags
  /-- The same gateway lists are kept. -/
  kept : w'.kept = w.kept
  /-- The clock of refreshes shows the same. -/
  instant : w'.instant = w.instant

/-- A world agrees with itself. -/
theorem Agrees.refl (w : World) : w.Agrees w :=
  ⟨rfl, rfl, rfl⟩

/-- What two steps leave alone is left alone by both of them. -/
theorem Agrees.trans {w w' w'' : World} (h : w.Agrees w') (h' : w'.Agrees w'') : w.Agrees w'' :=
  ⟨h'.etags.trans h.etags, h'.kept.trans h.kept, h'.instant.trans h.instant⟩

/-- What happens to a site changes nothing else. -/
theorem agrees_withSite (w : World) (n : String) (f : Site → Site) : w.Agrees (w.withSite n f) := by
  rw [withSite]
  split
  · exact ⟨rfl, rfl, rfl⟩
  · exact .refl w

/-- A request changes nothing but its site. -/
theorem agrees_ask (w : World) (me : Context) (tx : Ticket) (request : Request) :
    w.Agrees (w.ask me tx request).1 := by
  rw [ask]
  split
  · exact .refl w
  · dsimp only
    split
    · exact ⟨rfl, rfl, rfl⟩
    · exact ⟨rfl, rfl, rfl⟩

/-- Only minting takes from the source of etags, and only publishing changes a list that is kept. -/
theorem agrees_perform (w : World) (me : Context) {c : Call} (hmint : c ≠ .mint)
    (hpublish : ∀ owner list, c ≠ .publish owner list) : w.Agrees (w.perform me c).1 := by
  -- Etags, instants and caches are moved by `mint` and `publish`, and by the clock, which no call
  -- sets.
  cases c with
  | mint => exact absurd rfl hmint
  | publish owner list => exact absurd rfl (hpublish owner list)
  | claim handle =>
    rw [perform]
    split
    · exact .refl w
    · exact .refl w
    · exact ⟨rfl, rfl, rfl⟩
  | attempt store kind =>
    rw [perform]
    dsimp only
    split
    · exact .refl w
    · exact ⟨rfl, rfl, rfl⟩
  | begin store =>
    rw [perform]
    split
    · exact .refl w
    · exact ⟨rfl, rfl, rfl⟩
  | pass tx =>
    rw [perform]
    split
    · exact .refl w
    · exact ⟨rfl, rfl, rfl⟩
  | ask tx request => exact w.agrees_ask me tx request
  | commit tx => exact agrees_withSite w _ _
  | discard tx => exact agrees_withSite w _ _
  | settle handle isResolved => exact ⟨rfl, rfl, rfl⟩
  | isCancelled => exact .refl w
  | next isRow => exact .refl w
  | now => exact .refl w
  | note notice => exact ⟨rfl, rfl, rfl⟩
  | kept owner => exact .refl w

/-- Only minting takes from the source of etags. -/
theorem etags_perform (w : World) (me : Context) {c : Call} (h : c ≠ .mint) :
    (w.perform me c).1.etags = w.etags := by
  by_cases hpublish : ∃ owner list, c = .publish owner list
  · obtain ⟨owner, list, rfl⟩ := hpublish
    show (w.publish owner list).1.etags = w.etags
    rw [publish]
    split
    · split
      · rfl
      · rfl
    · rfl
  · exact (w.agrees_perform me h fun owner list hc => hpublish ⟨owner, list, hc⟩).etags

/-- Only publishing changes a list that is kept. -/
theorem kept_perform (w : World) (me : Context) {c : Call}
    (hpublish : ∀ owner list, c ≠ .publish owner list) : (w.perform me c).1.kept = w.kept := by
  by_cases hmint : c = .mint
  · subst hmint
    rfl
  · exact (w.agrees_perform me hmint hpublish).kept

/-! ## What happens to a program from outside -/

/-- What a task waited for is withdrawn from its own store; other stores are as they were. -/
theorem store?_withSite_withdraw (h : w.store? name = some s) (tx : Ticket) (request : Request) :
    ∃ waiting, (w.withSite tx.store fun site =>
      site.withStore (site.store.withdraw tx.id request)).store? name =
        some (s.afterWaiting waiting) := by
  have hstore := store?_withSite h tx.store fun store => store.withdraw tx.id request
  by_cases hn : tx.store = name
  · rw [if_pos hn] at hstore
    exact ⟨some (tx, request), hstore⟩
  · rw [if_neg hn] at hstore
    exact ⟨none, hstore⟩

/-- A program whose waiting for a lock ends goes on with a fault, and its request is withdrawn; any
other program stays as it is. -/
theorem expire_cases {ρ : Type} (w : World) (me : Context) (p : Program ρ) :
    ((w.expire me p).1 = w ∧ (w.expire me p).2.2 = p) ∨ ∃ tx request go cell fault,
      p = .call (.ask tx request) go ∧ request.lock? = some cell ∧
        ((w.expire me p).1 = w.withSite tx.store fun site =>
          site.withStore (site.store.withdraw tx.id request)) ∧
        (w.expire me p).2.2 = go (.error fault) := by
  unfold expire
  split
  · rename_i tx request go
    split
    · rename_i site cell hsite hlock
      exact .inr ⟨tx, request, go, cell, _, rfl, hlock, rfl, rfl⟩
    · exact .inl ⟨rfl, rfl⟩
  · exact .inl ⟨rfl, rfl⟩

/-- When the time of a task is up, what it waited for in the store is withdrawn. -/
theorem store?_expire {ρ : Type} (h : w.store? name = some s) (me : Context) (p : Program ρ) :
    ∃ waiting, (w.expire me p).1.store? name = some (s.afterWaiting waiting) := by
  rcases w.expire_cases me p with ⟨hsame, -⟩ | ⟨tx, request, go, cell, fault, -, -, hwithdraw, -⟩
  · rw [hsame]
    exact ⟨none, h⟩
  · rw [hwithdraw]
    exact store?_withSite_withdraw h tx request

/-- A waiting that has ended changes nothing but the sites and the notices. -/
theorem agrees_expire {ρ : Type} (w : World) (me : Context) (p : Program ρ) :
    w.Agrees (w.expire me p).1 := by
  rcases w.expire_cases me p with ⟨hsame, -⟩ | ⟨tx, request, go, cell, fault, -, -, hwithdraw, -⟩
  · rw [hsame]
    exact .refl w
  · rw [hwithdraw]
    exact agrees_withSite w _ _

/-- A waiting that has ended opens and ends no transaction. -/
theorem tickets_expire {ρ : Type} (w : World) (me : Context) (p : Program ρ) :
    (w.expire me p).2.1.tickets = me.tickets := by
  unfold expire
  split
  · split
    · rfl
    · rfl
  · rfl

/-- A program that is expired goes on from the reply to a request that failed, if at all. -/
theorem program_expire {ρ : Type} (w : World) (me : Context) (p : Program ρ) :
    (w.expire me p).2.2 = p ∨ ∃ tx request go fault,
      p = .call (.ask tx request) go ∧ (w.expire me p).2.2 = go (.error fault) := by
  rcases w.expire_cases me p with ⟨-, hsame⟩ | ⟨tx, request, go, cell, fault, hp, -, -, hgo⟩
  · exact .inl hsame
  · exact .inr ⟨tx, request, go, fault, hp, hgo⟩

/-- A store after the transactions of a list of tickets are discarded. -/
theorem store?_foldl_discard (tickets : List Ticket) (h : w.store? name = some s)
    (hstore : ∀ tx ∈ tickets, tx.store = name) :
    (tickets.foldl discard w).store? name =
      some (tickets.foldl (fun s tx => s.discard tx.id) s) := by
  induction tickets generalizing w s with
  | nil => exact h
  | cons tx tickets ih =>
    have hdiscard := store?_discard h tx
    rw [if_pos (hstore tx List.mem_cons_self)] at hdiscard
    exact ih hdiscard fun tx' htx' => hstore tx' (List.mem_cons_of_mem _ htx')

/-- When a task stops waiting, what it waited for in the store is withdrawn. -/
theorem store?_withdraw {ρ : Type} (h : w.store? name = some s) (p : Program ρ) :
    ∃ waiting, (w.withdraw p).store? name = some (s.afterWaiting waiting) := by
  unfold withdraw
  split
  · exact store?_withSite_withdraw h _ _
  · exact ⟨none, h⟩

/-- A program that is dropped withdraws its request and discards its transactions. -/
theorem store?_abandon_of_withdraw {ρ : Type} {p : Program ρ}
    (h : (w.withdraw p).store? name = some s) (me : Context)
    (hstore : ∀ tx ∈ me.tickets, tx.store = name) :
    (w.abandon me p).store? name = some (me.tickets.foldl (fun s tx => s.discard tx.id) s) := by
  have hall := store?_foldl_discard me.tickets h hstore
  unfold abandon
  dsimp only
  split
  · exact hall
  · exact hall

/-- When a task is dropped, what it waited for is withdrawn and its transactions are discarded. -/
theorem store?_abandon {ρ : Type} (h : w.store? name = some s) (me : Context) (p : Program ρ)
    (hstore : ∀ tx ∈ me.tickets, tx.store = name) :
    ∃ waiting, (w.abandon me p).store? name =
      some (me.tickets.foldl (fun s tx => s.discard tx.id) (s.afterWaiting waiting)) := by
  obtain ⟨waiting, hwaiting⟩ := store?_withdraw h p
  exact ⟨waiting, store?_abandon_of_withdraw hwaiting me hstore⟩

/-- A task that stops waiting changes nothing but its site. -/
theorem agrees_withdraw {ρ : Type} (w : World) (p : Program ρ) : w.Agrees (w.withdraw p) := by
  unfold withdraw
  split
  · exact agrees_withSite w _ _
  · exact .refl w

/-- Transactions that are discarded change nothing but their sites. -/
theorem agrees_foldl_discard (tickets : List Ticket) (w : World) :
    w.Agrees (tickets.foldl discard w) := by
  induction tickets generalizing w with
  | nil => exact .refl w
  | cons tx tickets ih => exact (agrees_withSite w _ _).trans (ih _)

/-- A task that is dropped changes nothing but the sites and the handles. -/
theorem agrees_abandon {ρ : Type} (w : World) (me : Context) (p : Program ρ) :
    w.Agrees (w.abandon me p) := by
  have hall : w.Agrees (me.tickets.foldl discard (w.withdraw p)) :=
    (w.agrees_withdraw p).trans (agrees_foldl_discard me.tickets _)
  unfold abandon
  dsimp only
  split
  · exact hall.trans ⟨rfl, rfl, rfl⟩
  · exact hall

end World

end Muster
