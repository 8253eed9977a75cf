import Mathlib.Logic.Equiv.Basic
import Muster.Proofs.Etag
import Muster.Proofs.Table.Outcome

/-!
# Renaming etags

Two runs of the same operations mint different etags. What they store and answer can be the same up
to a renaming only: a function on etags, and what it makes of records, versions, answers, and of the
etags that a caller hands in. `Etag.Source.Renames` says that a renaming takes the etags that one
source is about to mint to those of another. As long as neither source mints an etag twice, there is
a permutation of all texts that does so and moves nothing but minted etags (`exists_renaming`).
-/

namespace Muster

namespace Etag

namespace Source

variable {ρ : String → String} {m n : Nat} {source source' : Source}

/-- The next `n` etags of one source are renamed to those of the other, one by one. -/
def Renames (ρ : String → String) (n : Nat) (source source' : Source) : Prop :=
  (source.take n).map ρ = source'.take n

/-- Without renaming, the etags of a source are those of the source. -/
theorem Renames.refl (n : Nat) (source : Source) : Renames id n source source :=
  List.map_id _

/-- Both sources mint an etag. -/
theorem Renames.mint (h : Renames ρ (n + 1) source source') :
    ρ source.mint.1 = source'.mint.1 ∧ Renames ρ n source.mint.2 source'.mint.2 :=
  List.cons.inj h

/-- If some etags are renamed one by one, so are fewer of them. -/
theorem Renames.mono (h : Renames ρ n source source') (hle : m ≤ n) :
    Renames ρ m source source' := by
  -- Both sources move on with every etag, so the induction is for all sources.
  induction m generalizing n source source' with
  | zero => rfl
  | succ m ih =>
    obtain ⟨n, rfl⟩ : ∃ n', n = n' + 1 := ⟨n - 1, by omega⟩
    obtain ⟨hfirst, hrest⟩ := h.mint
    have hlater : Renames ρ m source.mint.2 source'.mint.2 := ih hrest (by omega)
    exact congrArg₂ List.cons hfirst hlater

/-- As many etags are taken as are asked for. -/
theorem length_take (source : Source) (n : Nat) : (source.take n).length = n := by
  induction n generalizing source with
  | zero => rfl
  | succ n ih => rw [take, List.length_cons, ih]

/-- An etag that is about to be minted shows its count. -/
theorem exists_of_mem_take {etag : String} (h : etag ∈ source.take n) :
    ∃ i < n, ∃ random, etag = render ((source.count + i) % limit) random := by
  induction n generalizing source with
  | zero => exact absurd h (by simp [take])
  | succ n ih =>
    rcases List.mem_cons.1 h with rfl | hrest
    · exact ⟨0, by omega, _, rfl⟩
    · obtain ⟨i, hi, random, hetag⟩ := ih hrest
      have hcount : source.mint.2.count + i = source.count + (i + 1) := by
        show source.count + 1 + i = _
        omega
      exact ⟨i + 1, by omega, random, hcount ▸ hetag⟩

/-- No etag is minted twice until the count wraps around. -/
theorem nodup_take (source : Source) (hlimit : n ≤ limit) : (source.take n).Nodup := by
  induction n generalizing source with
  | zero => exact List.nodup_nil
  | succ n ih =>
    have hfresh : source.mint.1 ∉ source.mint.2.take n := by
      intro hmem
      obtain ⟨i, hi, random, hetag⟩ := exists_of_mem_take hmem
      have hcount : source.count % limit = (source.count + 1 + i) % limit :=
        count_eq_of_render hetag
      -- The counts differ by less than the limit, so they do not come around to each other.
      unfold limit at hcount hlimit
      omega
    exact List.nodup_cons.2 ⟨hfresh, ih _ (by omega)⟩

/-- The etag of the initial version is not minted. -/
theorem zero_notMem_take (source : Source) (n : Nat) : "0" ∉ source.take n := by
  intro hmem
  obtain ⟨i, -, random, hetag⟩ := exists_of_mem_take hmem
  exact render_ne_zero _ random hetag.symm

end Source

/-- Between lists of different texts there is a permutation of all texts that moves nothing else. -/
theorem exists_perm {names names' : List String} (hnodup : names.Nodup) (hnodup' : names'.Nodup)
    (hlength : names.length = names'.length) : ∃ ρ : Equiv.Perm String,
      names.map ρ = names' ∧ ∀ name, name ∉ names → name ∉ names' → ρ name = name := by
  induction names generalizing names' with
  | nil =>
    have hnil : names' = [] := List.length_eq_zero_iff.1 hlength.symm
    exact ⟨Equiv.refl _, hnil.symm, fun _ _ _ => rfl⟩
  | cons a names ih =>
    obtain ⟨b, names', rfl⟩ := List.exists_cons_of_length_eq_add_one hlength.symm
    rw [List.nodup_cons] at hnodup hnodup'
    obtain ⟨σ, hmap, hfix⟩ := ih hnodup.2 hnodup'.2 (Nat.succ.inj hlength)
    -- The permutation of the rest is followed by a swap that corrects the first name.
    refine ⟨σ.trans (Equiv.swap (σ a) b), ?_, fun name hname hname' => ?_⟩
    · have hrest : ∀ name ∈ names, (σ.trans (Equiv.swap (σ a) b)) name = σ name := by
        intro name hname
        have hmem : σ name ∈ names' := hmap ▸ List.mem_map_of_mem hname
        have hna : σ name ≠ σ a := fun h => hnodup.1 (σ.injective h ▸ hname)
        have hnb : σ name ≠ b := fun h => hnodup'.1 (h ▸ hmem)
        exact Equiv.swap_apply_of_ne_of_ne hna hnb
      have hfirst : (σ.trans (Equiv.swap (σ a) b)) a = b := Equiv.swap_apply_left _ _
      rw [List.map_cons, hfirst, List.map_congr_left hrest, hmap]
    · rw [List.mem_cons, not_or] at hname hname'
      have hsame : σ name = name := hfix name hname.2 hname'.2
      have hna : name ≠ σ a := fun h => hname.1 (σ.injective (hsame.trans h))
      calc (Equiv.swap (σ a) b) (σ name)
          = (Equiv.swap (σ a) b) name := by rw [hsame]
        _ = name := Equiv.swap_apply_of_ne_of_ne hna hname'.1

/-- As long as neither of two sources mints an etag twice, a permutation takes the etags of one to
those of the other and moves nothing else. -/
theorem exists_renaming {n : Nat} {source source' : Source} (hnodup : (source.take n).Nodup)
    (hnodup' : (source'.take n).Nodup) : ∃ ρ : Equiv.Perm String, source.Renames ρ n source' ∧
      ∀ etag, etag ∉ source.take n → etag ∉ source'.take n → ρ etag = etag :=
  exists_perm hnodup hnodup' (by rw [source.length_take, source'.length_take])

end Etag

/-! ## What a renaming makes of data -/

/-- The record with its etag renamed. -/
def Stored.Record.rename (ρ : String → String) (record : Stored.Record) : Stored.Record :=
  { record with etag := ρ record.etag }

namespace Table

/-- The version with its etag renamed. -/
def Version.rename (ρ : String → String) (version : Version) : Version :=
  { version with etag := ρ version.etag }

/-- The entries with their etags renamed. -/
def renameMembers (ρ : String → String) (members : List (Silo.Entry × String)) :
    List (Silo.Entry × String) :=
  members.map fun member => (member.1, ρ member.2)

/-- The roster with all its etags renamed. -/
def Roster.rename (ρ : String → String) (roster : Roster) : Roster :=
  ⟨renameMembers ρ roster.members, roster.version.rename ρ⟩

/-- The answer with all its etags renamed. -/
def Answer.rename (ρ : String → String) : Answer → Answer
  | .roster found => .roster (found.rename ρ)
  | answer => answer

/-- The action with the etags that the caller hands in renamed. -/
def Action.rename (ρ : String → String) : Action → Action
  | .insertRow entry expected => .insertRow entry (expected.rename ρ)
  | .updateRow entry etag expected => .updateRow entry (ρ etag) (expected.rename ρ)
  | action => action

/-- Answers are as they were when nothing is renamed. -/
@[simp] theorem Answer.rename_id : Answer.rename id = id := by
  funext answer
  cases answer with
  | roster found =>
    have hmembers : renameMembers id found.members = found.members := List.map_id _
    exact congrArg (fun members => Answer.roster ⟨members, found.version⟩) hmembers
  | _ => rfl

/-- Actions are as they were when nothing is renamed. -/
@[simp] theorem Action.rename_id : Action.rename id = id := by
  funext action
  cases action <;> rfl

/-- The initial version keeps its etag. -/
theorem Version.rename_initial {ρ : String → String} (hzero : ρ "0" = "0") :
    Version.initial.rename ρ = .initial :=
  congrArg (Version.mk 0) hzero

end Table

end Muster
