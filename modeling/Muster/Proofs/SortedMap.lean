import Muster.SortedMap

/-!
# Looking into sorted maps

What `find?` gives after each operation on a map, for keys with a lawful linear order. A value is
found exactly if it is an entry (`find?_eq_some_iff`), because keys ascend and so occur once.
-/

namespace Muster.SortedMap

variable {κ υ : Type} [Ord κ] [DecidableEq κ] [Std.LawfulEqOrd κ]

omit [DecidableEq κ] in
/-- Keys of which one is below the other are different. -/
theorem ne_of_compare_lt {k k' : κ} (h : compare k k' = .lt) : k ≠ k' := by
  rintro rfl
  rw [Std.LawfulEqOrd.compare_eq_iff_eq.2 rfl] at h
  exact absurd h (by decide)

/-! ## Lists of entries -/

/-- The first entry decides about its own key. -/
theorem lookup_cons (k k' : κ) (v : υ) (rest : List (κ × υ)) :
    lookup k ((k', v) :: rest) = if k = k' then some v else lookup k rest := by
  rw [lookup]
  by_cases h : k = k'
  · rw [if_pos h, if_pos (Std.LawfulEqOrd.compare_eq_iff_eq.2 h)]
  · rw [if_neg h, if_neg fun hc => h (Std.LawfulEqOrd.compare_eq_iff_eq.1 hc)]

/-- What is looked up is an entry. -/
theorem mem_of_lookup {k : κ} {v : υ} {entries : List (κ × υ)}
    (h : lookup k entries = some v) : (k, v) ∈ entries := by
  induction entries with
  | nil => simp [lookup] at h
  | cons head rest ih =>
    rw [lookup_cons] at h
    split at h
    · rename_i hk
      obtain rfl := Option.some.inj h
      rw [hk]
      exact List.mem_cons_self
    · exact List.mem_cons_of_mem _ (ih h)

/-- With ascending keys, every entry is what its key is looked up as. -/
theorem lookup_of_mem {k : κ} {v : υ} {entries : List (κ × υ)}
    (ha : entries.Pairwise fun a b => compare a.1 b.1 = .lt) (h : (k, v) ∈ entries) :
    lookup k entries = some v := by
  induction entries with
  | nil => simp at h
  | cons head rest ih =>
    obtain ⟨k', v'⟩ := head
    rw [List.pairwise_cons] at ha
    rw [lookup_cons]
    rcases List.mem_cons.1 h with h | h
    · obtain ⟨rfl, rfl⟩ := Prod.mk.inj h
      rw [if_pos rfl]
    · have hne : k ≠ k' := (ne_of_compare_lt (ha.1 _ h)).symm
      rw [if_neg hne, ih ha.2 h]

/-- Putting a value at a key changes what that key is looked up as and no other. -/
theorem lookup_put (k k' : κ) (v : υ) (entries : List (κ × υ)) :
    lookup k' (put k v entries) = if k' = k then some v else lookup k' entries := by
  induction entries with
  | nil => rw [put, lookup_cons]
  | cons head rest ih =>
    obtain ⟨k₁, v₁⟩ := head
    simp only [put]
    -- The key comes before the first one, in its place, or behind it.
    split
    · rw [lookup_cons]
    · rename_i hk
      obtain rfl := Std.LawfulEqOrd.eq_of_compare hk
      rw [lookup_cons, lookup_cons]
      split
      · rfl
      · rfl
    · rename_i hk
      rw [lookup_cons, lookup_cons, ih]
      by_cases h₁ : k' = k₁
      -- The key is behind the first one, so the first one is not replaced.
      · have hne : k₁ ≠ k := by
          rintro rfl
          exact absurd (hk.symm.trans (Std.LawfulEqOrd.compare_eq_iff_eq.2 rfl)) (by decide)
        rw [if_pos h₁, if_neg (by rw [h₁]; exact hne), if_pos h₁]
      · rw [if_neg h₁, if_neg h₁]

/-- Without a key, that key is looked up as nothing and every other as before. -/
theorem lookup_remove (k k' : κ) (entries : List (κ × υ)) :
    lookup k' (remove k entries) = if k' = k then none else lookup k' entries := by
  induction entries with
  | nil => simp [remove, lookup]
  | cons head rest ih =>
    obtain ⟨k₁, v₁⟩ := head
    rw [remove] at ih ⊢
    -- The first entry goes if its key is removed.
    by_cases hk : k = k₁
    · subst hk
      rw [List.filter_cons_of_neg (by simp), ih, lookup_cons]
      split
      · rfl
      · rfl
    · rw [List.filter_cons_of_pos (by simp [hk]), lookup_cons, lookup_cons, ih]
      by_cases h₁ : k' = k₁
      · rw [if_pos h₁, if_neg (by rw [h₁]; exact Ne.symm hk), if_pos h₁]
      · rw [if_neg h₁, if_neg h₁]

/-- A key below all keys is looked up as nothing. -/
theorem lookup_eq_none {k : κ} {entries : List (κ × υ)}
    (h : ∀ e ∈ entries, compare k e.1 = .lt) : lookup k entries = none := by
  rw [Option.eq_none_iff_forall_not_mem]
  intro v hv
  exact ne_of_compare_lt (h _ (mem_of_lookup hv)) rfl

/-- Lists of entries with ascending keys are equal if every key is looked up alike. -/
theorem eq_of_lookup [Std.TransOrd κ] {entries entries' : List (κ × υ)}
    (ha : entries.Pairwise fun a b => compare a.1 b.1 = .lt)
    (ha' : entries'.Pairwise fun a b => compare a.1 b.1 = .lt)
    (h : ∀ k, lookup k entries = lookup k entries') : entries = entries' := by
  induction entries generalizing entries' with
  | nil =>
    cases entries' with
    | nil => rfl
    | cons head rest =>
      have hhead := h head.1
      rw [lookup_cons, if_pos rfl] at hhead
      exact absurd hhead (by simp [lookup])
  | cons head rest ih =>
    obtain ⟨k, v⟩ := head
    have hk := h k
    rw [lookup_cons, if_pos rfl] at hk
    rw [List.pairwise_cons] at ha
    cases entries' with
    | nil => exact absurd hk (by simp [lookup])
    | cons head' rest' =>
      obtain ⟨k', v'⟩ := head'
      have hk' := h k'
      rw [lookup_cons k' k', if_pos rfl] at hk'
      rw [List.pairwise_cons] at ha'
      -- The two first keys are equal, since each is in both lists and comes first in one.
      have hkk : k = k' := by
        rcases List.mem_cons.1 (mem_of_lookup hk.symm) with he | he
        · exact (Prod.mk.inj he).1
        · rcases List.mem_cons.1 (mem_of_lookup hk') with he' | he'
          · exact (Prod.mk.inj he').1.symm
          · have hlt : compare k k = .lt := Std.TransCmp.lt_trans (ha.1 _ he') (ha'.1 _ he)
            exact absurd rfl (ne_of_compare_lt hlt)
      subst hkk
      rw [lookup_cons, if_pos rfl] at hk
      obtain rfl := Option.some.inj hk
      -- Behind equal entries the same key is looked up alike, since no other key is the first.
      have hrest : ∀ j, lookup j rest = lookup j rest' := by
        intro j
        by_cases hj : j = k
        · rw [hj, lookup_eq_none ha.1, lookup_eq_none ha'.1]
        · have := h j
          rwa [lookup_cons, lookup_cons, if_neg hj, if_neg hj] at this
      rw [ih ha.2 ha'.2 hrest]

/-! ## Maps -/

omit [DecidableEq κ] [Std.LawfulEqOrd κ] in
/-- Nothing is found in the empty map. -/
@[simp] theorem find?_empty (k : κ) : (empty : SortedMap κ υ).find? k = none :=
  rfl

/-- A value is found exactly if it is an entry. -/
theorem find?_eq_some_iff {m : SortedMap κ υ} {k : κ} {v : υ} :
    m.find? k = some v ↔ (k, v) ∈ m.entries :=
  ⟨mem_of_lookup, lookup_of_mem m.ascending⟩

/-- Behind an insertion the inserted value is found at its key, and elsewhere what was found
before. -/
theorem find?_insert [Std.TransOrd κ] (m : SortedMap κ υ) (k k' : κ) (v : υ) :
    (m.insert k v).find? k' = if k' = k then some v else m.find? k' :=
  lookup_put k k' v m.entries

/-- An inserted value is found. -/
@[simp] theorem find?_insert_self [Std.TransOrd κ] (m : SortedMap κ υ) (k : κ) (v : υ) :
    (m.insert k v).find? k = some v := by
  rw [find?_insert, if_pos rfl]

/-- An insertion is not seen at other keys. -/
theorem find?_insert_of_ne [Std.TransOrd κ] (m : SortedMap κ υ) {k k' : κ} (v : υ) (h : k' ≠ k) :
    (m.insert k v).find? k' = m.find? k' := by
  rw [find?_insert, if_neg h]

/-- What is found after an insertion was inserted, or was there before. -/
theorem find?_insert_cases [Std.TransOrd κ] {m : SortedMap κ υ} {k k' : κ} {v v' : υ}
    (h : (m.insert k v).find? k' = some v') :
    (k' = k ∧ v' = v) ∨ (k' ≠ k ∧ m.find? k' = some v') := by
  rw [find?_insert] at h
  split at h
  · rename_i hk
    exact .inl ⟨hk, (Option.some.inj h).symm⟩
  · rename_i hk
    exact .inr ⟨hk, h⟩

/-- Behind an erasure nothing is found at its key, and elsewhere what was found before. -/
theorem find?_erase (m : SortedMap κ υ) (k k' : κ) :
    (m.erase k).find? k' = if k' = k then none else m.find? k' :=
  lookup_remove k k' m.entries

/-- An erased value is not found. -/
@[simp] theorem find?_erase_self (m : SortedMap κ υ) (k : κ) : (m.erase k).find? k = none := by
  rw [find?_erase, if_pos rfl]

/-- An erasure is not seen at other keys. -/
theorem find?_erase_of_ne (m : SortedMap κ υ) {k k' : κ} (h : k' ≠ k) :
    (m.erase k).find? k' = m.find? k' := by
  rw [find?_erase, if_neg h]

/-- Maps in which every key is found alike are equal. -/
theorem ext_find? [Std.TransOrd κ] {m m' : SortedMap κ υ} (h : ∀ k, m.find? k = m'.find? k) :
    m = m' := by
  have hentries : m.entries = m'.entries := eq_of_lookup m.ascending m'.ascending h
  cases m
  cases m'
  simpa using hentries

/-- Replacing and dropping values goes value by value. -/
theorem find?_filterMap {υ' : Type} (f : κ → υ → Option υ') (m : SortedMap κ υ) (k : κ) :
    (m.filterMap f).find? k = (m.find? k).bind (f k) := by
  ext v
  rw [find?_eq_some_iff, filterMap, List.mem_filterMap]
  constructor
  · rintro ⟨e, he, hv⟩
    obtain ⟨v', hf, hv⟩ := Option.map_eq_some_iff.1 hv
    obtain ⟨rfl, rfl⟩ := Prod.mk.inj hv
    rw [find?_eq_some_iff.2 he]
    exact hf
  · intro hv
    obtain ⟨v', hm, hf⟩ := Option.bind_eq_some_iff.1 hv
    exact ⟨(k, v'), find?_eq_some_iff.1 hm, by rw [hf]; rfl⟩

end Muster.SortedMap
