import Muster.Proofs.SortedMap
import Muster.Store.Contents

/-!
# Changes and rows of contents

What a cell holds after changes (`find?_apply`), and the rows of a dictionary as a sorted list that
looks up what the cells of the dictionary hold (`lookup_rows`). Two contents whose cells agree on a
dictionary have the same rows there. Cells ascend with their dictionaries, and within one of them
with their keys (`Cell.lt_of_dictionary`, `Cell.lt_of_key`).
-/

namespace Muster.Cell

variable {cell cell' : Cell}

/-- Cells are in the order of their dictionaries. -/
theorem lt_of_dictionary (h : compare cell.dictionary cell'.dictionary = .lt) :
    compare cell cell' = .lt := by
  show (compare cell.dictionary cell'.dictionary).then (compare cell.key cell'.key) = .lt
  rw [h]
  rfl

/-- The cells of one dictionary are in the order of their keys. -/
theorem lt_of_key (hdictionary : cell.dictionary = cell'.dictionary)
    (h : compare cell.key cell'.key = .lt) : compare cell cell' = .lt := by
  show (compare cell.dictionary cell'.dictionary).then (compare cell.key cell'.key) = .lt
  rw [Std.LawfulEqOrd.compare_eq_iff_eq.2 hdictionary]
  exact h

end Muster.Cell

namespace Muster.Contents

open SortedMap (lookup lookup_cons lookup_put eq_of_lookup)

/-- One change sets its cell and leaves all others. -/
theorem find?_change (c : Contents) (cell cell' : Cell) (value : Option Bytes) :
    (c.change cell value).find? cell' = if cell' = cell then value else c.find? cell' := by
  cases value with
  | none => exact c.find?_erase cell cell'
  | some v => exact c.find?_insert cell cell' v

/-- Changes set their cells and leave all others; the order in which they are applied does not
matter, because every cell is changed once. -/
theorem find?_apply (c : Contents) (changes : Changes) (cell : Cell) :
    (c.apply changes).find? cell = (changes.find? cell).getD (c.find? cell) := by
  -- Changes are applied from the lowest cell up, so the induction is for all contents.
  have key : ∀ (entries : List (Cell × Option Bytes)) (c : Contents),
      entries.Pairwise (fun a b => compare a.1 b.1 = .lt) →
      (entries.foldl (fun c e => change c e.1 e.2) c).find? cell =
        (lookup cell entries).getD (c.find? cell) := by
    intro entries
    induction entries with
    | nil => intro c _; rfl
    | cons head rest ih =>
      intro c ha
      rw [List.pairwise_cons] at ha
      rw [List.foldl_cons, ih _ ha.2, find?_change, lookup_cons]
      by_cases h : cell = head.1
      -- The cell of the first change is not changed again.
      · rw [if_pos h, if_pos h, h, SortedMap.lookup_eq_none ha.1]
        rfl
      · rw [if_neg h, if_neg h]
  exact key changes.entries c changes.ascending

/-! ## Rows -/

/-- The rows of a dictionary are the entries of its cells. -/
theorem mem_rows {c : Contents} {dictionary : String} {row : Row} :
    row ∈ c.rows dictionary ↔ (⟨dictionary, row.1⟩, row.2) ∈ c.entries := by
  rw [rows, List.mem_filterMap]
  constructor
  · rintro ⟨⟨⟨d, k⟩, v⟩, he, hrow⟩
    split at hrow
    · rename_i hd
      obtain rfl := Option.some.inj hrow
      obtain rfl : d = dictionary := hd
      exact he
    · exact absurd hrow (by simp)
  · intro he
    exact ⟨_, he, by simp⟩

/-- The keys of the rows ascend. -/
theorem rows_ascending (c : Contents) (dictionary : String) :
    (c.rows dictionary).Pairwise fun a b => compare a.1 b.1 = .lt := by
  refine c.ascending.filterMap _ ?_
  rintro ⟨⟨d, k⟩, v⟩ ⟨⟨d', k'⟩, v'⟩ hlt row hrow row' hrow'
  split at hrow
  · rename_i hd
    split at hrow'
    · rename_i hd'
      obtain rfl := Option.some.inj hrow
      obtain rfl := Option.some.inj hrow'
      obtain rfl : d = dictionary := hd
      obtain rfl : d' = d := hd'
      -- The cells of one dictionary are in the order of their keys.
      have hlt : (compare d' d').then (compare k k') = .lt := hlt
      rwa [Std.LawfulEqOrd.compare_eq_iff_eq.2 rfl] at hlt
    · exact absurd hrow' (by simp)
  · exact absurd hrow (by simp)

/-- A row is found where its cell is. -/
theorem lookup_rows (c : Contents) (dictionary key : String) :
    lookup key (c.rows dictionary) = c.find? ⟨dictionary, key⟩ := by
  ext v
  rw [SortedMap.find?_eq_some_iff]
  constructor
  · intro h
    exact mem_rows.1 (SortedMap.mem_of_lookup h)
  · intro h
    exact SortedMap.lookup_of_mem (c.rows_ascending dictionary)
      (mem_rows.2 h : (key, v) ∈ c.rows dictionary)

/-- The rows of a dictionary are determined by what its cells hold. -/
theorem rows_eq_of_lookup {c : Contents} {dictionary : String} {entries : List Row}
    (ha : entries.Pairwise fun a b => compare a.1 b.1 = .lt)
    (h : ∀ key, c.find? ⟨dictionary, key⟩ = lookup key entries) : c.rows dictionary = entries := by
  refine eq_of_lookup (c.rows_ascending dictionary) ha fun key => ?_
  rw [lookup_rows, h]

/-- The rows of a dictionary depend on the cells of the dictionary only. -/
theorem rows_congr {c c' : Contents} {dictionary : String}
    (h : ∀ key, c.find? ⟨dictionary, key⟩ = c'.find? ⟨dictionary, key⟩) :
    c.rows dictionary = c'.rows dictionary :=
  rows_eq_of_lookup (c'.rows_ascending dictionary) fun key => by rw [h, lookup_rows]

/-! ## Keys -/

/-- The keys of the rows are those whose cells hold something. -/
theorem mem_keys {c : Contents} {dictionary key : String} :
    key ∈ (c.rows dictionary).map Prod.fst ↔ (c.find? ⟨dictionary, key⟩).isSome = true := by
  rw [List.mem_map, Option.isSome_iff_exists]
  constructor
  · rintro ⟨row, hrow, rfl⟩
    exact ⟨row.2, SortedMap.find?_eq_some_iff.2 (mem_rows.1 hrow)⟩
  · rintro ⟨v, hv⟩
    exact ⟨(key, v), mem_rows.2 (SortedMap.find?_eq_some_iff.1 hv), rfl⟩

/-- No two rows have the same key. -/
theorem nodup_keys (c : Contents) (dictionary : String) :
    ((c.rows dictionary).map Prod.fst).Nodup := by
  rw [List.Nodup, List.pairwise_map]
  exact (c.rows_ascending dictionary).imp fun hlt => SortedMap.ne_of_compare_lt hlt

/-- Contents with the same keys have as many rows. -/
theorem length_rows_congr {c c' : Contents} {dictionary : String}
    (h : ∀ key, (c'.find? ⟨dictionary, key⟩).isSome = (c.find? ⟨dictionary, key⟩).isSome) :
    (c'.rows dictionary).length = (c.rows dictionary).length := by
  -- The keys are the same up to their order, so there are as many of them.
  have hperm := (List.perm_ext_iff_of_nodup (c'.nodup_keys dictionary) (c.nodup_keys dictionary)).2
    fun key => by rw [mem_keys, mem_keys, h]
  have hlength := hperm.length_eq
  rwa [List.length_map, List.length_map] at hlength

/-- Contents with one more key have one more row. -/
theorem length_rows_insert {c c' : Contents} {dictionary key : String}
    (hnone : c.find? ⟨dictionary, key⟩ = none)
    (h : ∀ key', (c'.find? ⟨dictionary, key'⟩).isSome =
      (decide (key' = key) || (c.find? ⟨dictionary, key'⟩).isSome)) :
    (c'.rows dictionary).length = (c.rows dictionary).length + 1 := by
  have hnodup : (key :: (c.rows dictionary).map Prod.fst).Nodup := by
    refine List.nodup_cons.2 ⟨?_, c.nodup_keys dictionary⟩
    rw [mem_keys, hnone]
    simp
  have hperm := (List.perm_ext_iff_of_nodup (c'.nodup_keys dictionary) hnodup).2 fun key' => by
    rw [mem_keys, h, List.mem_cons, mem_keys, Bool.or_eq_true, decide_eq_true_iff]
  have hlength := hperm.length_eq
  rwa [List.length_map, List.length_cons, List.length_map] at hlength

end Muster.Contents
