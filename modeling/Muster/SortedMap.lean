/-!
# Sorted maps

A finite map as the list of its entries in strictly ascending order of keys. So two maps with the
same entries are equal, and enumerating a map needs no sorting. The order of keys is any lawful
linear order.
-/

namespace Muster

/-- A finite map from `κ` to `υ`. -/
structure SortedMap (κ υ : Type) [Ord κ] where
  /-- The entries in ascending order of keys. -/
  entries : List (κ × υ)
  /-- The keys ascend strictly. -/
  ascending : entries.Pairwise fun a b => compare a.1 b.1 = .lt

namespace SortedMap

variable {κ υ : Type} [Ord κ]

/-- The value of a key in a list of entries. -/
def lookup (k : κ) : List (κ × υ) → Option υ
  | [] => none
  | (k', v) :: rest => if compare k k' = .eq then some v else lookup k rest

/-- The entries with a value put at a key, in place of the one it had. -/
def put (k : κ) (v : υ) : List (κ × υ) → List (κ × υ)
  | [] => [(k, v)]
  | (k', v') :: rest =>
    match compare k k' with
    | .lt => (k, v) :: (k', v') :: rest
    | .eq => (k, v) :: rest
    | .gt => (k', v') :: put k v rest

/-- The entries without that of a key. -/
def remove (k : κ) (entries : List (κ × υ)) : List (κ × υ) :=
  entries.filter fun e => compare k e.1 != .eq

/-- What is among the entries with a value put at a key is that value, or it was among them
before. -/
theorem mem_put {k : κ} {v : υ} {e : κ × υ} {entries : List (κ × υ)} (h : e ∈ put k v entries) :
    e = (k, v) ∨ e ∈ entries := by
  induction entries with
  | nil => simpa [put] using h
  | cons head rest ih =>
    obtain ⟨k', v'⟩ := head
    simp only [put] at h
    split at h
    · simpa using h
    · simp only [List.mem_cons] at h ⊢
      exact h.imp_right .inr
    · simp only [List.mem_cons] at h ⊢
      rcases h with h | h
      · exact .inr (.inl h)
      · exact (ih h).imp_right .inr

/-- Putting a value at a key keeps the keys in ascending order. -/
theorem ascending_put [Std.TransOrd κ] [Std.LawfulEqOrd κ] {k : κ} {v : υ} {entries : List (κ × υ)}
    (h : entries.Pairwise fun a b => compare a.1 b.1 = .lt) :
    (put k v entries).Pairwise fun a b => compare a.1 b.1 = .lt := by
  induction entries with
  | nil => simp [put]
  | cons head rest ih =>
    obtain ⟨k', v'⟩ := head
    rw [List.pairwise_cons] at h
    simp only [put]
    split
    · rename_i hk
      refine List.pairwise_cons.2 ⟨fun e he => ?_, List.pairwise_cons.2 h⟩
      rcases List.mem_cons.1 he with rfl | he
      · exact hk
      · exact Std.TransCmp.lt_trans hk (h.1 e he)
    · rename_i hk
      obtain rfl := Std.LawfulEqOrd.eq_of_compare hk
      exact List.pairwise_cons.2 ⟨h.1, h.2⟩
    · rename_i hk
      refine List.pairwise_cons.2 ⟨fun e he => ?_, ih h.2⟩
      rcases mem_put he with rfl | he
      · exact Std.OrientedCmp.lt_of_gt hk
      · exact h.1 e he

/-- The map without entries. -/
def empty : SortedMap κ υ :=
  ⟨[], List.Pairwise.nil⟩

/-- The value of a key. -/
def find? (m : SortedMap κ υ) (k : κ) : Option υ :=
  lookup k m.entries

/-- The map with a value put at a key. -/
def insert [Std.TransOrd κ] [Std.LawfulEqOrd κ] (m : SortedMap κ υ) (k : κ) (v : υ) :
    SortedMap κ υ :=
  ⟨put k v m.entries, ascending_put m.ascending⟩

/-- The map without a key. -/
def erase (m : SortedMap κ υ) (k : κ) : SortedMap κ υ :=
  ⟨remove k m.entries, m.ascending.filter _⟩

/-- The map with some values replaced and others dropped. -/
def filterMap {υ' : Type} (f : κ → υ → Option υ') (m : SortedMap κ υ) : SortedMap κ υ' where
  entries := m.entries.filterMap fun e => (f e.1 e.2).map (e.1, ·)
  ascending := by
    refine m.ascending.filterMap _ ?_
    intro a b hab a' ha' b' hb'
    simp only [Option.map_eq_some_iff] at ha' hb'
    obtain ⟨_, _, rfl⟩ := ha'
    obtain ⟨_, _, rfl⟩ := hb'
    exact hab

/-- The map of a list of entries; of two entries with one key the later counts. -/
def ofList [Std.TransOrd κ] [Std.LawfulEqOrd κ] (entries : List (κ × υ)) : SortedMap κ υ :=
  entries.foldl (fun m e => m.insert e.1 e.2) empty

end SortedMap

end Muster
