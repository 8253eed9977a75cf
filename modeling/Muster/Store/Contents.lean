import Muster.Bytes
import Muster.SortedMap

/-!
# Contents of a store

A store keeps bytes under the keys of named dictionaries. Its contents are one map from cells, a
cell being a key of a dictionary; so whatever ranges over several dictionaries at once, such as a
commit, is one operation. Cells are ordered by dictionary and then by key, which makes the rows of
a dictionary ascend.
-/

namespace Muster

/-- A key of a dictionary. -/
structure Cell where
  /-- The name of the dictionary. -/
  dictionary : String
  /-- The key. -/
  key : String
  deriving DecidableEq

namespace Cell

instance : Ord Cell where
  compare := compareLex (compareOn Cell.dictionary) (compareOn Cell.key)

instance : Std.TransOrd Cell :=
  inferInstanceAs (Std.TransCmp (compareLex (compareOn Cell.dictionary) (compareOn Cell.key)))

instance : Std.LawfulEqOrd Cell where
  eq_of_compare {a b} h := by
    have h : (compare a.dictionary b.dictionary).then (compare a.key b.key) = .eq := h
    obtain ⟨hd, hk⟩ := Ordering.then_eq_eq.1 h
    have hd : a.dictionary = b.dictionary := Std.LawfulEqOrd.eq_of_compare hd
    have hk : a.key = b.key := Std.LawfulEqOrd.eq_of_compare hk
    cases a
    cases b
    simp_all
  compare_self {a} := by
    have hd : compare a.dictionary a.dictionary = .eq := Std.ReflCmp.compare_self
    have hk : compare a.key a.key = .eq := Std.ReflCmp.compare_self
    show (compare a.dictionary a.dictionary).then (compare a.key a.key) = .eq
    rw [hd, hk]
    rfl

end Cell

/-- What a store keeps. -/
abbrev Contents := SortedMap Cell Bytes

/-- Changes to contents: a value to be written, or `none` for a cell to be cleared. -/
abbrev Changes := SortedMap Cell (Option Bytes)

/-- A row of a dictionary: its key and its value. -/
abbrev Row := String × Bytes

namespace Contents

/-- The contents after one change. -/
def change (contents : Contents) (cell : Cell) : Option Bytes → Contents
  | some value => contents.insert cell value
  | none => contents.erase cell

/-- The contents after changes. -/
def apply (contents : Contents) (changes : Changes) : Contents :=
  changes.entries.foldl (fun c e => change c e.1 e.2) contents

/-- The rows of a dictionary in ascending order of keys. -/
def rows (contents : Contents) (dictionary : String) : List Row :=
  contents.entries.filterMap fun e =>
    if e.1.dictionary = dictionary then some (e.1.key, e.2) else none

end Contents

end Muster
