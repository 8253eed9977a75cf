/-!
# Reading steps over characters

A reader takes a list of characters and returns what it read with the characters that are left.
The steps here are the ones every reader shares: one expected character, and one expected word.
-/

namespace Muster.Chars

/-- The characters after `c`, if the text starts with it. -/
def expect? (c : Char) : List Char → Option (List Char)
  | [] => none
  | d :: rest => if d = c then some rest else none

/-- The characters after the word `w`, if the text starts with it. -/
def dropWord? : List Char → List Char → Option (List Char)
  | [], rest => some rest
  | _ :: _, [] => none
  | w :: ws, c :: rest => if c = w then dropWord? ws rest else none

/-- The text in front of the last `c` and the text behind it. -/
def splitLast? (c : Char) : List Char → Option (List Char × List Char)
  | [] => none
  | d :: rest =>
    match splitLast? c rest with
    | some (front, back) => some (d :: front, back)
    | none => if d = c then some ([], rest) else none

/-- A character that is expected is taken off the front. -/
theorem expect?_cons (c : Char) (rest : List Char) : expect? c (c :: rest) = some rest := by
  simp [expect?]

/-- A word that is expected is taken off the front. -/
theorem dropWord?_append (w rest : List Char) : dropWord? w (w ++ rest) = some rest := by
  induction w with
  | nil => rfl
  | cons c w ih => simp [dropWord?, ih]

/-- A text without `c` has no last `c`. -/
theorem splitLast?_eq_none {c : Char} {s : List Char} (h : c ∉ s) : splitLast? c s = none := by
  induction s with
  | nil => rfl
  | cons d rest ih =>
    simp only [List.mem_cons, not_or] at h
    simp [splitLast?, ih h.2, Ne.symm h.1]

/-- The last `c` is the one with no `c` behind it. -/
theorem splitLast?_append {c : Char} (front : List Char) {back : List Char} (h : c ∉ back) :
    splitLast? c (front ++ c :: back) = some (front, back) := by
  induction front with
  | nil => simp [splitLast?, splitLast?_eq_none h]
  | cons d front ih => simp [splitLast?, ih]

end Muster.Chars
