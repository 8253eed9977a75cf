import Muster.Domain.Punycode
import Muster.Domain.Repertoire
import Muster.Unicode.Composition
import Muster.Unicode.Direction
import Muster.Unicode.Joining

/-!
# Labels of domain names

A domain name consists of labels. Each has a Unicode form, which is shown, and an ASCII form, which
is sent: `xn--` and the Punycode of the other, unless it is ASCII already. Here are the rules that
the Unicode form obeys.
-/

namespace Muster.Domain.Label

open Muster.Unicode

/-- What an ASCII form begins with that stands for another text. -/
def mark : List Char := ['x', 'n', '-', '-']

/-- Whether a label is ASCII. -/
def isAscii (label : List Char) : Bool :=
  label.all fun c => decide (c.toNat < 0x80)

/-! ## Joiners

A joiner and a non-joiner are invisible and change how letters meet. They are allowed where they
make a difference: behind a virama, and the non-joiner also where two letters would join.
-/

/-- The character that keeps letters apart. -/
def nonJoiner : Char := Char.ofNat 0x200c

/-- The character that makes letters join. -/
def joiner : Char := Char.ofNat 0x200d

/-- Whether a joiner or non-joiner may stand between two texts; `before` is given from its end. -/
def joinerFits (c : Char) (before after : List Char) : Bool :=
  before.head?.any isVirama ||
    (c == nonJoiner && (before.dropWhile isTransparent).head?.any joinsNext
      && (after.dropWhile isTransparent).head?.any joinsPrevious)

/-- Whether every joiner and non-joiner fits its place; `before` is what has been passed, from its
end. -/
def joinersFit (before : List Char) : List Char → Bool
  | [] => true
  | c :: rest =>
    ((c != nonJoiner && c != joiner) || joinerFits c before rest) && joinersFit (c :: before) rest

/-! ## Directions -/

/-- Whether a name with these characters mixes directions, so that its labels must obey the rule
for them. -/
def needsDirection (text : List Char) : Bool :=
  text.any fun c => direction c == .right || direction c == .arabicNumber

/-- Whether a label of a name that needs it runs in one direction: its first character says which,
it ends in a character of that direction or a number, and it holds none of the other. -/
def runsOneWay (label : List Char) : Bool :=
  let classes := label.map direction
  -- Marks at the end run with what they stand on, so they do not count as its last character.
  let last := (classes.reverse.dropWhile (· == .mark)).head?
  match classes with
  | [] => true
  | .left :: _ =>
    classes.all (fun d => d == .left || d == .europeanNumber || d == .neutral || d == .mark)
      && (last == some .left || last == some .europeanNumber)
  | .right :: _ =>
    classes.all (· != .left)
      && (last == some .right || last == some .europeanNumber || last == some .arabicNumber)
      && !(classes.contains .europeanNumber && classes.contains .arabicNumber)
  | _ => false

/-! ## Forms -/

/-- Whether a Unicode form, normalised and free of characters that change, is that of a label. -/
def isValid (label : List Char) : Bool :=
  !label.head?.any isMark && joinersFit [] label

/-- The longest Punycode that is read. -/
def maxEncoded : Nat := 2000

/-- The longest label that is written in Punycode. -/
def maxDecoded : Nat := 1000

/-- The text that stands behind the mark of an ASCII form. It has to need that form, to be
normalised, to hold no character that changes, and not to bear the mark itself. -/
def decode? (encoded : List Char) : Option (List Char) := do
  guard (encoded.length ≤ maxEncoded)
  let text ← Punycode.decode? encoded
  guard (!isAscii text && (Chars.dropWord? mark text).isNone)
  guard (text.all isStable && normalize text == text)
  return text

/-- The Unicode form of a label that has been folded and normalised. -/
def toUnicode? (label : List Char) : Option (List Char) :=
  let unicode :=
    match Chars.dropWord? mark label with
    | none => some label
    | some encoded => decode? encoded
  unicode.filter isValid

/-- The ASCII form of a Unicode form. -/
def toAscii? (label : List Char) : Option (List Char) :=
  if isAscii label then some label
  else if label.length ≤ maxDecoded then some (mark ++ Punycode.encode label)
  else none

end Muster.Domain.Label
