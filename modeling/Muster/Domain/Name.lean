import Muster.Domain.Label

/-!
# Domain names

The ASCII form of a domain name that may be written with any characters: its characters are folded,
the text is normalised, and each label is checked and put into its own ASCII form. A point is what
becomes one, so an ideographic full stop ends a label too.
-/

namespace Muster.Domain

open Muster.Unicode

/-- The ASCII form of a domain name; `none` if it is no domain name. -/
def toAscii? (name : List Char) : Option (List Char) := do
  let folded ← name.mapM fold?
  let labels ← ((normalize folded.flatten).splitOn '.').mapM Label.toUnicode?
  guard (!labels.any Label.needsDirection || labels.all Label.runsOneWay)
  let ascii ← labels.mapM Label.toAscii?
  return ['.'].intercalate ascii

end Muster.Domain
