import Muster.Uri.Percent

/-!
# Paths

A hierarchical path is read segment by segment. A segment `.` is dropped and a segment `..` takes
the one before it away, also when their points are percent-encoded; a drive is never taken away. So
a path that has been read holds no segment that moves.
-/

namespace Muster.Uri.Path

/-- The spellings of a point inside a segment that moves. -/
def dropPoint? : List Char → Option (List Char)
  | '.' :: rest => some rest
  | '%' :: '2' :: 'e' :: rest => some rest
  | '%' :: '2' :: 'E' :: rest => some rest
  | _ => none

/-- Whether a segment stands for the place it is in. -/
def isSingleDot (segment : List Char) : Bool :=
  dropPoint? segment == some []

/-- Whether a segment stands for the place above. -/
def isDoubleDot (segment : List Char) : Bool :=
  (dropPoint? segment).bind dropPoint? == some []

/-- Whether a segment is a drive: a letter and a colon or a bar. -/
def isDrive : List Char → Bool
  | c :: sep :: rest =>
    c.isAlpha && (sep == ':' || sep == '|') && (rest.isEmpty || rest.head? == some '\\')
  | _ => false

/-- The segments before a place, the nearest first, after a step up. -/
def up : List (List Char) → List (List Char)
  | [] => []
  | segment :: above => if isDrive segment then segment :: above else above

/-- The segments of a path without those that move: `above` holds the segments already passed, the
nearest first. A path that ends in a move ends in an empty segment. -/
def resolve (above : List (List Char)) : List (List Char) → List (List Char)
  | [] => above.reverse ++ [[]]
  | [segment] =>
    if isDoubleDot segment then (up above).reverse ++ [[]]
    else if isSingleDot segment then above.reverse ++ [[]]
    else above.reverse ++ [segment]
  | segment :: rest =>
    if isDoubleDot segment then resolve (up above) rest
    else if isSingleDot segment then resolve above rest
    else resolve (segment :: above) rest

/-- The segments of the text behind the first slash of a path. -/
def segments (isSlash : Char → Bool) (text : List Char) : List (List Char) :=
  resolve [] ((text.splitOnP isSlash).map (Percent.encode Percent.path))

/-- The text of a path with these segments. -/
def toText (segments : List (List Char)) : List Char :=
  '/' :: ['/'].intercalate segments

/-- Reads the text behind the first slash of a path. -/
def ofText (isSlash : Char → Bool) (text : List Char) : List Char :=
  toText (segments isSlash text)

/-- Reads the text behind the first slash of the path of a local file, and tells whether the path
begins with a drive. A colon is written behind the letter of the drive, and slashes at the
beginning count as one. -/
def ofFileText (isSlash : Char → Bool) (text : List Char) : List Char × Bool :=
  let segments := segments isSlash text
  match segments with
  | [] => (['/'], false)
  | first :: rest =>
    if isDrive first then (toText ((first.take 1 ++ [':']) :: rest), true)
    else ('/' :: (toText segments).dropWhile (· == '/'), false)

end Muster.Uri.Path
