/-!
# URI schemes

A few schemes are special: their URIs always have a host and a path, a backslash counts as a slash
in them, and each has a default port that is not written.
-/

namespace Muster.Uri

/-- How a scheme governs the rest of a URI. -/
inductive SchemeKind
  /-- Any scheme without rules of its own. -/
  | general
  /-- A special scheme with a default port. -/
  | special (defaultPort : UInt16)
  /-- The special scheme of local files, which need no host and have no port. -/
  | file
  deriving DecidableEq

namespace SchemeKind

/-- The kind of a scheme in lower case. -/
def ofScheme (scheme : List Char) : SchemeKind :=
  match String.ofList scheme with
  | "http" | "ws" => .special 80
  | "https" | "wss" => .special 443
  | "ftp" => .special 21
  | "file" => .file
  | _ => .general

/-- Whether the scheme is special. -/
def isSpecial : SchemeKind → Bool
  | .general => false
  | _ => true

/-- Whether a character separates the segments of a path. -/
def isSlash (kind : SchemeKind) (c : Char) : Bool :=
  c == '/' || (kind.isSpecial && c == '\\')

/-- Whether a character ends the part of a URI that names the host. -/
def endsAuthority (kind : SchemeKind) (c : Char) : Bool :=
  kind.isSlash c || c == '?' || c == '#'

end SchemeKind

/-- Reads the scheme in front of `:` and puts it in lower case. -/
def scheme? : List Char → Option (List Char × List Char)
  | [] => none
  | c :: rest => if c.isAlpha then go [] (c :: rest) else none
where
  /-- Collects the characters of the scheme in reverse. -/
  go (seen : List Char) : List Char → Option (List Char × List Char)
    | [] => none
    | ':' :: rest => some (seen.reverse, rest)
    | c :: rest =>
      if c.isAlphanum || c == '+' || c == '-' || c == '.' then go (c.toLower :: seen) rest else none

end Muster.Uri
