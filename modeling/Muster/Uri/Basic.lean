import Muster.Text.Decimal
import Muster.Uri.Host
import Muster.Uri.Path
import Muster.Uri.Scheme

/-!
# URIs

The parts of an absolute URI, its text, and the reader that takes any text apart. The reader
normalises as it goes: the scheme is put in lower case, what a part may not hold is
percent-encoded, and segments that move are resolved. So `toText` of what `ofText?` gives is the
normal form of the text read.
-/

namespace Muster

/-- What stands behind `//`: who asks, and where. -/
structure Uri.Authority where
  /-- User name and password, as they are written before `@`. -/
  userinfo : Option (List Char)
  /-- The host. -/
  host : Uri.Host
  /-- The port, unless it is the default of the scheme. -/
  port : Option UInt16
  deriving DecidableEq

/-- An absolute URI. -/
structure Uri where
  /-- The scheme in lower case. -/
  scheme : List Char
  /-- The authority, if there is one. -/
  authority : Option Uri.Authority
  /-- The path: empty, or beginning with a slash, or opaque if there is no authority. -/
  path : List Char
  /-- What stands behind `?`. -/
  query : Option (List Char)
  /-- What stands behind `#`. -/
  fragment : Option (List Char)
  deriving DecidableEq

namespace Uri

/-- The text of an authority. -/
def Authority.toText (authority : Authority) : String :=
  (match authority.userinfo with
    | some info => String.ofList info ++ "@"
    | none => "") ++
  authority.host.toText ++
  (match authority.port with
    | some port => ":" ++ Decimal.ofNat port.toNat
    | none => "")

/-- The text of a URI. A path that begins with two slashes is marked by `/.` where there is no
authority, so that it cannot be taken for one. -/
def toText (uri : Uri) : String :=
  String.ofList uri.scheme ++ ":" ++
  (match uri.authority with
    | some authority => "//" ++ authority.toText
    -- A path that begins with two slashes must not be taken for an authority.
    | none => if (Chars.dropWord? ['/', '/'] uri.path).isSome then "/." else "") ++
  String.ofList uri.path ++
  (match uri.query with
    | some query => "?" ++ String.ofList query
    | none => "") ++
  (match uri.fragment with
    | some fragment => "#" ++ String.ofList fragment
    | none => "")

/-- The host of a URI, if it has one that is not empty. -/
def host? (uri : Uri) : Option Host :=
  match uri.authority with
  | none => none
  | some authority => if authority.host = .empty then none else some authority.host

/-- The port of a URI, if one is written. -/
def port? (uri : Uri) : Option UInt16 :=
  uri.authority.bind (·.port)

/-- Reads the query and the fragment. -/
def readTail (kind : SchemeKind) (text : List Char) : Option (List Char) × Option (List Char) :=
  let reserved := if kind.isSpecial then Percent.specialQuery else Percent.query
  match text with
  | '?' :: text =>
    (some (Percent.encode reserved (text.takeWhile (· != '#'))),
      match text.dropWhile (· != '#') with
      | _ :: fragment => some (Percent.encode Percent.fragment fragment)
      | [] => none)
  | '#' :: fragment => (none, some (Percent.encode Percent.fragment fragment))
  | _ => (none, none)

/-- Whether a character ends a path. -/
def endsPath (c : Char) : Bool :=
  c == '?' || c == '#'

/-- The URI with the given parts in front of the query and the fragment. -/
def withTail (kind : SchemeKind) (scheme : List Char) (authority : Option Authority)
    (path rest : List Char) : Uri :=
  let tail := readTail kind rest
  ⟨scheme, authority, path, tail.1, tail.2⟩

/-- Reads path, query and fragment behind an authority. The path of a special scheme is never
empty. -/
def afterAuthority (kind : SchemeKind) (scheme : List Char) (authority : Authority)
    (text : List Char) : Uri :=
  let raw := text.takeWhile (!endsPath ·)
  let rest := text.dropWhile (!endsPath ·)
  let path :=
    match raw with
    | [] => if kind.isSpecial then ['/'] else []
    | c :: below => Path.ofText kind.isSlash (if kind.isSlash c then below else c :: below)
  withTail kind scheme (some authority) path rest

/-- The part of a text that names a host: up to a colon outside brackets. -/
def hostLength (inBrackets : Bool) : List Char → Nat
  | [] => 0
  | ':' :: rest => if inBrackets then hostLength inBrackets rest + 1 else 0
  | '[' :: rest => hostLength true rest + 1
  | ']' :: rest => hostLength false rest + 1
  | _ :: rest => hostLength inBrackets rest + 1

/-- Reads the digits of a port, which the end of the authority or a backslash follows. -/
def readPort (kind : SchemeKind) (text : List Char) : Except Fault (Option UInt16 × List Char) :=
  let digits := text.takeWhile Char.isDigit
  let rest := text.dropWhile Char.isDigit
  match Decimal.magnitude 65535 .tooLarge 0 digits with
  | .error _ => .error .invalidPort
  | .ok n =>
    match rest with
    | [] => .ok (port digits n, rest)
    | c :: _ =>
      if endsPath c || c == '/' || c == '\\' then .ok (port digits n, rest)
      else .error .invalidPort
where
  /-- The port of a number: none without digits or for the default of the scheme. -/
  port (digits : List Char) (n : Nat) : Option UInt16 :=
    if digits.isEmpty ∨ kind = .special (UInt16.ofNat n) then none else some (UInt16.ofNat n)

/-- User name and password as they are written in a URI: nothing if both are empty. -/
def userinfo (text : List Char) : Option (List Char) :=
  let name := Percent.encode Percent.userinfo (text.takeWhile (· != ':'))
  let password := Percent.encode Percent.userinfo ((text.dropWhile (· != ':')).drop 1)
  if password.isEmpty then if name.isEmpty then none else some name
  else some (name ++ ':' :: password)

/-- Reads a URI behind the `//` of its authority. -/
def afterSlashes (kind : SchemeKind) (scheme : List Char) (text : List Char) :
    Except Fault Uri := do
  let front := text.takeWhile (!kind.endsAuthority ·)
  let rest := text.dropWhile (!kind.endsAuthority ·)
  -- User information goes up to the last of the at signs.
  let (info, place) := (Chars.splitLast? '@' front).getD ([], front)
  if info.isEmpty && place.isEmpty && !front.isEmpty && !rest.isEmpty then throw .emptyHost
  let user := userinfo info
  let length := hostLength false place
  let name := place.take length
  let host ← if kind.isSpecial then
      if name.isEmpty then throw .emptyHost else Host.special? name
    else Host.general? name
  let colon := !(place.drop length).isEmpty
  -- Without a host there is nobody to have a port or a user.
  if host = .empty ∧ (colon ∨ user.isSome) then throw .emptyHost
  let (port, rest) ← if colon then readPort kind (place.drop (length + 1) ++ rest)
    else pure (none, rest)
  return afterAuthority kind scheme ⟨user, host, port⟩ rest

/-- Reads the path of a local file, which `host` serves, and query and fragment behind it. A path
that begins with a drive is on this host. -/
def afterFileHost (scheme : List Char) (host : Host) (text : List Char) : Uri :=
  let kind := SchemeKind.file
  let raw := text.takeWhile (!endsPath ·)
  let path := Path.ofFileText kind.isSlash raw
  let host := if path.2 then .empty else host
  withTail kind scheme (some ⟨none, host, none⟩) path.1 (text.dropWhile (!endsPath ·))

/-- Reads the URI of a local file behind `file:`. A drive in the place of the host begins the
path. -/
def afterFile (scheme : List Char) (text : List Char) : Except Fault Uri :=
  let kind := SchemeKind.file
  match text with
  | c :: d :: rest =>
    if kind.isSlash c && kind.isSlash d then
      let name := rest.takeWhile (!kind.endsAuthority ·)
      -- Without a host the text goes on behind the slash that every path begins with.
      if name.isEmpty || Path.isDrive name then .ok (afterFileHost scheme .empty rest)
      else do
        let host ← Host.special? name
        if host = .domain "localhost".toList then
          return afterFileHost scheme .empty (rest.drop name.length)
        return afterFileHost scheme host (below kind (rest.drop name.length))
    else .ok (afterFileHost scheme .empty (below kind text))
  | _ => .ok (afterFileHost scheme .empty (below kind text))
where
  /-- The text behind the slash that it begins with, if it does. -/
  below (kind : SchemeKind) : List Char → List Char
    | [] => []
    | c :: rest => if kind.isSlash c then rest else c :: rest

/-- Reads a URI of a general scheme behind its colon. -/
def afterGeneral (scheme : List Char) (text : List Char) : Except Fault Uri :=
  let kind := SchemeKind.general
  let raw := text.takeWhile (!endsPath ·)
  let rest := text.dropWhile (!endsPath ·)
  match text with
  | '/' :: '/' :: text => afterSlashes kind scheme text
  | '/' :: _ => .ok (withTail kind scheme none (Path.ofText kind.isSlash (raw.drop 1)) rest)
  | _ => .ok (withTail kind scheme none (Percent.encode Percent.controls raw) rest)

/-- Whether a character is dropped at both ends of a text. -/
def isMargin (c : Char) : Bool :=
  c.toNat ≤ 0x20

/-- The text without margins and without the tabs and line ends inside it. -/
def tidy (text : List Char) : List Char :=
  (((text.dropWhile isMargin).reverse.dropWhile isMargin).reverse).filter fun c =>
    c != '\t' && c != '\n' && c != '\r'

/-- Reads a text as an absolute URI. -/
def ofText? (text : String) : Except Fault Uri :=
  match scheme? (tidy text.toList) with
  | none => .error .relative
  | some (scheme, rest) =>
    match SchemeKind.ofScheme scheme with
    | .general => afterGeneral scheme rest
    | .file => afterFile scheme rest
    | .special port =>
      let kind := SchemeKind.special port
      afterSlashes kind scheme (rest.dropWhile kind.isSlash)

end Uri

end Muster
