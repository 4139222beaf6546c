import Vouch.Text.Split
import Vouch.Url.Basic
import Vouch.Url.Error
import Vouch.Url.Host

/-!
# Reading URLs

Controls and spaces around the text are dropped, tabs and line breaks everywhere.  What is left is
cut into its parts from left to right: scheme, authority, path, query, fragment.  Each part is
brought into its usual form.

A drive letter that begins the path of a file is a segment of its own: nothing leaves it, and it
stands in for the host.  It is only recognised when the segment holds nothing else, or when a tab
or a line break cuts it off from the rest.
-/

namespace Vouch.Url

-- The text without the controls and spaces around it.
def trimEdges (cs : List Char) : List Char :=
  let isEdge (c : Char) : Bool := c.toNat ≤ 0x20
  ((cs.dropWhile isEdge).reverse.dropWhile isEdge).reverse

-- Whether a character is a tab or a line break.
def isBreak (c : Char) : Bool :=
  ['\t', '\n', '\r'].contains c

-- The text without tabs and line breaks.
def dropBreaks (cs : List Char) : List Char :=
  cs.filter (!isBreak ·)

def isSchemeChar (c : Char) : Bool :=
  c.isAlphanum || c = '+' || c = '-' || c = '.'

-- The scheme, in lower case, and what follows its colon.
def splitScheme? (cs : List Char) : Option (List Char × List Char) :=
  let scheme := cs.takeWhile isSchemeChar
  match cs.dropWhile isSchemeChar with
  | ':' :: rest =>
    if scheme.head?.any Char.isAlpha then some (scheme.map Char.toLower, rest) else none
  | _ => none

-- Whether a character counts as a slash.
def isSlash (special : Bool) (c : Char) : Bool :=
  c = '/' || (special && c = '\\')

def endsPath (c : Char) : Bool :=
  c = '?' || c = '#'

-- Whether a segment is a drive letter followed by a colon or a bar.
def isDriveLetter : List Char → Bool
  | [letter, c] => letter.isAlpha && (c = ':' || c = '|')
  | _ => false

-- Whether a segment stands for the segment it is in.
def isSingleDot (segment : List Char) : Bool :=
  let segment := segment.map Char.toLower
  segment = ['.'] || segment = "%2e".toList

-- Whether a segment stands for the segment before.
def isDoubleDot (segment : List Char) : Bool :=
  let segment := segment.map Char.toLower
  [['.', '.'], "%2e.".toList, ".%2e".toList, "%2e%2e".toList].contains segment

-- The pieces of a path between slashes.
def cutSegments (special : Bool) : List Char → List (List Char)
  | [] => [[]]
  | c :: rest =>
    if isSlash special c then
      [] :: cutSegments special rest
    else
      match cutSegments special rest with
      | [] => [[c]]
      | segment :: others => (c :: segment) :: others

-- Leaves the last segment, which is first in the list; a drive letter is not left.
def leaveSegment : List (List Char) → List (List Char)
  | [] => []
  | segment :: before => if isDriveLetter segment then segment :: before else before

/-- A segment of a path before dots and drive letters are made out. -/
inductive Piece where
  -- A segment as it is written.
  | whole (text : List Char)
  -- A drive letter with its colon, and the rest of the segment, from which a tab or a line break
  -- cuts it off.
  | cut (drive rest : List Char)
  deriving DecidableEq, Repr

def Piece.text : Piece → List Char
  | .whole text => text
  | .cut drive rest => drive ++ rest

-- A piece of a file's path as it is written.
def Piece.ofFile (written : List Char) : Piece :=
  let whole := .whole (percentEncode .path (dropBreaks written))
  match written.dropWhile isBreak with
  | letter :: after =>
    match after.dropWhile isBreak with
    | ':' :: after =>
      let rest := dropBreaks after
      if letter.isAlpha && after.head?.any isBreak && !rest.isEmpty then
        .cut [letter, ':'] (percentEncode .path rest)
      else
        whole
    | _ => whole
  | [] => whole

-- A drive letter, written with a colon.
def colonDrive (segment : List Char) : List Char :=
  segment.take 1 ++ [':']

/-- Resolved segments of a path. -/
structure Resolved where
  segments : List (List Char)
  -- Whether the first segment is a drive letter that stands in for the host.
  drive : Bool
  deriving DecidableEq, Repr

/-- The segments after those in `done`, which are in reverse order.  Dot segments are resolved;
the path ends with an empty segment after one.  In the path of a file a drive letter may come
first. -/
def resolvePieces (file drive : Bool) (done : List (List Char)) : List Piece → Resolved
  | [] => ⟨done.reverse, drive⟩
  | piece :: rest =>
    let segment := piece.text
    if isDoubleDot segment then
      let done := leaveSegment done
      if rest.isEmpty then ⟨([] :: done).reverse, drive⟩ else resolvePieces file drive done rest
    else if isSingleDot segment then
      if rest.isEmpty then ⟨([] :: done).reverse, drive⟩ else resolvePieces file drive done rest
    else if file && done.isEmpty then
      match piece with
      | .cut first second => resolvePieces file drive [second, first] rest
      | .whole text =>
        if isDriveLetter text then resolvePieces file true [colonDrive text] rest
        else resolvePieces file drive [text] rest
    else
      resolvePieces file drive (segment :: done) rest

-- The segments of a path, whose first slash is already taken off.
def readSegments (special : Bool) (cs : List Char) : List (List Char) :=
  (resolvePieces false false []
    ((cutSegments special cs).map fun segment => .whole (percentEncode .path segment))).segments

-- The path of a URL with an authority.  A special URL always has one.
def readPath (special : Bool) (cs : List Char) : Path :=
  match cs with
  | [] => .segments (if special then [[]] else [])
  | c :: rest => .segments (readSegments special (if isSlash special c then rest else cs))

/-- The path without empty segments in front. -/
def dropEmpty (segments : List (List Char)) : List (List Char) :=
  match segments.dropWhile List.isEmpty with
  | [] => [[]]
  | segments => segments

-- What follows a slash at the start of a text.
def afterSlash? (cs : List Char) : Option (List Char) :=
  match cs.dropWhile isBreak with
  | [] => none
  | c :: rest => if isSlash true c then some rest else none

-- The segments of a file's path, empty ones in front included.
def readFileSegments (cs : List Char) : Resolved :=
  resolvePieces true false [] ((cutSegments true ((afterSlash? cs).getD cs)).map Piece.ofFile)

-- Cuts the query and the fragment off.
def splitTail (cs : List Char) : List Char × Option (List Char) × Option (List Char) :=
  let front := cs.takeWhile (· ≠ '#')
  let fragment := (cs.dropWhile (· ≠ '#')).tail?
  (front.takeWhile (· ≠ '?'), (front.dropWhile (· ≠ '?')).tail?, fragment)

-- The user name and the password before the host.
def readUserinfo (cs : List Char) : List Char × List Char :=
  let user := cs.takeWhile (· ≠ ':')
  (percentEncode .userinfo user, percentEncode .userinfo (cs.dropWhile (· ≠ ':')).tail)

-- The host and what follows it up to the end of the authority.  Colons between brackets belong to
-- the host.
def splitHost (inBrackets : Bool) : List Char → List Char × List Char
  | [] => ([], [])
  | c :: rest =>
    if c = ':' && !inBrackets then ([], c :: rest)
    else
      let inBrackets := if c = '[' then true else if c = ']' then false else inBrackets
      let (host, after) := splitHost inBrackets rest
      (c :: host, after)

-- The port after the colon; none if it is missing or implied by the scheme.
def readPort (scheme cs : List Char) : Except ParseError (Option Nat) :=
  if !cs.all Char.isDigit then .error .badPort
  else
    let port := Json.digitsValue cs
    if 65535 < port then .error .badPort
    else if cs.isEmpty ∨ defaultPort? scheme = some port then .ok none
    else .ok (some port)

-- The authority of a URL that is no file's, and what follows its port: a backslash ends it even
-- where it does not count as a slash.
def readAuthority (scheme cs : List Char) (atEnd : Bool) :
    Except ParseError (Authority × List Char) := do
  let special := isSpecial scheme
  let (userinfo, hostport) ←
    match Text.splitLast? ['@'] cs with
    | none => .ok ([], cs)
    | some ([], rest) => if rest.isEmpty && !atEnd then .error .emptyHost else .ok ([], rest)
    | some (userinfo, rest) => .ok (userinfo, rest)
  let (host, after) := splitHost false hostport
  if special && host.isEmpty then .error .emptyHost
  let host ← if special then normalizeHost host else normalizePlainHost host
  if host.isEmpty && !after.isEmpty then .error .emptyHost
  let port ← readPort scheme (after.tail.takeWhile (· ≠ '\\'))
  let (user, password) := readUserinfo userinfo
  if host.isEmpty && !(user.isEmpty && password.isEmpty) then .error .emptyHost
  return ({ user, password, host, port }, after.dropWhile (· ≠ '\\'))

/-- A URL of a file, from what follows its scheme, tabs and line breaks included. -/
def readFile (rest : List Char) : Except ParseError Url := do
  let (front, query, fragment) := splitTail rest
  let query := query.map fun query => percentEncode .specialQuery (dropBreaks query)
  let fragment := fragment.map fun fragment => percentEncode .fragment (dropBreaks fragment)
  let make (host : List Char) (path : Resolved) : Url :=
    { scheme := fileScheme
      authority := some ⟨[], [], host, none⟩
      path := .segments (dropEmpty path.segments)
      query
      fragment }
  match (afterSlash? front).bind afterSlash? with
  | none => return make [] (readFileSegments front)
  | some after =>
    let host := dropBreaks (after.takeWhile fun c => !isSlash true c)
    let path := after.dropWhile fun c => !isSlash true c
    if isDriveLetter host then
      return make [] (readFileSegments after)
    else if host.isEmpty then
      return make [] (readFileSegments path)
    else
      let host ← normalizeHost host
      let path := readFileSegments path
      return make (if host = "localhost".toList || path.drive then [] else host) path

-- A URL of another scheme, from what follows the scheme.
def readOther (scheme rest : List Char) : Except ParseError Url := do
  let special := isSpecial scheme
  let (front, query, fragment) := splitTail rest
  let query := query.map (percentEncode (if special then .specialQuery else .query))
  let fragment := fragment.map (percentEncode .fragment)
  let authority? :=
    if special then some (front.dropWhile (isSlash true))
    else if ['/', '/'].isPrefixOf front then some (front.drop 2)
    else none
  match authority? with
  | some front =>
    let isEnd (c : Char) : Bool := isSlash special c
    let path := front.dropWhile fun c => !isEnd c
    let (authority, after) ← readAuthority scheme (front.takeWhile fun c => !isEnd c)
      (path.isEmpty && query.isNone && fragment.isNone)
    let path := readPath special (after ++ path)
    return { scheme, authority := some authority, path, query, fragment }
  | none =>
    let path :=
      match front with
      | '/' :: rest => .segments (readSegments false rest)
      | _ => .rootless (percentEncode .control front)
    return { scheme, authority := none, path, query, fragment }

def parse (s : String) : Except ParseError Url :=
  let text := trimEdges s.toList
  match splitScheme? (dropBreaks text) with
  | none => .error .relativeWithoutBase
  | some (scheme, rest) =>
    if scheme = fileScheme then readFile (text.dropWhile (· ≠ ':')).tail
    else readOther scheme rest

/-- Resolves a reference that consists of plain segments: they take the place of the last segment
of the base, and its query and fragment go. -/
def resolve (base : Url) (segments : List (List Char)) : Except ParseError Url :=
  match base.path with
  | .rootless _ => .error .cannotBeABase
  | .segments before =>
    .ok { base with path := .segments (before.dropLast ++ segments), query := none, fragment := none }

end Vouch.Url
