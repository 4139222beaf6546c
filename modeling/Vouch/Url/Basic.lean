import Vouch.Url.Percent

/-!
# URLs

A URL in its parts, all of them in their encoded form.  A URL without an authority may have a path
that does not begin with a slash; nothing can be resolved against such a URL.
-/

namespace Vouch

namespace Url

/-- The part of a URL that says where to connect to. -/
structure Authority where
  user : List Char
  password : List Char
  -- The host in its usual form; it may be empty.
  host : List Char
  -- The port, unless it is the one that the scheme implies.
  port : Option Nat
  deriving DecidableEq, Repr

inductive Path where
  -- A path that does not begin with a slash and has no structure.
  | rootless (text : List Char)
  -- Segments, each after a slash.
  | segments (list : List (List Char))
  deriving DecidableEq, Repr

end Url

structure Url where
  scheme : List Char
  authority : Option Url.Authority
  path : Url.Path
  query : Option (List Char)
  fragment : Option (List Char)
  deriving DecidableEq, Repr

namespace Url

def defaultPort? (scheme : List Char) : Option Nat :=
  if scheme = "http".toList ∨ scheme = "ws".toList then some 80
  else if scheme = "https".toList ∨ scheme = "wss".toList then some 443
  else if scheme = "ftp".toList then some 21
  else none

/-- The scheme of files on the local machine. -/
def fileScheme : List Char := "file".toList

/-- Whether a scheme has special rules: its URLs always have a host and a path, and backslashes
count as slashes. -/
def isSpecial (scheme : List Char) : Bool :=
  (defaultPort? scheme).isSome || scheme = fileScheme

def Path.render : Path → List Char
  | .rootless text => text
  | .segments list => list.flatMap ('/' :: ·)

def Authority.render (a : Authority) : List Char :=
  let userinfo :=
    if a.user.isEmpty && a.password.isEmpty then []
    else a.user ++ (if a.password.isEmpty then [] else ':' :: a.password) ++ ['@']
  let port :=
    match a.port with
    | none => []
    | some port => ':' :: Nat.toDigits 10 port
  '/' :: '/' :: userinfo ++ a.host ++ port

-- The text of a URL without its query and fragment.  Without an authority a path that begins with
-- two slashes is preceded by a dot segment, or it would read as an authority.
def renderBase (u : Url) : List Char :=
  let path := u.path.render
  let front :=
    match u.authority with
    | some a => a.render
    | none => if ['/', '/'].isPrefixOf path then ['/', '.'] else []
  u.scheme ++ ':' :: front ++ path

def renderChars (u : Url) : List Char :=
  u.renderBase
    ++ (match u.query with | none => [] | some query => '?' :: query)
    ++ (match u.fragment with | none => [] | some fragment => '#' :: fragment)

def render (u : Url) : String :=
  String.ofList u.renderChars

end Url

end Vouch
