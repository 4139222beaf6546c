import Vouch.Identifier
import Vouch.Url.Form
import Vouch.Url.Parser

/-!
# Verification links

A link leads to a fixed path under the public address of the service and carries the flow and the
token in its query.
-/

namespace Vouch

/-- The public address of the service; its path ends with a slash, so that links lie under it. -/
structure PublicUrl where
  base : Url
  deriving DecidableEq, Repr

namespace Url

/-- The path with a slash at its end.  Without a slash in front, a path that is only a slash has
to be written encoded.  The path of a file is read again with its new end, so that a drive letter
that has come first is written with a colon. -/
def Path.closed (file : Bool) : Path → Path
  | .rootless [] => .rootless ['%', '2', 'F']
  | .rootless text => .rootless (if text.getLast? = some '/' then text else text ++ ['/'])
  | .segments list =>
    if list.getLast? = some [] then .segments list
    else if file then
      .segments (dropEmpty (resolvePieces true false [] ((list ++ [[]]).map .whole)).segments)
    else
      .segments (list ++ [[]])

end Url

namespace PublicUrl

/-- Reads the public address. -/
def parse (s : String) : Except Url.ParseError PublicUrl := do
  let url ← Url.parse s
  return ⟨{ url with path := url.path.closed (url.scheme = Url.fileScheme) }⟩

-- The segments of the path that links have under the public address.
def linkPath : List (List Char) :=
  ["self-service".toList, "verification".toList]

-- The name of the flow in a link's query.
def flowName : String := "flow"

-- The name of the token in a link's query.
def tokenName : String := "token"

def link (p : PublicUrl) (flow : FlowId) (token : String) : Except Url.ParseError Url := do
  let url ← p.base.resolve linkPath
  let pairs :=
    Url.formPair flowName.toList flow.toHex.toList ++
      '&' :: Url.formPair tokenName.toList token.toList
  return { url with query := some pairs }

end PublicUrl

-- The value of the last pair with a name.
def Url.lastValue? (name : String) (pairs : List (List Char × List Char)) : Option String :=
  (pairs.reverse.lookup name.toList).map String.ofList

/-- The flow and the token that a link carries. -/
def readLink? (link : String) : Option (FlowId × String) := do
  let url ← (Url.parse link).toOption
  let pairs := Url.formPairs (url.query.getD [])
  let flow ← Url.lastValue? PublicUrl.flowName pairs
  let flow ← (Id.ofHex .flow flow).toOption
  let token ← Url.lastValue? PublicUrl.tokenName pairs
  return (flow, token)

end Vouch
