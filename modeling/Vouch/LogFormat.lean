/-!
# Log formats
-/

namespace Vouch

/-- The form of the lines of the log. -/
inductive LogFormat where
  -- Lines for people.
  | human
  -- One JSON object a line.
  | json
  deriving DecidableEq, Repr

namespace LogFormat

def name : LogFormat → String
  | .human => "human"
  | .json => "json"

/-- The format with a name, in letters of either case. -/
def ofName? (s : String) : Option LogFormat :=
  match s.map Char.toLower with
  | "human" => some .human
  | "json" => some .json
  | _ => none

/-- The wording for a name that no format has. -/
def unknownMessage (s : String) : String :=
  "unknown log format '" ++ s ++ "' (expected 'human' or 'json')"

end LogFormat

end Vouch
