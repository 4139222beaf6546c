import Vouch.Idna.MappingTable
import Vouch.Text.Composed

/-!
# Mapping of domain names

Names that differ in case, width or presentation only are one name.  Each character is kept, left
out or replaced, and the result is brought into composed form.
-/

namespace Vouch.Idna

def isAscii (c : Char) : Bool := c.toNat < 128

/-- Whether a name may hold a character. -/
def isKept (c : Char) : Bool :=
  if isAscii c then !c.isUpper else keptRanges.contains c

-- What stands for a character in a name; characters that are neither kept, left out nor replaced
-- are refused.
def mapChar? (c : Char) : Option (List Char) :=
  if isAscii c then some [c.toLower]
  else if keptRanges.contains c then some [c]
  else if omittedRanges.contains c then some []
  else (replacedRuns.findSome? (·.image? c.toNat)).map (·.map Char.ofNat)

/-- The form that all spellings of a name share. -/
def mapped? (name : List Char) : Option (List Char) := do
  let images ← name.mapM mapChar?
  some (Text.composed images.flatten)

end Vouch.Idna
