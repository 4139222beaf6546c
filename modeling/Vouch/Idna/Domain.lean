import Vouch.Idna.Direction
import Vouch.Idna.Joining
import Vouch.Idna.Mapping
import Vouch.Idna.Punycode

/-!
# International domain names

The ASCII form of a domain name is its mapped form with every label that holds other characters
written in Punycode behind a mark.  A label that already is an ASCII form is read and checked like
the others.
-/

namespace Vouch.Idna

-- The mark of a label in its ASCII form.
def asciiMark : List Char := ['x', 'n', '-', '-']

-- The most characters of a label that is to be written in Punycode.
def maxWritten : Nat := 1000

-- The most digits and letters of an ASCII form behind its mark.
def maxRead : Nat := 2000

-- Whether a label with characters outside ASCII is well-formed.
def isWellFormed (label : List Char) : Bool :=
  label.all isKept
    && Text.composed label = label
    && !label.head?.any Text.isMark
    && joinersFit label

-- The label that an ASCII form stands for, given the part behind its mark.
def readAscii? (form : List Char) : Option (List Char) :=
  if maxRead < form.length then
    none
  else
    match Punycode.decode? form with
    | some read => if !read.all isAscii && isWellFormed read then some read else none
    | none => none

-- The label that a mapped label stands for.
def readLabel? (label : List Char) : Option (List Char) :=
  if asciiMark.isPrefixOf label then
    if label.all isAscii then readAscii? (label.drop asciiMark.length) else none
  else if label.all isAscii || (label.length ≤ maxWritten && isWellFormed label) then
    some label
  else
    none

-- The ASCII form of a label.
def labelToAscii (label : List Char) : List Char :=
  if label.all isAscii then label else asciiMark ++ Punycode.encode label

/-- The ASCII form of a domain name. -/
def toAscii? (domain : List Char) : Option (List Char) := do
  let name ← mapped? domain
  let labels ← (Text.fields '.' name).mapM readLabel?
  if labels.any (·.any turnsDirection) && !labels.all keepsDirection then none
  else some (['.'].intercalate (labels.map labelToAscii))

end Vouch.Idna
