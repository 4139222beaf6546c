import Vouch.Idna.DirectionTable
import Vouch.Text.Composed

/-!
# Joiners

Two invisible characters say whether neighbouring letters join.  A name may hold them only where
they change how it looks: after a sign that joins consonants, and, for the one that keeps letters
apart, between letters that would join.
-/

namespace Vouch.Idna

-- The character that keeps two letters apart.
def nonJoiner : Char := '\u200c'

-- The character that joins two letters.
def joiner : Char := '\u200d'

-- The combining class of the signs that join consonants.
def viramaClass : Nat := 9

-- Whether joining looks past a character.
def isTransparent (c : Char) : Bool :=
  Text.nonspacingRanges.contains c || c = '𞥋'

-- Whether a letter joins with the next one.
def joinsForward (c : Char) : Bool :=
  forwardRanges.contains c || dualRanges.contains c

-- Whether a letter joins with the one before.
def joinsBackward (c : Char) : Bool :=
  backwardRanges.contains c || dualRanges.contains c

-- Whether each joiner stands where it may.  `before` holds the characters passed, the last first.
def joinersFitAfter (before : List Char) : List Char → Bool
  | [] => true
  | c :: rest =>
    let fits :=
      if c = nonJoiner ∨ c = joiner then
        before.head?.any (fun b => Text.combiningClass b = viramaClass)
          || (c = nonJoiner
            && ((before.dropWhile isTransparent).head?.any joinsForward)
            && ((rest.dropWhile isTransparent).head?.any joinsBackward))
      else
        true
    fits && joinersFitAfter (c :: before) rest

/-- Whether each joiner of a label stands where it may. -/
def joinersFit (label : List Char) : Bool :=
  joinersFitAfter [] label

end Vouch.Idna
