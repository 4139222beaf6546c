import Vouch.Idna.DirectionTable
import Vouch.Text.Composed

/-!
# Writing direction

A label of a name must not look different, or reach into its neighbours, when a line mixes both
writing directions.  As soon as one label of a name holds a character that is written from right
to left, every label has to keep to one direction.
-/

namespace Vouch.Idna

/-- How a character behaves in a line that mixes both directions. -/
inductive Direction where
  -- Written from left to right.
  | leftToRight
  -- Written from right to left.
  | rightToLeft
  -- A digit that keeps its direction in Arabic text.
  | arabicNumber
  -- A digit of European numbers.
  | europeanNumber
  -- A mark that follows the character it stands on.
  | mark
  -- A character without a direction of its own.
  | neutral
  -- A separator or blank.
  | blank
  deriving DecidableEq, Repr

-- The marks that are written like letters.
def letterLikeMarks : List Char := ['\u0cbf', '\u0cc6', '𑨇', '𑨈', '𑰿']

def Direction.ofChar (c : Char) : Direction :=
  if rightToLeftRanges.contains c then .rightToLeft
  else if arabicNumberRanges.contains c then .arabicNumber
  else if europeanNumberRanges.contains c then .europeanNumber
  else if neutralRanges.contains c then .neutral
  else if c ≤ ' ' then .blank
  else if Text.nonspacingRanges.contains c && !letterLikeMarks.contains c then .mark
  else .leftToRight

/-- Whether a character makes its name one of both directions. -/
def turnsDirection (c : Char) : Bool :=
  [.rightToLeft, .arabicNumber].contains (Direction.ofChar c)

-- The directions that may occur in a label written from left to right.
def leftToRightMiddle : List Direction := [.leftToRight, .europeanNumber, .neutral, .mark]

-- The directions that may occur in a label written from right to left.
def rightToLeftMiddle : List Direction :=
  [.rightToLeft, .arabicNumber, .europeanNumber, .neutral, .mark]

/-- Whether a label keeps to one direction: its first character decides, marks aside its last one
is a letter or a digit, and a label from right to left does not mix both kinds of digits. -/
def keepsDirection (label : List Char) : Bool :=
  let directions := label.map Direction.ofChar
  let last := (directions.reverse.dropWhile (· = .mark)).head?
  match directions.head? with
  | none => true
  | some .leftToRight =>
    directions.all leftToRightMiddle.contains
      && last.any fun d => d = .leftToRight || d = .europeanNumber
  | some .rightToLeft =>
    directions.all rightToLeftMiddle.contains
      && last.any (fun d => d = .rightToLeft || d = .arabicNumber || d = .europeanNumber)
      && !(directions.contains .arabicNumber && directions.contains .europeanNumber)
  | some _ => false

end Vouch.Idna
