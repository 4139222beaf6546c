import Vouch.Text.Range
import Vouch.Text.Split

/-!
# Tables in text form

A large table of characters is kept as text: entries between blanks, with code points in
hexadecimal.  `41-5A` is a range, `41-5A=61` a run of characters that are replaced one by one by
those from 61 on, `100-12E/2=101` a run of every second character, `DF=73+73` a character that is
replaced by two others and `E0=61+300` a composite with its parts.
-/

namespace Vouch.Text

def tableEntries (text : String) : List (List Char) :=
  ((text.toList.map fun c => if c = '\n' then ' ' else c) |> fields ' ').filter (!·.isEmpty)

-- The number written with hexadecimal digits.
def hexNumber (digits : List Char) : Nat :=
  digits.foldl (fun n c => 16 * n + (if c.isDigit then c.toNat - 48 else c.toNat - 55)) 0

-- The numbers of a range; a single number is its own last one.
def hexRange (entry : List Char) : Nat × Nat :=
  match splitFirst? '-' entry with
  | some (first, last) => (hexNumber first, hexNumber last)
  | none => (hexNumber entry, hexNumber entry)

/-- The property that a table of ranges gives. -/
def Ranges.ofText (text : String) : Ranges :=
  (tableEntries text).map hexRange

/-- A run of characters, every `step`-th code point from `first` to `last`, and what replaces
them: either the characters that keep their distances from the one in `image`, or all of
`image`. -/
structure MappedRun where
  first : Nat
  last : Nat
  step : Nat
  image : List Nat

/-- What replaces a code point, if the run holds it. -/
def MappedRun.image? (run : MappedRun) (n : Nat) : Option (List Nat) :=
  if run.first ≤ n ∧ n ≤ run.last ∧ (n - run.first) % run.step = 0 then
    match run.image with
    | [lower] => some [lower + (n - run.first)]
    | image => some image
  else
    none

def readRun? (entry : List Char) : Option MappedRun := do
  let (source, image) ← splitFirst? '=' entry
  let (range, step) := (splitFirst? '/' source).getD (source, ['1'])
  let (first, last) := hexRange range
  some ⟨first, last, hexNumber step, (fields '+' image).map hexNumber⟩

def readRuns (text : String) : List MappedRun :=
  (tableEntries text).filterMap readRun?

/-- The composites of a table, each with its two parts. -/
def readComposites (text : String) : List (Char × Char × Char) :=
  (readRuns text).filterMap fun run =>
    match run.image with
    | [base, mark] => some (Char.ofNat run.first, Char.ofNat base, Char.ofNat mark)
    | _ => none

end Vouch.Text
