import Vouch.Text.CaseTable

/-!
# Lower case

Each character is replaced by its lower-case form.  Two characters need more than a table: the
capital I with a dot becomes two characters, and the capital sigma becomes the final sigma when
it ends a word.
-/

namespace Vouch.Text

/-- The partner of a code point within a run. -/
def CaseRun.image? (run : CaseRun) (n : Nat) : Option Nat :=
  if run.first ≤ n ∧ n ≤ run.last ∧ (n - run.first) % run.step = 0 then
    some (run.lower + (n - run.first))
  else
    none

-- The lower-case form of a character that stands alone.
def lowerChar (c : Char) : List Char :=
  if c = 'İ' then
    ['i', '\u0307']
  else
    match caseRuns.findSome? (·.image? c.toNat) with
    | some n => [Char.ofNat n]
    | none => [c]

-- Whether the first character that case rules do not look past is cased.
def startsCased (cs : List Char) : Bool :=
  match cs.dropWhile caseIgnorableRanges.contains with
  | c :: _ => casedRanges.contains c
  | [] => false

-- The lower-case form of a text that follows the characters `before`, nearest first.  A capital
-- sigma ends a word if a cased character comes before it and none after it.
def lowerAfter (before : List Char) : List Char → List Char
  | [] => []
  | c :: rest =>
    let form :=
      if c = 'Σ' then
        [if startsCased before && !startsCased rest then 'ς' else 'σ']
      else
        lowerChar c
    form ++ lowerAfter (c :: before) rest

-- The lower-case form of a text.
def lowerChars (cs : List Char) : List Char :=
  lowerAfter [] cs

def lower (s : String) : String :=
  String.ofList (lowerChars s.toList)

end Vouch.Text
