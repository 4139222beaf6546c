/-!
# Cutting texts

A text is cut at every occurrence of a character, or at the last occurrence of a separator.
-/

namespace Vouch.Text

/-- The fields between the occurrences of `sep`; there is always at least one. -/
def fields (sep : Char) : List Char → List (List Char)
  | [] => [[]]
  | c :: rest =>
    if c = sep then
      [] :: fields sep rest
    else
      match fields sep rest with
      | [] => [[c]]
      | field :: others => (c :: field) :: others

/-- The parts before and after the last occurrence of `sep`. -/
def splitLast? (sep : List Char) : List Char → Option (List Char × List Char)
  | [] => none
  | c :: rest =>
    match splitLast? sep rest with
    | some (before, after) => some (c :: before, after)
    | none => if sep.isPrefixOf (c :: rest) then some ([], (c :: rest).drop sep.length) else none

/-- The parts before and after the first occurrence of `sep`. -/
def splitFirst? (sep : Char) : List Char → Option (List Char × List Char)
  | [] => none
  | c :: rest =>
    if c = sep then some ([], rest)
    else (splitFirst? sep rest).map fun (before, after) => (c :: before, after)

/-- The number of bytes of a text's UTF-8 form. -/
def utf8Length (cs : List Char) : Nat :=
  cs.foldl (fun n c => n + c.utf8Size) 0

end Vouch.Text
