/-!
# JSON values and their text

Objects keep their members in order, repeated names included.  The only numbers that any record
holds are natural numbers; a value of another kind of number is kept as `otherNumber`, since it
can be read and passed over.  `broken` stands likewise for a text with half of a surrogate pair
and for an object with such a name: well formed, but without a meaning.
-/

namespace Vouch

inductive Json where
  | null
  | bool (b : Bool)
  | number (n : Nat)
  | otherNumber
  | text (s : String)
  | broken
  | array (items : List Json)
  | object (members : List (String × Json))
  deriving Inhabited, Repr

namespace Json

/-- The number for a value that may be absent. -/
def ofOption {α : Type} (encode : α → Json) : Option α → Json
  | none => .null
  | some a => encode a

def fourDigits (n : Nat) : List Char :=
  let digits := Nat.toDigits 16 n
  List.replicate (4 - digits.length) '0' ++ digits

/-- A character as it stands between the quotes. -/
def escapeChar (c : Char) : List Char :=
  match c with
  | '"' => ['\\', '"']
  | '\\' => ['\\', '\\']
  | '\x08' => ['\\', 'b']
  | '\x0c' => ['\\', 'f']
  | '\n' => ['\\', 'n']
  | '\r' => ['\\', 'r']
  | '\t' => ['\\', 't']
  | _ => if c.toNat < 32 then ['\\', 'u'] ++ fourDigits c.toNat else [c]

/-- A text between quotes. -/
def quoted (s : String) : List Char :=
  '"' :: s.toList.flatMap escapeChar ++ ['"']

mutual

-- The text of a value without white space.
def compactChars : Json → List Char
  | .null => "null".toList
  | .bool b => if b then "true".toList else "false".toList
  | .number n => Nat.toDigits 10 n
  | .otherNumber => ['0', '.', '0']
  | .text s => quoted s
  | .broken => quoted ""
  | .array items => '[' :: compactItems items ++ [']']
  | .object members => '\x7b' :: compactMembers members ++ ['\x7d']

-- The items of an array, separated by commas.
def compactItems : List Json → List Char
  | [] => []
  | [item] => compactChars item
  | item :: rest => compactChars item ++ ',' :: compactItems rest

-- The members of an object, separated by commas.
def compactMembers : List (String × Json) → List Char
  | [] => []
  | [(name, value)] => quoted name ++ ':' :: compactChars value
  | (name, value) :: rest => quoted name ++ ':' :: compactChars value ++ ',' :: compactMembers rest

end

/-- The text of a value without white space. -/
def compact (j : Json) : String :=
  String.ofList j.compactChars

-- A new line at a depth of nesting.
def newLine (depth : Nat) : List Char :=
  '\n' :: List.replicate (2 * depth) ' '

mutual

-- The text of a value with one item or member a line, indented by two spaces a level.
def prettyChars (depth : Nat) : Json → List Char
  | .array (item :: rest) =>
    '[' :: newLine (depth + 1) ++ prettyChars (depth + 1) item ++ prettyItems depth rest
      ++ newLine depth ++ [']']
  | .object ((name, value) :: rest) =>
    '\x7b' :: newLine (depth + 1) ++ quoted name ++ [':', ' '] ++ prettyChars (depth + 1) value
      ++ prettyMembers depth rest ++ newLine depth ++ ['\x7d']
  | j => compactChars j

-- The items after the first.
def prettyItems (depth : Nat) : List Json → List Char
  | [] => []
  | item :: rest =>
    ',' :: newLine (depth + 1) ++ prettyChars (depth + 1) item ++ prettyItems depth rest

-- The members after the first.
def prettyMembers (depth : Nat) : List (String × Json) → List Char
  | [] => []
  | (name, value) :: rest =>
    ',' :: newLine (depth + 1) ++ quoted name ++ [':', ' '] ++ prettyChars (depth + 1) value
      ++ prettyMembers depth rest

end

/-- The text of a value with one item or member a line. -/
def pretty (j : Json) : String :=
  String.ofList (j.prettyChars 0)

mutual

/-- The value with the members of every object ordered by name. -/
def sortNames : Json → Json
  | .array items => .array (sortItems items)
  | .object members => .object ((sortMembers members).mergeSort fun a b => a.1 ≤ b.1)
  | j => j

-- The items with their members ordered.
def sortItems : List Json → List Json
  | [] => []
  | item :: rest => sortNames item :: sortItems rest

-- The members with their values' members ordered.
def sortMembers : List (String × Json) → List (String × Json)
  | [] => []
  | (name, value) :: rest => (name, sortNames value) :: sortMembers rest

end

end Json

end Vouch
