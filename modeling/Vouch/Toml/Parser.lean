import Vouch.Toml.Scalar
import Vouch.Toml.Text

/-!
# Reading TOML

A document consists of lines; each is empty, a header or a key with its value.  Values may nest to
a limited depth, and keys may have a limited number of parts.
-/

namespace Vouch.Toml

-- The greatest depth of nesting, and the greatest number of parts of a key.
def maxDepth : Nat := 79

-- The text with every carriage return before a line feed taken away.
def unifyLineEnds : List Char → List Char
  | [] => []
  | c :: rest =>
    match c, rest with
    | '\r', '\n' :: _ => unifyLineEnds rest
    | _, _ => c :: unifyLineEnds rest

-- The text after the blanks.
def skipBlanks (cs : List Char) : List Char :=
  cs.dropWhile isBlank

-- The text after blanks, line ends and comments, each of which has to end with its line.
def skipSpace (inComment : Bool) : List Char → Option (List Char)
  | [] => if inComment then none else some []
  | c :: rest =>
    if c = '\n' then skipSpace false rest
    else if inComment then if isPlain c then skipSpace true rest else none
    else if isBlank c then skipSpace false rest
    else if c = '#' then skipSpace true rest
    else some (c :: rest)

-- The text after the end of the line, before which only blanks and a comment may stand.
def endLine (cs : List Char) : Option (List Char) :=
  let cs := skipBlanks cs
  let comment := if cs.head? = some '#' then cs.takeWhile (· ≠ '\n') else []
  if comment.all isPlain then
    match cs.drop comment.length with
    | [] => some []
    | '\n' :: rest => some rest
    | _ => none
  else
    none

-- Whether a character may stand in a key without quotes.
def isBare (c : Char) : Bool :=
  c.isAlphanum || c = '-' || c = '_'

def readKeyPart (cs : List Char) : Option (String × List Char) :=
  match cs with
  | '"' :: _ => readStyle ⟨true, false⟩ cs
  | '\'' :: _ => readStyle ⟨false, false⟩ cs
  | _ =>
    let part := cs.takeWhile isBare
    if part.isEmpty then none else some (String.ofList part, cs.dropWhile isBare)

-- Reads a key of at most `parts` parts.
def readKey (parts : Nat) (cs : List Char) : Option (List String × List Char) :=
  match parts with
  | 0 => none
  | parts + 1 => do
    let (first, cs) ← readKeyPart (skipBlanks cs)
    match skipBlanks cs with
    | '.' :: rest =>
      let (others, cs) ← readKey parts rest
      return (first :: others, cs)
    | cs => return ([first], cs)

-- Reads the rest of an array.  `fuel` is at least the number of characters.
def readItems (item : List Char → Option (Toml × List Char)) (fuel : Nat) (cs : List Char) :
    Option (List Toml × List Char) :=
  match fuel with
  | 0 => none
  | fuel + 1 => do
    match ← skipSpace false cs with
    | ']' :: rest => return ([], rest)
    | cs =>
      let (value, cs) ← item cs
      match ← skipSpace false cs with
      | ']' :: rest => return ([value], rest)
      | ',' :: rest =>
        let (others, rest) ← readItems item fuel rest
        return (value :: others, rest)
      | _ => none

-- Reads a key, an equals sign and a value.
def readPair (value : List Char → Option (Toml × List Char)) (cs : List Char) :
    Option (List String × Toml × List Char) := do
  let (key, cs) ← readKey maxDepth cs
  match cs with
  | '=' :: rest =>
    let (value, rest) ← value (skipBlanks rest)
    return (key, value, rest)
  | _ => none

-- Sets a value under a key that has been read.
def assign (key : List String) (value : Toml) (entries : Entries) : Option Entries := do
  entries.set key.dropLast (← key.getLast?) value

-- Reads the pairs of a table in braces, of which there is at least one more, and adds them to
-- `entries`.  `fuel` is at least the number of characters.
def readPairs (value : List Char → Option (Toml × List Char)) (entries : Entries) (fuel : Nat)
    (cs : List Char) : Option (Entries × List Char) :=
  match fuel with
  | 0 => none
  | fuel + 1 => do
    let (key, v, cs) ← readPair value cs
    let entries ← assign key v entries
    match skipBlanks cs with
    | '\x7d' :: rest => return (entries, rest)
    | ',' :: rest => readPairs value entries fuel rest
    | _ => none

-- Reads a value that nests at most to the given depth.
def readValue (depth : Nat) (cs : List Char) : Option (Toml × List Char) :=
  match depth, cs with
  | 0, '[' :: _ => none
  | 0, '\x7b' :: _ => none
  | depth + 1, '[' :: rest => do
    let (items, rest) ← readItems (readValue depth) (rest.length + 1) rest
    return (.array items, rest)
  | depth + 1, '\x7b' :: rest => do
    match skipBlanks rest with
    | '\x7d' :: rest => return (.table .braces [], rest)
    | rest =>
      let (entries, rest) ← readPairs (readValue depth) [] (rest.length + 1) rest
      return (.table .braces entries, rest)
  | _, '"' :: _ => (readText cs).map fun (s, rest) => (.text s, rest)
  | _, '\'' :: _ => (readText cs).map fun (s, rest) => (.text s, rest)
  | _, _ => readWord cs

/-- What has been read of a document: its entries, and the path of the header that is open. -/
structure Document where
  entries : Entries
  header : List String

namespace Document

/-- The document before its first line. -/
def empty : Document := ⟨[], []⟩

/-- Adds a value under the open header. -/
def set (key : List String) (value : Toml) (d : Document) : Option Document := do
  return { d with entries := ← d.entries.change (assign key value) d.header }

def openHeader (make : String → Entries → Option Entries) (path : List String) (d : Document) :
    Option Document := do
  let key ← path.getLast?
  return ⟨← d.entries.change (make key) path.dropLast, path⟩

-- Reads a header, whose first bracket is already taken off, up to the end of its line.
def readHeader (d : Document) (cs : List Char) : Option (Document × List Char) :=
  match cs with
  | '[' :: rest => do
    let (path, rest) ← readKey maxDepth rest
    match rest with
    | ']' :: ']' :: rest => return (← d.openHeader Entries.openArray path, ← endLine rest)
    | _ => none
  | _ => do
    let (path, rest) ← readKey maxDepth cs
    match rest with
    | ']' :: rest => return (← d.openHeader Entries.openTable path, ← endLine rest)
    | _ => none

-- Reads a line, or more if a value has more.
def readLine (d : Document) (cs : List Char) : Option (Document × List Char) :=
  match skipBlanks cs with
  | [] => some (d, [])
  | '\n' :: rest => some (d, rest)
  | '#' :: rest => (endLine ('#' :: rest)).map fun rest => (d, rest)
  | '[' :: rest => d.readHeader rest
  | cs => do
    let (key, value, rest) ← readPair (readValue maxDepth) cs
    return (← d.set key value, ← endLine rest)

-- Reads the rest of a document.  `fuel` is at least the number of characters.
def readLines (d : Document) (fuel : Nat) (cs : List Char) : Option Document :=
  match fuel, cs with
  | _, [] => some d
  | 0, _ :: _ => none
  | fuel + 1, c :: rest => do
    let (d, rest) ← d.readLine (c :: rest)
    readLines d fuel rest

end Document

/-- The entries of a document.  A byte order mark in front is passed over. -/
def parse? (s : String) : Option Entries := do
  let cs := unifyLineEnds s.toList
  let cs :=
    match cs with
    | '\uFEFF' :: rest => rest
    | _ => cs
  return (← Document.empty.readLines cs.length cs).entries

end Vouch.Toml
