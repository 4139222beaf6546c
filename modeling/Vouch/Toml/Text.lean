import Vouch.Hex

/-!
# TOML texts

A text is written between quotes or between apostrophes, each once or three times.  Between quotes
a backslash begins an escape; between apostrophes every character stands for itself.  Three of a
kind admit line ends, of which the very first is no part of the text.

A text is written in the first form that fits without an escape, in the order: quotes, apostrophes,
three quotes, three apostrophes.  If none fits, quotes with escapes are used, three if there are
line ends.
-/

namespace Vouch.Toml

/-- A form of writing a text. -/
structure Style where
  -- Between quotes, with escapes, and not between apostrophes.
  escapes : Bool
  -- Three quotes or apostrophes, so that line ends are admitted.
  multiline : Bool
  deriving DecidableEq, Repr

namespace Style

def quote (s : Style) : Char :=
  if s.escapes then '"' else '\''

-- What the text stands between.
def delimiter (s : Style) : List Char :=
  List.replicate (if s.multiline then 3 else 1) s.quote

end Style

def isBlank (c : Char) : Bool :=
  c = ' ' || c = '\t'

/-- Whether a character may stand in a line as it is. -/
def isPlain (c : Char) : Bool :=
  c = '\t' || (0x20 ≤ c.toNat && c.toNat ≠ 0x7F)

/-- What is to come, in the middle of an escape. -/
inductive Pending where
  -- Nothing.
  | none
  -- What follows the backslash.
  | escape
  -- So many digits of a code point, whose first digits have the value.
  | digits (missing : Nat) (value : Nat)
  -- The end of the line that the backslash takes away.
  | lineEnd
  -- The blanks and line ends that the backslash takes away with its own.
  | margin
  deriving DecidableEq, Repr

/-- The character that a one-letter escape stands for. -/
def escaped? (c : Char) : Option Char :=
  match c with
  | '"' => some '"'
  | '\\' => some '\\'
  | 'b' => some '\x08'
  | 'f' => some '\x0c'
  | 'n' => some '\n'
  | 'r' => some '\r'
  | 't' => some '\t'
  | _ => none

/-- The value of a hexadecimal digit. -/
def digitValue? (c : Char) : Option Nat :=
  if c.toNat < 128 then Hex.value? (UInt8.ofNat c.toNat) else none

-- The character with a code point.
def codePoint? (n : Nat) : Option Char :=
  if n.isValidChar then some (Char.ofNat n) else none

-- What is to come after an escape's first character, or the character that the escape is.
def readEscape (s : Style) (c : Char) : Option (Pending × Option Char) :=
  if c = 'u' then some (.digits 4 0, none)
  else if c = 'U' then some (.digits 8 0, none)
  else if s.multiline && c = '\n' then some (.margin, none)
  else if s.multiline && isBlank c then some (.lineEnd, none)
  else (escaped? c).map fun c => (.none, some c)

-- Reads a character of a text that does not end here: what is to come after it, and the character
-- of the text that it stands for or completes.
def readChar (s : Style) (pending : Pending) (c : Char) : Option (Pending × Option Char) :=
  match pending with
  | .escape => readEscape s c
  | .digits missing value => do
    let value := 16 * value + (← digitValue? c)
    if missing = 1 then return (.none, some (← codePoint? value))
    else return (.digits (missing - 1) value, none)
  | .lineEnd =>
    if c = '\n' then some (.margin, none) else if isBlank c then some (.lineEnd, none) else none
  | _ =>
    if pending = .margin ∧ (c = '\n' ∨ isBlank c) then some (.margin, none)
    else if s.escapes && c = '\\' then some (.escape, none)
    else if isPlain c || (s.multiline && c = '\n') then some (.none, some c)
    else none

-- Whether a quote or apostrophe can end the text, or be one of it.
def isSettled (pending : Pending) : Bool :=
  pending = .none || pending = .margin

-- The end of a text: the quotes that are still part of it, and what follows.  Up to two quotes may
-- precede the three that end a text.
def readEnd? (s : Style) (cs : List Char) : Option (List Char × List Char) :=
  if s.multiline then
    if s.delimiter.isPrefixOf cs then
      let extra := min 2 ((cs.drop 3).takeWhile (· = s.quote)).length
      some (List.replicate extra s.quote, cs.drop (3 + extra))
    else
      none
  else
    if s.delimiter.isPrefixOf cs then some ([], cs.drop 1) else none

-- Reads the rest of a text, and returns it and what follows.
def readRest (s : Style) (pending : Pending) : List Char → Option (List Char × List Char)
  | [] => none
  | c :: rest =>
    match if isSettled pending then readEnd? s (c :: rest) else none with
    | some finish => some finish
    | none => do
      let (pending, char?) ← readChar s pending c
      let (chars, after) ← readRest s pending rest
      return (char?.toList ++ chars, after)

-- The form of the text that begins here.
def style? (cs : List Char) : Option Style :=
  let styles : List Style := [⟨true, true⟩, ⟨true, false⟩, ⟨false, true⟩, ⟨false, false⟩]
  styles.find? fun s => s.delimiter.isPrefixOf cs

/-- Reads a text in a form, whose delimiter stands in front. -/
def readStyle (s : Style) (cs : List Char) : Option (String × List Char) := do
  let cs := cs.drop s.delimiter.length
  let cs :=
    match s.multiline, cs with
    | true, '\n' :: rest => rest
    | _, _ => cs
  let (chars, after) ← readRest s .none cs
  return (String.ofList chars, after)

/-- Reads a text in any form. -/
def readText (cs : List Char) : Option (String × List Char) := do
  readStyle (← style? cs) cs

/-- The greatest number of successive occurrences of `q`; `before` of them precede. -/
def longestRun (q : Char) (before : Nat) : List Char → Nat
  | [] => before
  | c :: rest => if c = q then longestRun q (before + 1) rest else max before (longestRun q 0 rest)

-- Whether a character can only be written as an escape.
def isControl (c : Char) : Bool :=
  !isPlain c && c != '\n'

/-- Whether a form fits a text without an escape. -/
def fits (s : Style) (cs : List Char) : Bool :=
  !cs.any isControl
    && (s.multiline || !cs.contains '\n')
    && !(s.escapes && cs.contains '\\')
    && longestRun s.quote 0 cs ≤ (if s.multiline then 2 else 0)

-- The form in which a text is written.
def chooseStyle (cs : List Char) : Style :=
  let styles : List Style := [⟨true, false⟩, ⟨false, false⟩, ⟨true, true⟩, ⟨false, true⟩]
  (styles.find? fun s => fits s cs).getD ⟨true, cs.contains '\n'⟩

-- The escape for a character between quotes, if it needs one.
def escape? (multiline : Bool) (c : Char) : Option (List Char) :=
  match c with
  | '\\' => some ['\\', '\\']
  | '\x08' => some ['\\', 'b']
  | '\x0c' => some ['\\', 'f']
  | '\r' => some ['\\', 'r']
  | '\t' => some ['\\', 't']
  | '\n' => if multiline then none else some ['\\', 'n']
  | _ =>
    if isPlain c then none
    else
      let digits := (Nat.toDigits 16 c.toNat).map Char.toUpper
      some (['\\', 'u'] ++ List.replicate (4 - digits.length) '0' ++ digits)

-- A text between quotes, after `quotes` quotes that stand for themselves.  At most two of them may
-- stand together in a text between three.
def writeEscaped (multiline : Bool) (quotes : Nat) : List Char → List Char
  | [] => []
  | c :: rest =>
    if c = '"' then
      if quotes < (if multiline then 2 else 0) then c :: writeEscaped multiline (quotes + 1) rest
      else '\\' :: c :: writeEscaped multiline 0 rest
    else
      (escape? multiline c).getD [c] ++ writeEscaped multiline 0 rest

def writeStyle (s : Style) (cs : List Char) : List Char :=
  s.delimiter
    ++ (if s.multiline && cs.contains '\n' then ['\n'] else [])
    ++ (if s.escapes then writeEscaped s.multiline 0 cs else cs)
    ++ s.delimiter

def writeText (s : String) : List Char :=
  writeStyle (chooseStyle s.toList) s.toList

end Vouch.Toml
