/-!
# JSON tokens

A text is cut into tokens by a machine that reads one character at a time.  White space separates
tokens; a word is a run of other characters, which must spell a literal or a number.
-/

namespace Vouch.Json

inductive Token where
  | openArray
  | closeArray
  | openObject
  | closeObject
  | comma
  | colon
  | null
  | bool (b : Bool)
  | number (n : Nat)
  | otherNumber
  | text (s : String)
  -- A text with half of a surrogate pair.
  | brokenText
  deriving Repr

/-- A text that is being read: its characters so far, last first, whether it is broken, and the
first half of a surrogate pair if that came last. -/
structure OpenText where
  chars : List Char
  broken : Bool
  half : Option Nat

/-- What the machine is in the middle of. -/
inductive Mode where
  | between
  -- A word, last character first.
  | word (chars : List Char)
  | text (t : OpenText)
  -- A text, after a backslash.
  | escape (t : OpenText)
  -- A text, after a backslash, `u` and some digits.
  | unicode (t : OpenText) (digits : Nat) (value : Nat)

/-- The machine: the tokens so far, last first, and what it is in the middle of. -/
structure Lexer where
  tokens : List Token
  mode : Mode

namespace OpenText

def start : OpenText := ⟨[], false, none⟩

-- The first half of a pair, if it is waiting, has lost its partner.
def settle (t : OpenText) : OpenText :=
  match t.half with
  | none => t
  | some _ => { t with broken := true, half := none }

def push (t : OpenText) (c : Char) : OpenText :=
  let t := t.settle
  { t with chars := c :: t.chars }

-- Adds the code unit that an escape stands for.
def pushUnit (t : OpenText) (n : Nat) : OpenText :=
  if 0xDC00 ≤ n ∧ n ≤ 0xDFFF then
    match t.half with
    | some high =>
      { t with
        chars := Char.ofNat (0x10000 + (high - 0xD800) * 0x400 + (n - 0xDC00)) :: t.chars
        half := none }
    | none => { t with broken := true }
  else if 0xD800 ≤ n ∧ n ≤ 0xDBFF then
    { t.settle with half := some n }
  else
    t.push (Char.ofNat n)

/-- The token of a text that has ended. -/
def token (t : OpenText) : Token :=
  let t := t.settle
  if t.broken then .brokenText else .text (String.ofList t.chars.reverse)

end OpenText

/-- Whether a list consists of digits, of which there is at least one. -/
def isDigits (cs : List Char) : Bool :=
  !cs.isEmpty && cs.all Char.isDigit

/-- Whether a list is the integer part of a number: no zero before another digit. -/
def isIntegerPart (cs : List Char) : Bool :=
  isDigits cs && (cs.length == 1 || cs.head? != some '0')

-- Whether a list is the exponent of a number, the letter apart.
def isExponent : List Char → Bool
  | '+' :: digits => isDigits digits
  | '-' :: digits => isDigits digits
  | digits => isDigits digits

-- Whether a list is what follows the integer part: a fraction, an exponent, both or nothing.
def isNumberTail (cs : List Char) : Bool :=
  let isScale (cs : List Char) : Bool :=
    match cs with
    | [] => true
    | c :: rest => (c = 'e' || c = 'E') && isExponent rest
  match cs with
  | '.' :: rest =>
    isDigits (rest.takeWhile Char.isDigit) && isScale (rest.dropWhile Char.isDigit)
  | _ => isScale cs

/-- The number that digits stand for. -/
def digitsValue (cs : List Char) : Nat :=
  cs.foldl (fun n c => 10 * n + (c.toNat - '0'.toNat)) 0

def wordToken? (cs : List Char) : Option Token :=
  if cs = "null".toList then some .null
  else if cs = "true".toList then some (.bool true)
  else if cs = "false".toList then some (.bool false)
  else
    let unsigned := if cs.head? = some '-' then cs.drop 1 else cs
    let integer := unsigned.takeWhile Char.isDigit
    let tail := unsigned.dropWhile Char.isDigit
    if isIntegerPart integer && isNumberTail tail then
      if cs.head? != some '-' && tail.isEmpty then some (.number (digitsValue integer))
      else some .otherNumber
    else
      none

/-- The value of a hexadecimal digit. -/
def hexValue? (c : Char) : Option Nat :=
  if '0' ≤ c ∧ c ≤ '9' then some (c.toNat - '0'.toNat)
  else if 'a' ≤ c ∧ c ≤ 'f' then some (c.toNat - 'a'.toNat + 10)
  else if 'A' ≤ c ∧ c ≤ 'F' then some (c.toNat - 'A'.toNat + 10)
  else none

-- The token that a single character is.
def punctuation? (c : Char) : Option Token :=
  match c with
  | '[' => some .openArray
  | ']' => some .closeArray
  | '\x7b' => some .openObject
  | '\x7d' => some .closeObject
  | ',' => some .comma
  | ':' => some .colon
  | _ => none

-- Whether a character separates tokens and is none itself.
def isSpace (c : Char) : Bool :=
  c = ' ' || c = '\t' || c = '\n' || c = '\r'

namespace Lexer

/-- The machine before the first character. -/
def start : Lexer := ⟨[], .between⟩

-- Adds a token and looks for the next.
def emit (l : Lexer) (t : Token) : Lexer :=
  ⟨t :: l.tokens, .between⟩

-- Reads a character between tokens.
def stepBetween (l : Lexer) (c : Char) : Lexer :=
  if isSpace c then { l with mode := .between }
  else if c = '"' then { l with mode := .text .start }
  else
    match punctuation? c with
    | some t => l.emit t
    | none => { l with mode := .word [c] }

def endWord (l : Lexer) (chars : List Char) : Option Lexer :=
  (wordToken? chars.reverse).map l.emit

/-- The character that a one-letter escape stands for. -/
def escaped? (c : Char) : Option Char :=
  match c with
  | '"' => some '"'
  | '\\' => some '\\'
  | '/' => some '/'
  | 'b' => some '\x08'
  | 'f' => some '\x0c'
  | 'n' => some '\n'
  | 'r' => some '\r'
  | 't' => some '\t'
  | _ => none

def step (l : Lexer) (c : Char) : Option Lexer :=
  match l.mode with
  | .between => some (l.stepBetween c)
  | .word chars =>
    if isSpace c || c = '"' || (punctuation? c).isSome then
      (l.endWord chars).map (·.stepBetween c)
    else
      some { l with mode := .word (c :: chars) }
  | .text t =>
    if c = '"' then some (l.emit t.token)
    else if c = '\\' then some { l with mode := .escape t }
    else if c.toNat < 32 then none
    else some { l with mode := .text (t.push c) }
  | .escape t =>
    if c = 'u' then some { l with mode := .unicode t 0 0 }
    else (escaped? c).map fun c => { l with mode := .text (t.push c) }
  | .unicode t digits value =>
    (hexValue? c).map fun n =>
      let value := 16 * value + n
      if digits = 3 then { l with mode := .text (t.pushUnit value) }
      else { l with mode := .unicode t (digits + 1) value }

/-- The tokens, once the text has ended. -/
def finish (l : Lexer) : Option (List Token) :=
  match l.mode with
  | .between => some l.tokens.reverse
  | .word chars => (l.endWord chars).map (·.tokens.reverse)
  | _ => none

end Lexer

/-- The tokens of a text, if it consists of tokens. -/
def tokens? (cs : List Char) : Option (List Token) :=
  (cs.foldlM Lexer.step Lexer.start).bind Lexer.finish

end Vouch.Json
