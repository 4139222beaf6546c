import Vouch.Text.Alphanumeric
import Vouch.Text.Blank
import Vouch.Text.Split

/-!
# Email addresses

An email address has a local part and a domain, separated by the last `@`.  A display name may
stand before it, which is then put between angle brackets.

The local part is a dotted sequence of atoms or a quoted string; the domain is a dotted sequence
of labels or a literal between square brackets.  Lengths are counted in UTF-8 bytes.
-/

namespace Vouch.Email

open Text

def maxLocalLength : Nat := 64

def maxDomainLength : Nat := 254

def maxLabelLength : Nat := 63

-- The characters outside ASCII that count as text wherever the grammar admits any: those whose code
-- point, written as two bytes, is a two-byte UTF-8 sequence.
def isWideText (c : Char) : Bool :=
  c.toNat < 0x10000
    && 0xC2 ≤ c.toNat / 256 && c.toNat / 256 ≤ 0xDF
    && 0x80 ≤ c.toNat % 256 && c.toNat % 256 ≤ 0xBF

def isAtomChar (c : Char) : Bool :=
  isAlphanumeric c
    || ['!', '#', '$', '%', '&', '\'', '*', '+', '-', '/', '=', '?', '^', '_', '\x60', '\x7b',
        '|', '\x7d', '~'].contains c
    || isWideText c

def isAtom (cs : List Char) : Bool :=
  !cs.isEmpty && cs.all isAtomChar

-- Whether a character may stand unescaped in a quoted string.
def isQuotedChar (c : Char) : Bool :=
  c = ' ' || c = '\t' || c = '!' || ('#' ≤ c && c ≤ '[') || (']' ≤ c && c ≤ '~') || isWideText c

-- Whether a character may follow a backslash in a quoted string.
def isEscapable (c : Char) : Bool :=
  '!' ≤ c && c ≤ '~'

-- Whether a text may stand between the quotes of a quoted string.
def isQuotedContent : List Char → Bool
  | [] => true
  | '\\' :: c :: rest => isEscapable c && isQuotedContent rest
  | c :: rest => isQuotedChar c && isQuotedContent rest

-- Whether a character may stand in a domain literal.
def isLiteralChar (c : Char) : Bool :=
  ('!' ≤ c && c ≤ 'Z') || ('^' ≤ c && c ≤ '~') || isWideText c

-- The text between a first and a last character, if both are there.
def between? (first last : Char) (cs : List Char) : Option (List Char) :=
  match cs with
  | c :: rest =>
    if c = first ∧ cs.getLast? = some last then some rest.dropLast else none
  | [] => none

def isLocalPart (cs : List Char) : Bool :=
  !cs.isEmpty && utf8Length cs ≤ maxLocalLength &&
    match between? '"' '"' cs with
    | some content => !content.isEmpty && isQuotedContent content
    | none => (fields '.' cs).all isAtom

-- Whether a text is a label of a domain: an atom that starts and ends with a letter or digit.
def isLabel (cs : List Char) : Bool :=
  utf8Length cs ≤ maxLabelLength && isAtom cs
    && cs.head?.any isAlphanumeric && cs.getLast?.any isAlphanumeric

def isDomain (cs : List Char) : Bool :=
  !cs.isEmpty && utf8Length cs ≤ maxDomainLength &&
    match between? '[' ']' cs with
    | some content => content.all isLiteralChar
    | none => (fields '.' cs).all isLabel

-- The address of a text that may begin with a display name.
def mailbox? (cs : List Char) : Option (List Char) :=
  match splitLast? [' ', '<'] cs with
  | none => some cs
  | some (_, rest) =>
    let rest := trimChars rest
    if rest.getLast? = some '>' then some rest.dropLast else none

def isValid (cs : List Char) : Bool :=
  match mailbox? cs with
  | none => false
  | some mailbox =>
    match splitLast? ['@'] mailbox with
    | none => false
    | some (localPart, domain) => isLocalPart localPart && isDomain domain

end Vouch.Email
