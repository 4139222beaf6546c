import Vouch.Text.CompositeTable
import Vouch.Text.MarkTable

/-!
# Composed form

Texts that look the same may be written with a composite or with its parts.  In the composed form
each letter is first taken apart, the marks after it are ordered by their combining classes, and
then the letter takes up every mark that it can, unless a mark in between blocks it.
-/

namespace Vouch.Text

/-- Whether a character is a mark on another. -/
def isMark (c : Char) : Bool :=
  nonspacingRanges.contains c || spacingRanges.contains c

/-- The combining class of a character; zero for those that marks attach to. -/
def combiningClass (c : Char) : Nat :=
  if c.toNat < 0x300 then 0
  else ((combiningClasses.find? fun entry => entry.2.contains c).map (·.1)).getD 0

-- The two parts of a syllable of Hangul: its last consonant is taken off first, then its vowel.
def syllableParts? (c : Char) : Option (Char × Char) :=
  if 0xAC00 ≤ c.toNat ∧ c.toNat < 0xAC00 + 11172 then
    let index := c.toNat - 0xAC00
    if index % 28 = 0 then
      some (Char.ofNat (0x1100 + index / 588), Char.ofNat (0x1161 + index % 588 / 28))
    else
      some (Char.ofNat (c.toNat - index % 28), Char.ofNat (0x11A7 + index % 28))
  else
    none

-- The syllable of Hangul with the given parts.
def syllable? (a b : Char) : Option Char :=
  if 0x1100 ≤ a.toNat ∧ a.toNat < 0x1113 ∧ 0x1161 ≤ b.toNat ∧ b.toNat < 0x1176 then
    some (Char.ofNat (0xAC00 + (a.toNat - 0x1100) * 588 + (b.toNat - 0x1161) * 28))
  else if 0xAC00 ≤ a.toNat ∧ a.toNat < 0xAC00 + 11172 ∧ (a.toNat - 0xAC00) % 28 = 0
      ∧ 0x11A7 < b.toNat ∧ b.toNat < 0x11C3 then
    some (Char.ofNat (a.toNat + (b.toNat - 0x11A7)))
  else
    none

-- The two parts of a composite.
def parts? (c : Char) : Option (Char × Char) :=
  match syllableParts? c with
  | some parts => some parts
  | none => (composites.find? fun entry => entry.1 == c).map (·.2)

-- The composite with the given parts.
def composite? (a b : Char) : Option Char :=
  match syllable? a b with
  | some c => some c
  | none => (composites.find? fun entry => entry.2 == (a, b)).map (·.1)

-- The most marks that a composite holds.
def compositeDepth : Nat := 3

-- Takes a character apart, its outermost mark first, at most `depth` times.
def takeApart (depth : Nat) (c : Char) : List Char :=
  match depth with
  | 0 => [c]
  | depth + 1 =>
    match parts? c with
    | some (a, b) => takeApart depth a ++ [b]
    | none => [c]

-- Puts a mark behind those of lower class.
def insertMark (mark : Char) : List Char → List Char
  | [] => [mark]
  | c :: rest =>
    if combiningClass c ≠ 0 ∧ combiningClass c < combiningClass mark then
      c :: insertMark mark rest
    else
      mark :: c :: rest

-- Orders the marks after each letter by their classes; marks of one class keep their order.
def orderMarks (cs : List Char) : List Char :=
  cs.foldr insertMark []

-- Composes a letter with the characters after it.  `kept` holds the marks that it could not take
-- up, the last first.
def composeFrom (letter : Char) (kept : List Char) : List Char → List Char
  | [] => letter :: kept.reverse
  | c :: rest =>
    let isBlocked := kept.head?.any fun mark => combiningClass c ≤ combiningClass mark
    match if isBlocked then none else composite? letter c with
    | some whole => composeFrom whole kept rest
    | none =>
      if combiningClass c = 0 then letter :: kept.reverse ++ composeFrom c [] rest
      else composeFrom letter (c :: kept) rest

-- Composes each letter with the marks after it.
def composeMarks : List Char → List Char
  | [] => []
  | c :: rest => if combiningClass c = 0 then composeFrom c [] rest else c :: composeMarks rest

/-- The composed form of a text. -/
def composed (cs : List Char) : List Char :=
  composeMarks (orderMarks (cs.flatMap (takeApart compositeDepth)))

end Vouch.Text
