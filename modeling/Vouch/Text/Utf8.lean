import Vouch.Bytes

/-!
# Reading damaged UTF-8

A byte string from outside may be no UTF-8 form of anything.  It is read all the same: the longest
beginning of a character that breaks off becomes one replacement character, and so does every byte
that cannot begin a character.
-/

namespace Vouch.Text

-- The character that stands for damage.
def replacement : Char := '\uFFFD'

/-- A character that has begun: how many bytes are missing, the range in which the next one must
lie, and the bits so far. -/
structure Begun where
  missing : Nat
  low : Nat
  high : Nat
  bits : Nat

-- What a byte begins: a character of its own, a longer one, or nothing.
def beginChar (b : Nat) : List Char × Option Begun :=
  if b < 0x80 then ([Char.ofNat b], none)
  else if 0xC2 ≤ b ∧ b ≤ 0xDF then ([], some ⟨1, 0x80, 0xBF, b - 0xC0⟩)
  else if b = 0xE0 then ([], some ⟨2, 0xA0, 0xBF, 0⟩)
  else if b = 0xED then ([], some ⟨2, 0x80, 0x9F, 0xD⟩)
  else if 0xE1 ≤ b ∧ b ≤ 0xEF then ([], some ⟨2, 0x80, 0xBF, b - 0xE0⟩)
  else if b = 0xF0 then ([], some ⟨3, 0x90, 0xBF, 0⟩)
  else if b = 0xF4 then ([], some ⟨3, 0x80, 0x8F, 4⟩)
  else if 0xF1 ≤ b ∧ b ≤ 0xF3 then ([], some ⟨3, 0x80, 0xBF, b - 0xF0⟩)
  else ([replacement], none)

-- Reads a byte after what has begun.
def stepByte (begun : Option Begun) (b : Nat) : List Char × Option Begun :=
  match begun with
  | none => beginChar b
  | some p =>
    if p.low ≤ b ∧ b ≤ p.high then
      let bits := 64 * p.bits + (b - 0x80)
      if p.missing = 1 then ([Char.ofNat bits], none)
      else ([], some ⟨p.missing - 1, 0x80, 0xBF, bits⟩)
    else
      let (chars, begun) := beginChar b
      (replacement :: chars, begun)

-- The characters of a byte string after what has begun.
def decodeAfter (begun : Option Begun) : Bytes → List Char
  | [] => if begun.isSome then [replacement] else []
  | b :: rest =>
    let (chars, begun) := stepByte begun b.toNat
    chars ++ decodeAfter begun rest

/-- The characters of a byte string, damage replaced. -/
def decodeLossy (bs : Bytes) : List Char :=
  decodeAfter none bs

/-- The UTF-8 form of a list of characters. -/
def encodeUtf8 (cs : List Char) : Bytes :=
  cs.flatMap String.utf8EncodeChar

end Vouch.Text
