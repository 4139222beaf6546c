import Vouch.Bytes
import Vouch.Text.Quoted

/-!
# Hexadecimal text

Bytes are written as two lower-case digits each and read in either case.
-/

namespace Vouch.Hex

/-- The digit for a value below sixteen. -/
def digit (n : Nat) : Char :=
  if n < 10 then Char.ofNat (48 + n) else Char.ofNat (87 + n)

/-- The value of a digit, given as an ASCII byte. -/
def value? (b : UInt8) : Option Nat :=
  let n := b.toNat
  if 48 ≤ n ∧ n ≤ 57 then some (n - 48)
  else if 97 ≤ n ∧ n ≤ 102 then some (n - 87)
  else if 65 ≤ n ∧ n ≤ 70 then some (n - 55)
  else none

/-- The digits of a byte string. -/
def encodeChars (bs : Bytes) : List Char :=
  bs.flatMap fun b => [digit (b.toNat / 16), digit (b.toNat % 16)]

def encode (bs : Bytes) : String :=
  String.ofList (encodeChars bs)

/-- Why a text is not the hexadecimal form of a given number of bytes. -/
inductive Error where
  -- The number of digits is odd.
  | oddLength
  -- The number of digits is even but not twice the number of bytes.
  | wrongLength
  -- The byte at this position of the text is no digit.
  | badDigit (byte : UInt8) (index : Nat)
  deriving DecidableEq, Repr

def Error.message : Error → String
  | .oddLength => "Odd number of digits"
  | .wrongLength => "Invalid string length"
  | .badDigit byte index =>
    "Invalid character " ++ Text.quotedChar (Char.ofNat byte.toNat) ++ " at position "
      ++ toString index

-- The value of the digit at a position.
def readDigit (b : UInt8) (index : Nat) : Except Error Nat :=
  match value? b with
  | some n => .ok n
  | none => .error (.badDigit b index)

-- The bytes written by pairs of digits, the first of which stands at position `index`.
def decodePairs (index : Nat) : Bytes → Except Error Bytes
  | high :: low :: rest =>
    match readDigit high index with
    | .error e => .error e
    | .ok h =>
      match readDigit low (index + 1) with
      | .error e => .error e
      | .ok l =>
        match decodePairs (index + 2) rest with
        | .error e => .error e
        | .ok bs => .ok (UInt8.ofNat (16 * h + l) :: bs)
  | _ => .ok []

/-- Reads exactly `size` bytes.  The length is checked before the digits, its parity first. -/
def decode (size : Nat) (s : String) : Except Error Bytes :=
  let digits := Bytes.ofText s
  if digits.length % 2 = 1 then .error .oddLength
  else if digits.length / 2 ≠ size then .error .wrongLength
  else decodePairs 0 digits

/-- The bytes of a hexadecimal text of any even length. -/
def decode? (s : String) : Option Bytes :=
  (decode ((Bytes.ofText s).length / 2) s).toOption

end Vouch.Hex
