import Vouch.Hex
import Vouch.Text.Utf8

/-!
# Percent encoding

A character that may not stand in a part of a URL is replaced by its UTF-8 bytes, each written as
a percent sign and two upper-case digits.  Characters outside ASCII are always replaced; which
others are depends on the part.
-/

namespace Vouch.Url

-- The upper-case hexadecimal digit for a value below sixteen.
def upperDigit (n : Nat) : Char :=
  if n < 10 then Char.ofNat (48 + n) else Char.ofNat (55 + n)

/-- A byte as a percent sign and two digits. -/
def percentByte (b : UInt8) : List Char :=
  ['%', upperDigit (b.toNat / 16), upperDigit (b.toNat % 16)]

-- A set of characters to be replaced.
abbrev EncodeSet := Char → Bool

namespace EncodeSet

/-- Controls, and everything outside ASCII. -/
def control : EncodeSet := fun c => c.toNat < 0x20 || 0x7E < c.toNat

/-- What is replaced in a fragment. -/
def fragment : EncodeSet := fun c => control c || [' ', '"', '<', '>', '\x60'].contains c

/-- What is replaced in a query. -/
def query : EncodeSet := fun c => control c || [' ', '"', '#', '<', '>'].contains c

/-- What is replaced in a query of a special scheme. -/
def specialQuery : EncodeSet := fun c => query c || c = '\''

/-- What is replaced in a path. -/
def path : EncodeSet := fun c => fragment c || ['#', '?', '\x7b', '\x7d'].contains c

/-- What is replaced in a user name or a password. -/
def userinfo : EncodeSet := fun c =>
  path c || ['/', ':', ';', '=', '@', '[', '\\', ']', '^', '|'].contains c

end EncodeSet

/-- A text with the characters of a set replaced. -/
def percentEncode (set : EncodeSet) (cs : List Char) : List Char :=
  cs.flatMap fun c => if set c then (String.utf8EncodeChar c).flatMap percentByte else [c]

/-- The bytes that a text with percent signs stands for.  A percent sign that no two digits follow
stands for itself. -/
def percentDecode : Bytes → Bytes
  | [] => []
  | b :: rest =>
    if b = 0x25 then
      match rest with
      | high :: low :: rest' =>
        match Hex.value? high, Hex.value? low with
        | some h, some l => UInt8.ofNat (16 * h + l) :: percentDecode rest'
        | _, _ => b :: percentDecode (high :: low :: rest')
      | [low] => [b, low]
      | [] => [b]
    else
      b :: percentDecode rest

end Vouch.Url
