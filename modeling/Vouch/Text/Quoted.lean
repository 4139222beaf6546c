import Vouch.Text.Unprintable

/-!
# Quoted text in diagnostics

In diagnostics a text stands between double quotes and a character between single quotes.  The
quote itself and the backslash are escaped, line controls have short names, and a character that
does not show is written by its code point.
-/

namespace Vouch.Text

-- The hexadecimal digits of a code point, without leading zeros.
def codePointDigits (c : Char) : List Char :=
  Nat.toDigits 16 c.toNat

/-- A character as it stands between quotes. -/
def escapeChar (quote c : Char) : List Char :=
  match c with
  | '\x00' => ['\\', '0']
  | '\t' => ['\\', 't']
  | '\r' => ['\\', 'r']
  | '\n' => ['\\', 'n']
  | '\\' => ['\\', '\\']
  | _ =>
    if c = quote then
      ['\\', c]
    else if isUnprintable c then
      ['\\', 'u', '\x7b'] ++ codePointDigits c ++ ['\x7d']
    else
      [c]

/-- A text between double quotes. -/
def quoted (s : String) : String :=
  String.ofList ('"' :: s.toList.flatMap (escapeChar '"') ++ ['"'])

/-- A character between single quotes. -/
def quotedChar (c : Char) : String :=
  String.ofList ('\'' :: escapeChar '\'' c ++ ['\''])

end Vouch.Text
