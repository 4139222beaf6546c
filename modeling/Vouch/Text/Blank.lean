import Vouch.Text.Range

/-!
# White space

White space is Unicode's `White_Space` property: the blanks of every script, the line breaks and
the control characters that act as such, but no zero-width character.
-/

namespace Vouch.Text

-- The code points with the property `White_Space`.
def blankRanges : Ranges := [
    (0x9, 0xD), (0x20, 0x20), (0x85, 0x85), (0xA0, 0xA0), (0x1680, 0x1680), (0x2000, 0x200A),
    (0x2028, 0x2029), (0x202F, 0x202F), (0x205F, 0x205F), (0x3000, 0x3000)]

/-- Whether a character is white space. -/
def isBlank (c : Char) : Bool :=
  blankRanges.contains c

/-- A text without the white space around it. -/
def trimChars (cs : List Char) : List Char :=
  ((cs.dropWhile isBlank).reverse.dropWhile isBlank).reverse

def trim (s : String) : String :=
  String.ofList (trimChars s.toList)

end Vouch.Text
