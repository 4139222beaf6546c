/-!
# Ranges of code points

A Unicode property is kept as the ascending list of its ranges, each given by its first and its
last code point.
-/

namespace Vouch.Text

/-- A property of characters, as the ranges of code points that have it. -/
abbrev Ranges := List (Nat × Nat)

/-- Whether a code point lies in one of the ranges. -/
def Ranges.contains (ranges : Ranges) (c : Char) : Bool :=
  ranges.any fun range => range.1 ≤ c.toNat && c.toNat ≤ range.2

end Vouch.Text
