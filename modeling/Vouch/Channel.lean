import Vouch.Text.Blank

/-!
# Channels

A channel is the kind of contact an address is reached through.  Email is the only one.
-/

namespace Vouch

/-- The kind of contact an address is reached through. -/
inductive Channel where
  | email
  deriving DecidableEq, Repr, Inhabited

namespace Channel

/-- The byte that stands for a channel in storage keys. -/
def tag : Channel → UInt8
  | .email => 1

def ofTag? (tag : UInt8) : Option Channel :=
  if tag = 1 then some .email else none

def name : Channel → String
  | .email => "email"

/-- The channel with a name, the case of ASCII letters and surrounding white space apart.  The
name as it was understood is returned when there is no such channel. -/
def ofName (s : String) : Except String Channel :=
  let name := (Text.trim s).map Char.toLower
  if name = "email" then .ok .email else .error name

end Channel

end Vouch
