import Vouch.Channel
import Vouch.Email
import Vouch.Identifier
import Vouch.Text.Lowercase

/-!
# Contact values

A contact value is the text of an address in the normal form of its channel.  Two texts that
differ only in letter case or in the white space around them have the same normal form, so an
identity cannot hold the same address twice.
-/

namespace Vouch

/-- Why a text that came from outside is not what it should be. -/
inductive InputError where
  -- The text is no address of the channel.
  | invalidAddress (channel : Channel) (raw : String)
  -- The value is no identifier.
  | invalidId (fault : IdFault)
  -- No channel has this name.
  | unknownChannel (name : String)
  deriving DecidableEq, Repr

def InputError.message : InputError → String
  | .invalidAddress channel raw => "invalid address for " ++ channel.name ++ ": " ++ raw
  | .invalidId fault => "invalid identifier: " ++ fault.message
  | .unknownChannel name => "unknown channel kind: " ++ name

/-- A contact value in the normal form of its channel. -/
structure Contact where
  text : String
  deriving DecidableEq, Repr, Inhabited

namespace Contact

/-- The normal form of a text: lower case, without surrounding white space. -/
def normalize (raw : String) : String :=
  Text.lower (Text.trim raw)

/-- Whether a text in normal form is an address of the channel. -/
def isValid (channel : Channel) (s : String) : Bool :=
  match channel with
  | .email => Email.isValid s.toList

/-- The contact value a text stands for. -/
def parse (channel : Channel) (raw : String) : Except InputError Contact :=
  let s := normalize raw
  if isValid channel s then .ok ⟨s⟩ else .error (.invalidAddress channel raw)

end Contact

end Vouch
