import Vouch.Channel
import Vouch.Entropy
import Vouch.Hash.Blake2b

/-!
# Secrets

Every challenge has two independent secrets.  The token goes into the link and only finds the
flow; the code authorises completion.  Both are hexadecimal text.
-/

namespace Vouch

/-- The two secrets of a challenge. -/
structure Secret where
  token : String
  code : String
  deriving DecidableEq, Repr

namespace Secret

/-- Ties fresh random bytes to a flow, under a tag for what they are used for. -/
def bind (domain : Bytes) (flow : FlowId) (entropy : Bytes) : Bytes :=
  Blake2b.digest 32 (domain ++ flow.bytes ++ entropy)

/-- The tag for the tokens of a channel. -/
def tokenDomain : Channel → Bytes
  | .email => Bytes.ofText "affirm/email-token"

/-- Fresh secrets for a flow. -/
def issue (channel : Channel) (flow : FlowId) (e : Entropy) : Secret × Entropy :=
  let (entropy, e) := e.draw 32
  let (code, e) := e.draw 16
  (⟨Hex.encode (bind (tokenDomain channel) flow entropy), Hex.encode code⟩, e)

/-- The form used in diagnostics, which shows nothing. -/
def diagnostic (_ : Secret) : String :=
  "IssuedSecret \x7b token: \"<redacted>\", code: \"<redacted>\" \x7d"

/-- Whether two byte strings of equal length agree; every byte is looked at. -/
def bytesMatch (expected supplied : Bytes) : Bool :=
  ((expected.zip supplied).foldl (fun difference (a, b) => difference ||| (a ^^^ b)) 0) == 0

/-- Whether the supplied text is the expected one.  How long the comparison takes depends on the
lengths only, which are no secret. -/
def verify (expected supplied : String) : Bool :=
  let expected := Bytes.ofText expected
  let supplied := Bytes.ofText supplied
  expected.length == supplied.length && bytesMatch expected supplied

end Secret

end Vouch
