import Vouch.Hex
import Vouch.Text.Blank

/-!
# Identifiers

Identities are named by a non-blank text that the identity system chooses.  Addresses and flows
are named by sixteen random bytes; the two kinds of byte identifier are kept apart by their type.
-/

namespace Vouch

/-- What a sixteen-byte identifier names. -/
inductive IdKind where
  | address
  -- A challenge, and the flow a browser follows to answer it.
  | flow
  deriving DecidableEq, Repr

def IdKind.name : IdKind → String
  | .address => "AddressId"
  | .flow => "FlowId"

/-- Why a value is no identifier. -/
inductive IdFault where
  -- An identity's name was empty or blank.
  | blankIdentity
  -- A byte identifier's hexadecimal form was malformed.
  | badHex (kind : IdKind) (cause : Hex.Error)
  -- A byte identifier had the wrong number of bytes.
  | wrongSize (kind : IdKind) (size : Nat)
  deriving DecidableEq, Repr

/-- An identifier of sixteen bytes. -/
structure Id (kind : IdKind) where
  bytes : Bytes
  length_bytes : bytes.length = 16
  deriving DecidableEq, Repr

/-- The identifier of a verifiable address. -/
abbrev AddressId := Id .address

/-- The identifier of a challenge, which is also the handle of its flow. -/
abbrev FlowId := Id .flow

namespace Id

variable {kind : IdKind}

def size : Nat := 16

theorem eq_of_bytes_eq {a b : Id kind} (h : a.bytes = b.bytes) : a = b := by
  cases a; cases b; simp_all

def ofBytes (kind : IdKind) (bs : Bytes) : Except IdFault (Id kind) :=
  if h : bs.length = 16 then .ok ⟨bs, h⟩ else .error (.wrongSize kind bs.length)

def toHex (id : Id kind) : String :=
  Hex.encode id.bytes

/-- Reads the hexadecimal form, in either case. -/
def ofHex (kind : IdKind) (s : String) : Except IdFault (Id kind) :=
  match Hex.decode size s with
  | .error cause => .error (.badHex kind cause)
  | .ok bs => ofBytes kind bs

/-- The short form used in diagnostics, which shows the first four bytes. -/
def diagnostic (id : Id kind) : String :=
  kind.name ++ "(" ++ Hex.encode (id.bytes.take 4) ++ ")"

end Id

/-- The name of an identity. -/
structure IdentityId where
  name : String
  deriving DecidableEq, Repr, Inhabited

namespace IdentityId

/-- Accepts every name that is not blank. -/
def ofName (name : String) : Except IdFault IdentityId :=
  if (Text.trim name).isEmpty then .error .blankIdentity else .ok ⟨name⟩

def bytes (id : IdentityId) : Bytes :=
  Bytes.ofText id.name

end IdentityId

def IdFault.message : IdFault → String
  | .blankIdentity => "identity id must not be empty"
  | .badHex kind cause => kind.name ++ ": " ++ cause.message
  | .wrongSize kind size =>
    kind.name ++ " must be " ++ toString Id.size ++ " bytes, got " ++ toString size

end Vouch
