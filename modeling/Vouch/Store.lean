import Vouch.Challenge
import Vouch.Identity
import Vouch.Mail

/-!
# What a store offers

Addresses and challenges are kept together, because issuing, completing and rebinding change
records of both kinds at once.  Identities and the outbox are kept apart.  A store is a value;
an operation that changes it returns the changed store, and an operation that fails returns none,
so that nothing is left half done.
-/

namespace Vouch

/-- A record that an error is about. -/
inductive RecordName where
  | challenge (id : FlowId)
  | identity (id : IdentityId)
  | message (id : UInt64)
  deriving DecidableEq, Repr

def RecordName.wording : RecordName → String
  | .challenge id => "challenge " ++ id.toHex
  | .identity id => "identity " ++ id.name
  | .message id => "message " ++ toString id.toNat

/-- A place where the contents of a store contradict each other. -/
inductive Corruption where
  -- A challenge belongs to an address that is not there.
  | challengeWithoutAddress (flow : FlowId) (address : AddressId)
  -- A slot holds an address that is not there.
  | slotWithoutAddress (address : AddressId)
  -- An address points at an active challenge that is not there.
  | pointerWithoutChallenge (flow : FlowId)
  -- An index lists an address that is not there.
  | indexWithoutAddress (address : AddressId)
  -- An address's history lists a challenge that is not there.
  | historyWithoutChallenge (flow : FlowId)
  -- A stored identifier is none.
  | badId (fault : IdFault)
  -- The stored number of challenges is no number.
  | badSequence
  -- A message is kept under a key that is no number.
  | badMessageKey (size : Nat)
  -- The stored version of the schema is no number.
  | badSchemaVersion
  deriving DecidableEq, Repr

def Corruption.message : Corruption → String
  | .challengeWithoutAddress flow address =>
    "challenge " ++ flow.toHex ++ " references missing address " ++ address.toHex
  | .slotWithoutAddress address => "slot points at missing address " ++ address.toHex
  | .pointerWithoutChallenge flow => "active pointer to missing " ++ flow.toHex
  | .indexWithoutAddress address => "index points at missing " ++ address.toHex
  | .historyWithoutChallenge flow => "history points at missing challenge " ++ flow.toHex
  | .badId fault => (InputError.invalidId fault).message
  | .badSequence => "challenge_seq has unexpected byte length"
  | .badMessageKey size => "message key of " ++ toString size ++ " bytes"
  | .badSchemaVersion => "schema_version has unexpected byte length"

/-- Why a store could not do what it was asked. -/
inductive StoreError where
  -- A record that the operation depends on does not exist.
  | notFound (record : RecordName)
  -- A record to be created exists already.
  | duplicate (record : RecordName)
  -- A key had a length that the database does not support.
  | badKeySize
  -- A stored record could not be read.
  | encoding
  -- The contents contradict each other.
  | corruption (cause : Corruption)
  deriving DecidableEq, Repr

/-- The database's own wording for a key of unsupported length. -/
def badKeySizeMessage : String :=
  "MDB_BAD_VALSIZE: Unsupported size of key/DB name/data, or wrong DUPFIXED size"

/-- The wording of an error.  For a record that could not be read it is only the beginning. -/
def StoreError.message : StoreError → String
  | .notFound record => "record not found: " ++ record.wording
  | .duplicate record => "record already exists: " ++ record.wording
  | .badKeySize => "storage backend error: LMDB error: " ++ badKeySizeMessage
  | .encoding => "record encoding error: "
  | .corruption cause => "store is corrupted: " ++ cause.message

/-- A store of addresses and challenges. -/
class VerificationStore (σ : Type) where
  address? : AddressId → σ → Except StoreError (Option Address)
  addressIn? : Slot → σ → Except StoreError (Option Address)
  addressesOf : IdentityId → σ → Except StoreError (List Address)
  /-- The addresses, of all identities, that are bound to a value. -/
  addressesWith : Channel → Contact → σ → Except StoreError (List Address)
  /-- Puts a record into its slot if that is empty.  Otherwise the record that is there takes the
  new one's value; if that is a change, trust is lost and the active challenge expires. -/
  upsert : Address → σ → Except StoreError (Upserted × σ)
  /-- Adds an active challenge.  One that was active for the same address is superseded and
  returned, and the address is pending from now on. -/
  create : Challenge → σ → Except StoreError (Option Challenge × σ)
  challenge? : FlowId → σ → Except StoreError (Option Challenge)
  /-- The challenge marked active for an address, even if its time has run out. -/
  activeFor? : AddressId → σ → Except StoreError (Option Challenge)
  /-- Every challenge ever issued for an address, oldest first. -/
  history : AddressId → σ → Except StoreError (List Challenge)
  /-- Every challenge marked active. -/
  active : σ → Except StoreError (List Challenge)
  /-- Completes a challenge and verifies its address. -/
  complete : FlowId → Timestamp → σ → Except StoreError (Completion × σ)
  /-- Counts a wrong code against a challenge. -/
  failAttempt : FlowId → Timestamp → σ → Except StoreError (FailedAttempt × σ)
  /-- Ends a challenge if it is active; returns what it is then. -/
  expire : FlowId → ExpiredReason → Timestamp → σ → Except StoreError (Challenge × σ)

/-- A store of identities, which says what each of them declares.  Whether a declared address is
verified is not its business. -/
class IdentityStore (ι : Type) where
  identity? : IdentityId → ι → Except StoreError (Option Identity)
  updateTraits : IdentityId → Traits → ι → Except StoreError ι

def IdentityStore.declaredBy {ι : Type} [IdentityStore ι] (id : IdentityId) (identities : ι) :
    Except StoreError (List DeclaredAddress) := do
  match ← identity? id identities with
  | some identity => .ok identity.traits.addresses
  | none => .error (.notFound (.identity id))

/-- An outbox: messages that wait for delivery, or have been delivered. -/
class MessageStore (μ : Type) where
  /-- Adds a message that waits. -/
  enqueue : Mail → Timestamp → μ → Except StoreError (QueuedMessage × μ)
  /-- The messages in the order they were added, all or those with one status. -/
  messages : Option MessageStatus → μ → Except StoreError (List QueuedMessage)
  /-- Notes that a message was delivered. -/
  markSent : UInt64 → μ → Except StoreError μ

end Vouch
