import Vouch.Durable.Layout

/-!
# The durable stores of identities and messages

Each is one byte map.  Identities are kept under their name, messages under their number with the
highest byte first, so that the order of the keys is the order of insertion and the next number
follows the last key.
-/

namespace Vouch.Durable

/-- Identities by name. -/
structure IdentityFile where
  identities : ByteMap

namespace IdentityFile

def create (identity : Identity) (s : IdentityFile) : Except StoreError IdentityFile := do
  match ← read s.identities identity.id.bytes with
  | some _ => .error (.duplicate (.identity identity.id))
  | none => return ⟨← write s.identities identity.id.bytes (Identity.codec.encode identity)⟩

def size (s : IdentityFile) : Nat :=
  s.identities.size

instance : IdentityStore IdentityFile where
  identity? id s := readRecord Identity.codec s.identities id.bytes
  updateTraits id traits s := do
    match ← readRecord Identity.codec s.identities id.bytes with
    | none => .error (.notFound (.identity id))
    | some identity =>
      return ⟨← write s.identities id.bytes (Identity.codec.encode { identity with traits })⟩

end IdentityFile

/-- Messages by number. -/
structure MessageFile where
  messages : ByteMap

namespace MessageFile

def key (id : UInt64) : Bytes :=
  Bytes.bigEndian 8 id.toNat

def numberOf (k : Bytes) : Except StoreError UInt64 :=
  if k.length = 8 then .ok (UInt64.ofNat (Bytes.ofBigEndian k))
  else .error (.corruption (.badMessageKey k.length))

/-- The number of the last message, zero if there is none. -/
def lastNumber (s : MessageFile) : Except StoreError UInt64 :=
  match s.messages.last? with
  | none => .ok 0
  | some (k, _) => numberOf k

instance : MessageStore MessageFile where
  enqueue mail now s := do
    let last ← s.lastNumber
    let message : QueuedMessage :=
      { id := last + 1, mail, status := .queued, createdAt := now }
    return (message, ⟨← write s.messages (key message.id) (QueuedMessage.codec.encode message)⟩)
  messages status s := do
    let all ← s.messages.entries.mapM fun entry => decode QueuedMessage.codec entry.2
    return all.filter fun message => status.all fun status => message.status = status
  markSent id s := do
    match ← readRecord QueuedMessage.codec s.messages (key id) with
    | none => .error (.notFound (.message id))
    | some message =>
      let message := { message with status := .sent }
      return ⟨← write s.messages (key id) (QueuedMessage.codec.encode message)⟩

end MessageFile

end Vouch.Durable
