import Vouch.Memory.Table
import Vouch.Store

/-!
# Stores in memory

The stores as plain tables of records.  A table remembers the order of insertion, so the table of
challenges is also the order in which they were issued.  For every address there is a pointer to
its active challenge.
-/

namespace Vouch

/-- Addresses and challenges in memory. -/
structure MemoryStore where
  addresses : Table AddressId Address
  slots : Table Slot AddressId
  challenges : Table FlowId Challenge
  active : Table AddressId FlowId

namespace MemoryStore

/-- The store without records. -/
def empty : MemoryStore := ⟨∅, ∅, ∅, ∅⟩

instance : Inhabited MemoryStore := ⟨empty⟩

/-- A challenge together with its address. -/
def attempt (id : FlowId) (s : MemoryStore) : Except StoreError Attempt :=
  match s.challenges.get? id with
  | none => .error (.notFound (.challenge id))
  | some challenge =>
    match s.addresses.get? challenge.address with
    | none => .error (.corruption (.challengeWithoutAddress challenge.id challenge.address))
    | some address => .ok ⟨challenge, address⟩

/-- Writes a challenge and its address back.  The pointer goes once the challenge has ended. -/
def put (p : Attempt) (s : MemoryStore) : MemoryStore :=
  { s with
    active :=
      if !p.challenge.isActive && s.active.get? p.address.id = some p.challenge.id then
        s.active.erase p.address.id
      else
        s.active
    addresses := s.addresses.insert p.address.id p.address
    challenges := s.challenges.insert p.challenge.id p.challenge }

/-- Ends the active challenge of an address, if there is one, and returns it. -/
def expireActive (address : AddressId) (reason : ExpiredReason) (s : MemoryStore) :
    Option Challenge × MemoryStore :=
  match s.active.get? address with
  | none => (none, s)
  | some id =>
    let s := { s with active := s.active.erase address }
    match s.challenges.get? id with
    | none => (none, s)
    | some challenge =>
      let challenge := challenge.expire reason
      (some challenge, { s with challenges := s.challenges.insert id challenge })

/-- Puts a record into its slot, or rebinds the one that is there. -/
def upsert (candidate : Address) (s : MemoryStore) : Except StoreError (Upserted × MemoryStore) :=
  match s.slots.get? candidate.slot with
  | none =>
    .ok (.created candidate,
      { s with
        slots := s.slots.insert candidate.slot candidate.id
        addresses := s.addresses.insert candidate.id candidate })
  | some id =>
    match s.addresses.get? id with
    | none => .error (.corruption (.slotWithoutAddress id))
    | some address =>
      if address.value = candidate.value then
        .ok (.unchanged address, s)
      else
        let (expired, s) := s.expireActive id .addressChanged
        let address := address.rebind candidate.value candidate.updatedAt
        .ok (.rebound address expired.toList,
          { s with addresses := s.addresses.insert id address })

/-- Adds an active challenge in place of the one that was active. -/
def create (challenge : Challenge) (s : MemoryStore) :
    Except StoreError (Option Challenge × MemoryStore) :=
  match s.challenges.get? challenge.id with
  | some _ => .error (.duplicate (.challenge challenge.id))
  | none =>
    match s.addresses.get? challenge.address with
    | none => .error (.corruption (.challengeWithoutAddress challenge.id challenge.address))
    | some address =>
      let (superseded, s) := s.expireActive address.id .superseded
      let address := address.markPending challenge.issuedAt
      .ok (superseded,
        { s with
          active := s.active.insert address.id challenge.id
          addresses := s.addresses.insert address.id address
          challenges := s.challenges.insert challenge.id challenge })

/-- Changes a challenge and its address together. -/
def update {α : Type} (id : FlowId) (f : Attempt → α × Attempt) (s : MemoryStore) :
    Except StoreError (α × MemoryStore) :=
  match s.attempt id with
  | .error e => .error e
  | .ok p => .ok ((f p).1, s.put (f p).2)

instance : VerificationStore MemoryStore where
  address? id s := .ok (s.addresses.get? id)
  addressIn? slot s := .ok ((s.slots.get? slot).bind s.addresses.get?)
  addressesOf identity s := .ok (s.addresses.values.filter fun a => a.identity = identity)
  addressesWith channel value s :=
    .ok ((s.addresses.values.filter fun a => a.channel = channel ∧ a.value = value).mergeSort
      fun a b => a.identity.name ≤ b.identity.name)
  upsert := upsert
  create := create
  challenge? id s := .ok (s.challenges.get? id)
  activeFor? address s := .ok ((s.active.get? address).bind s.challenges.get?)
  history address s := .ok (s.challenges.values.filter fun c => c.address = address)
  active s := .ok (s.challenges.values.filter fun c => c.isActive)
  complete id now s := s.update id fun p => p.complete now
  failAttempt id now s := s.update id fun p => p.fail now
  expire id reason now s :=
    s.update id fun p => ((p.expire reason now).challenge, p.expire reason now)

end MemoryStore

structure MemoryIdentities where
  identities : Table IdentityId Identity

namespace MemoryIdentities

def empty : MemoryIdentities := ⟨∅⟩

/-- Adds an identity, or replaces the one with its name. -/
def insert (identity : Identity) (s : MemoryIdentities) : MemoryIdentities :=
  ⟨s.identities.insert identity.id identity⟩

/-- Adds an identity that declares one address. -/
def register (id : IdentityId) (declared : DeclaredAddress) (s : MemoryIdentities) :
    MemoryIdentities :=
  s.insert ⟨id, ⟨[declared]⟩⟩

instance : IdentityStore MemoryIdentities where
  identity? id s := .ok (s.identities.get? id)
  updateTraits id traits s :=
    match s.identities.get? id with
    | none => .error (.notFound (.identity id))
    | some identity => .ok ⟨s.identities.insert id { identity with traits }⟩

end MemoryIdentities

/-- An outbox in memory, first message first. -/
structure MemoryOutbox where
  queue : List QueuedMessage

namespace MemoryOutbox

def empty : MemoryOutbox := ⟨[]⟩

/-- Marks the first message with a number as sent. -/
def markFirst (id : UInt64) : List QueuedMessage → Option (List QueuedMessage)
  | [] => none
  | message :: rest =>
    if message.id = id then some ({ message with status := .sent } :: rest)
    else (markFirst id rest).map (message :: ·)

instance : MessageStore MemoryOutbox where
  enqueue mail now s :=
    let message : QueuedMessage :=
      { id := UInt64.ofNat (s.queue.length + 1), mail, status := .queued, createdAt := now }
    .ok (message, ⟨s.queue ++ [message]⟩)
  messages status s :=
    .ok (s.queue.filter fun message => status.all fun status => message.status = status)
  markSent id s :=
    match markFirst id s.queue with
    | none => .error (.notFound (.message id))
    | some queue => .ok ⟨queue⟩

end MemoryOutbox

end Vouch
