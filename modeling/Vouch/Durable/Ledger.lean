import Vouch.Durable.Layout

/-!
# The durable store of addresses and challenges

Seven byte maps.  Besides the records themselves there are the slots, an index of the addresses by
value, the pointer from an address to its active challenge and the history of an address in the
order of issue.  Every operation keeps the indexes in step with the records or fails as a whole.
-/

namespace Vouch.Durable

/-- The byte maps of the store. -/
structure Ledger where
  -- Addresses by their identifier.
  addresses : ByteMap
  -- Identifiers of addresses by slot.
  slots : ByteMap
  -- Identifiers of addresses by value.
  valueIndex : ByteMap
  -- Challenges by their identifier.
  challenges : ByteMap
  -- Identifiers of active challenges by address.
  active : ByteMap
  -- Identifiers of challenges by address and number.
  history : ByteMap
  -- The number of challenges issued, and the version of the schema.
  header : ByteMap

namespace Ledger

def sequenceKey : Bytes := Bytes.ofText "challenge_seq"

def readAddress (s : Ledger) (id : AddressId) : Except StoreError (Option Address) :=
  readRecord Address.codec s.addresses id.bytes

def readChallenge (s : Ledger) (id : FlowId) : Except StoreError (Option Challenge) :=
  readRecord Challenge.codec s.challenges id.bytes

def addressOf (s : Ledger) (c : Challenge) : Except StoreError Address := do
  match ← s.readAddress c.address with
  | some address => return address
  | none => .error (.corruption (.challengeWithoutAddress c.id c.address))

/-- Writes an address and keeps the slots and the index of values in step.  `previous` is the
value under which the record was listed so far, if it was. -/
def writeAddress (s : Ledger) (a : Address) (previous : Option Contact) :
    Except StoreError Ledger := do
  let addresses ← write s.addresses a.id.bytes (Address.codec.encode a)
  let slots ← write s.slots (slotKey a.slot) a.id.bytes
  let valueIndex ←
    match previous with
    | none => .ok s.valueIndex
    | some old =>
      if old = a.value then .ok s.valueIndex
      else (remove s.valueIndex (valueKey a.channel old a.id)).map (·.2)
  let valueIndex ← write valueIndex (valueKey a.channel a.value a.id) a.id.bytes
  return { s with addresses, slots, valueIndex }

/-- Writes a challenge.  An active one becomes the one its address points at; the pointer goes
once the challenge has ended. -/
def writeChallenge (s : Ledger) (c : Challenge) : Except StoreError Ledger := do
  let challenges ← write s.challenges c.id.bytes (Challenge.codec.encode c)
  let active ←
    if c.isActive then
      write s.active c.address.bytes c.id.bytes
    else do
      if (← read s.active c.address.bytes) = some c.id.bytes then
        (remove s.active c.address.bytes).map (·.2)
      else
        .ok s.active
  return { s with challenges, active }

/-- The challenge that an address points at. -/
def readActive (s : Ledger) (address : AddressId) : Except StoreError (Option Challenge) := do
  match ← read s.active address.bytes with
  | none => return none
  | some bs =>
    let id ← decodeId .flow bs
    match ← s.readChallenge id with
    | some c => return some c
    | none => .error (.corruption (.pointerWithoutChallenge id))

/-- Ends the active challenge of an address, if there is one, and returns it. -/
def expireActive (s : Ledger) (address : AddressId) (reason : ExpiredReason) :
    Except StoreError (Option Challenge × Ledger) := do
  match ← s.readActive address with
  | none => return (none, s)
  | some c =>
    let c := c.expire reason
    return (some c, ← s.writeChallenge c)

/-- The addresses that an index lists under keys with a common beginning. -/
def addressesAt (s : Ledger) (index : ByteMap) (start : Bytes) :
    Except StoreError (List Address) := do
  (← scan index start).mapM fun bs => do
    let id ← decodeId .address bs
    match ← s.readAddress id with
    | some address => return address
    | none => .error (.corruption (.indexWithoutAddress id))

/-- The number for the next challenge. -/
def nextSequence (s : Ledger) : Except StoreError (UInt64 × Ledger) := do
  let current ←
    match ← read s.header sequenceKey with
    | none => .ok 0
    | some bs =>
      if bs.length = 8 then .ok (UInt64.ofNat (Bytes.ofBigEndian bs))
      else .error (.corruption .badSequence)
  let next : UInt64 := current + 1
  let header ← write s.header sequenceKey (Bytes.bigEndian 8 next.toNat)
  return (next, { s with header })

def addressIn? (slot : Slot) (s : Ledger) : Except StoreError (Option Address) := do
  match ← read s.slots (slotKey slot) with
  | none => return none
  | some bs => s.readAddress (← decodeId .address bs)

/-- Puts a record into its slot, or rebinds the one that is there. -/
def upsert (candidate : Address) (s : Ledger) : Except StoreError (Upserted × Ledger) := do
  match ← read s.slots (slotKey candidate.slot) with
  | none => return (.created candidate, ← s.writeAddress candidate none)
  | some bs =>
    let id ← decodeId .address bs
    match ← s.readAddress id with
    | none => .error (.corruption (.slotWithoutAddress id))
    | some address =>
      if address.value = candidate.value then
        return (.unchanged address, s)
      else
        let (expired, s) ← s.expireActive id .addressChanged
        let rebound := address.rebind candidate.value candidate.updatedAt
        return (.rebound rebound expired.toList, ← s.writeAddress rebound (some address.value))

/-- Adds an active challenge in place of the one that was active. -/
def create (c : Challenge) (s : Ledger) : Except StoreError (Option Challenge × Ledger) := do
  match ← s.readChallenge c.id with
  | some _ => .error (.duplicate (.challenge c.id))
  | none =>
    let address ← s.addressOf c
    let (superseded, s) ← s.expireActive address.id .superseded
    let address := address.markPending c.issuedAt
    let (sequence, s) ← s.nextSequence
    let history ← write s.history (historyKey address.id sequence) c.id.bytes
    let s ← { s with history }.writeChallenge c
    return (superseded, ← s.writeAddress address (some address.value))

/-- Every challenge ever issued for an address, oldest first. -/
def historyOf (address : AddressId) (s : Ledger) : Except StoreError (List Challenge) := do
  (← scan s.history address.bytes).mapM fun bs => do
    let id ← decodeId .flow bs
    match ← s.readChallenge id with
    | some c => return c
    | none => .error (.corruption (.historyWithoutChallenge id))

/-- Every challenge that an address points at, by the time of issue and then by address. -/
def activeChallenges (s : Ledger) : Except StoreError (List Challenge) := do
  let found ← s.active.entries.mapM fun entry => do
    s.readChallenge (← decodeId .flow entry.2)
  return (found.filterMap id).mergeSort fun a b => a.issuedAt.secs ≤ b.issuedAt.secs

/-- Changes a challenge and its address together. -/
def update {α : Type} (id : FlowId) (f : Attempt → α × Attempt) (s : Ledger) :
    Except StoreError (α × Ledger) := do
  match ← s.readChallenge id with
  | none => .error (.notFound (.challenge id))
  | some challenge =>
    let address ← s.addressOf challenge
    let (outcome, changed) := f ⟨challenge, address⟩
    let s ← s.writeChallenge changed.challenge
    if changed.address = address then
      return (outcome, s)
    else
      return (outcome, ← s.writeAddress changed.address (some address.value))

instance : VerificationStore Ledger where
  address? id s := s.readAddress id
  addressIn? := addressIn?
  addressesOf identity s := s.addressesAt s.slots (identityPrefix identity)
  addressesWith channel value s := s.addressesAt s.valueIndex (valuePrefix channel value)
  upsert := upsert
  create := create
  challenge? id s := s.readChallenge id
  activeFor? address s := s.readActive address
  history := historyOf
  active := activeChallenges
  complete id now s := s.update id fun p => p.complete now
  failAttempt id now s := s.update id fun p => p.fail now
  expire id reason now s :=
    s.update id fun p => ((p.expire reason now).challenge, p.expire reason now)

end Ledger

end Vouch.Durable
