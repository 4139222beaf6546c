import Vouch.Binary.Record
import Vouch.Durable.ByteMap
import Vouch.Store

/-!
# Keys and stored records

A composite key begins with what it is listed by, so a listing is a scan of the keys with a common
beginning.  Parts of variable length are preceded by their length in two bytes, so that no
beginning runs into its neighbour.  The database refuses to write under a key that is empty or
too long, and to look for an empty one or list from it.  The capacity of the maps, a setting of the
node, is left out: here no write fails because they are full.
-/

namespace Vouch.Durable

/-- The longest key that the database writes. -/
def maxKeySize : Nat := 511

/-- A part of variable length, after its length in two bytes. -/
def sized (part : Bytes) : Bytes :=
  Bytes.bigEndian 2 part.length ++ part

/-- What the keys of all slots of an identity begin with. -/
def identityPrefix (identity : IdentityId) : Bytes :=
  sized identity.bytes

def slotKey (slot : Slot) : Bytes :=
  identityPrefix slot.identity ++ [slot.channel.tag]

/-- What the keys of all addresses bound to a value begin with. -/
def valuePrefix (channel : Channel) (value : Contact) : Bytes :=
  channel.tag :: sized (Bytes.ofText value.text)

/-- The key under which an address is listed by its value. -/
def valueKey (channel : Channel) (value : Contact) (address : AddressId) : Bytes :=
  valuePrefix channel value ++ address.bytes

/-- The key of a challenge in its address's history.  Its number is one of the sequence in which
all challenges are issued. -/
def historyKey (address : AddressId) (sequence : UInt64) : Bytes :=
  address.bytes ++ Bytes.bigEndian 8 sequence.toNat

/-- The least byte string that comes after everything that begins with `start`; there is none if
`start` holds only the greatest byte. -/
def upperBound? (start : Bytes) : Option Bytes :=
  match start.reverse.dropWhile (· = 0xFF) with
  | [] => none
  | b :: rest => some ((b + 1) :: rest).reverse

/-- The values whose keys begin with `start`, in the order of the keys. -/
def valuesUnder (m : ByteMap) (start : Bytes) : List Bytes :=
  (m.range start (upperBound? start)).map (·.2)

/-- Lists the values whose keys begin with `start`.  The first of them is looked for from `start`
on, so the empty beginning is refused as the empty key is. -/
def scan (m : ByteMap) (start : Bytes) : Except StoreError (List Bytes) :=
  if start.isEmpty then .error .badKeySize else .ok (valuesUnder m start)

def read (m : ByteMap) (k : Bytes) : Except StoreError (Option Bytes) :=
  if k.isEmpty then .error .badKeySize else .ok (m.get? k)

def write (m : ByteMap) (k v : Bytes) : Except StoreError ByteMap :=
  if k.isEmpty ∨ maxKeySize < k.length then .error .badKeySize else .ok (m.insert k v)

/-- Removes a key, and says whether it was there. -/
def remove (m : ByteMap) (k : Bytes) : Except StoreError (Bool × ByteMap) :=
  if k.isEmpty then .error .badKeySize else .ok ((m.get? k).isSome, m.erase k)

def decode {α : Type} (codec : Binary.Codec α) (bs : Bytes) : Except StoreError α :=
  match codec.decodeStart? bs with
  | some a => .ok a
  | none => .error .encoding

/-- Reads the record under a key. -/
def readRecord {α : Type} (codec : Binary.Codec α) (m : ByteMap) (k : Bytes) :
    Except StoreError (Option α) := do
  match ← read m k with
  | none => return none
  | some bs => return some (← decode codec bs)

def decodeId (kind : IdKind) (bs : Bytes) : Except StoreError (Id kind) :=
  match Id.ofBytes kind bs with
  | .ok id => .ok id
  | .error fault => .error (.corruption (.badId fault))

end Vouch.Durable
