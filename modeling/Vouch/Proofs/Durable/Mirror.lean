import Vouch.Durable.Environment
import Vouch.Proofs.Durable.Keys
import Vouch.Proofs.Memory.Calls

/-!
# Durable stores mirror stores in memory

The byte maps of a ledger hold the tables of a store in memory: records in their encoding,
identifiers as their bytes.  The two indexes that only a ledger has, by value and by number of
issue, follow from the tables.  What is read from a ledger is what is read from the store it
mirrors, as long as the keys were short enough to be written.
-/

namespace Vouch

/-- The keys of an address are short enough to be written. -/
structure Address.KeysFit (a : Address) : Prop where
  slot : (Durable.slotKey a.slot).length ≤ Durable.maxKeySize
  value : (Durable.valueKey a.channel a.value a.id).length ≤ Durable.maxKeySize

-- Texts that fit into keys are short.
theorem Address.KeysFit.textsFit {a : Address} (h : a.KeysFit) : a.TextsFit where
  identity := by
    have hslot := h.slot
    rw [Durable.length_slotKey] at hslot
    have hmax : Durable.maxKeySize = 511 := rfl
    show a.slot.identity.bytes.length < 18446744073709551616
    omega
  value := by
    have hvalue := h.value
    rw [Durable.length_valueKey] at hvalue
    have hmax : Durable.maxKeySize = 511 := rfl
    show (Bytes.ofText a.value.text).length < 18446744073709551616
    omega

namespace Durable

/-! ## Single reads and writes -/

theorem read_of_ne_nil {k : Bytes} (h : k.isEmpty = false) (m : ByteMap) :
    read m k = .ok (m.get? k) := by
  rw [read, h]
  rfl

theorem remove_of_ne_nil {k : Bytes} (h : k.isEmpty = false) (m : ByteMap) :
    remove m k = .ok ((m.get? k).isSome, m.erase k) := by
  rw [remove, h]
  rfl

theorem write_of_fits {k : Bytes} (h : k.isEmpty = false) (hk : k.length ≤ maxKeySize)
    (m : ByteMap) (v : Bytes) : write m k v = .ok (m.insert k v) := by
  rw [write, if_neg]
  rintro (he | hlong)
  · rw [h] at he
    cases he
  · omega

theorem write_of_long {k : Bytes} (h : maxKeySize < k.length) (m : ByteMap) (v : Bytes) :
    write m k v = .error .badKeySize := by
  rw [write, if_pos (.inr h)]

theorem slotKey_ne_nil (slot : Slot) : (slotKey slot).isEmpty = false := by
  have h := length_slotKey slot
  cases hk : slotKey slot with
  | nil => rw [hk, List.length_nil] at h; omega
  | cons _ _ => rfl

theorem valueKey_ne_nil (channel : Channel) (value : Contact) (id : AddressId) :
    (valueKey channel value id).isEmpty = false := rfl

theorem historyKey_ne_nil (a : AddressId) (n : UInt64) : (historyKey a n).isEmpty = false := by
  have h := length_historyKey a n
  cases hk : historyKey a n with
  | nil => rw [hk] at h; cases h
  | cons _ _ => rfl

theorem read_id {kind : IdKind} (m : ByteMap) (id : Id kind) :
    read m id.bytes = .ok (m.get? id.bytes) :=
  read_of_ne_nil (Id.bytes_ne_nil id) m

theorem write_id {kind : IdKind} (m : ByteMap) (id : Id kind) (v : Bytes) :
    write m id.bytes v = .ok (m.insert id.bytes v) :=
  write_of_fits (Id.bytes_ne_nil id) (by rw [id.length_bytes]; decide) m v

theorem scan_id {kind : IdKind} (m : ByteMap) (id : Id kind) :
    scan m id.bytes = .ok (valuesUnder m id.bytes) :=
  scan_of_ne_nil (Id.bytes_ne_nil id) m

theorem decode_encode {α : Type} {codec : Binary.Codec α} {a : α} (h : codec.ReadsBack a) :
    decode codec (codec.encode a) = .ok a := by
  rw [decode, Binary.Codec.decodeStart?_encode h]

namespace Ledger

/-! ## The relation -/

/-- The history of a ledger has its keys in the order of issue, as long as the numbers have not
run over. -/
structure Chronicles (s : Ledger) (m : MemoryStore) : Prop where
  number : ∀ {k v}, s.history.get? k = some v →
    ∃ a n, k = historyKey a n ∧ n.toNat ≤ m.challenges.size
  listed : ∀ a, scan s.history a.bytes = .ok ((m.history a).map fun c => c.id.bytes)

/-- The byte maps of a ledger hold what the tables of a store in memory hold. -/
structure Mirrors (s : Ledger) (m : MemoryStore) : Prop where
  intact : m.Intact
  addresses : ∀ id, s.addresses.get? id.bytes = (m.addresses.get? id).map Address.codec.encode
  keysFit : ∀ {id a}, m.addresses.get? id = some a → a.KeysFit
  slots : ∀ slot, s.slots.get? (slotKey slot) = (m.slots.get? slot).map fun id => id.bytes
  slot_of_key : ∀ {k v}, s.slots.get? k = some v → ∃ slot, k = slotKey slot
  /-- The index lists every address under its value, and nothing else. -/
  valueIndex : ∀ {k v}, s.valueIndex.get? k = some v ↔
    ∃ id a, m.addresses.get? id = some a ∧ k = valueKey a.channel a.value id ∧ v = id.bytes
  challenges : ∀ f, s.challenges.get? f.bytes = (m.challenges.get? f).map Challenge.codec.encode
  size : s.challenges.size = m.challenges.size
  textsFit : ∀ {f c}, m.challenges.get? f = some c → c.TextsFit
  active : ∀ a, s.active.get? a.bytes = (m.active.get? a).map fun f => f.bytes
  address_of_key : ∀ {k v}, s.active.get? k = some v → ∃ a : AddressId, k = a.bytes
  /-- A history names no challenge that is not there, even when the numbers have run over. -/
  flow_of_history : ∀ {k v}, s.history.get? k = some v →
    ∃ f c, v = f.bytes ∧ m.challenges.get? f = some c
  /-- The number of the challenge issued last. -/
  sequence : s.header.get? sequenceKey =
    if m.challenges.size = 0 then none
    else some (Bytes.bigEndian 8 (UInt64.ofNat m.challenges.size).toNat)
  history : m.challenges.size < UInt64.size → s.Chronicles m

-- A fresh ledger mirrors the empty store.
theorem mirrors_fresh : Environment.fresh.ledger.Mirrors .empty where
  intact := MemoryStore.intact_empty
  addresses _ := rfl
  keysFit h := nomatch h
  slots _ := rfl
  slot_of_key h := nomatch h
  valueIndex := ⟨(fun h => nomatch h), (fun ⟨_, _, h, _⟩ => nomatch h)⟩
  challenges _ := rfl
  size := rfl
  textsFit h := nomatch h
  active _ := rfl
  address_of_key h := nomatch h
  flow_of_history h := nomatch h
  sequence := by
    show (ByteMap.insert _ _ _).get? _ = none
    rw [ByteMap.get?_insert, if_neg (by decide)]
    rfl
  history _ := ⟨(fun h => nomatch h), fun a => scan_id _ a⟩

namespace Mirrors

variable {s : Ledger} {m : MemoryStore}

/-! ## Reading records -/

theorem readAddress (h : s.Mirrors m) (id : AddressId) :
    s.readAddress id = .ok (m.addresses.get? id) := by
  rw [Ledger.readAddress, readRecord, read_id, h.addresses]
  cases hget : m.addresses.get? id with
  | none => rfl
  | some a =>
    show (do return some (← decode Address.codec (Address.codec.encode a))) = _
    rw [decode_encode (Address.codec_readsBack (h.keysFit hget).textsFit)]
    rfl

theorem readChallenge (h : s.Mirrors m) (f : FlowId) :
    s.readChallenge f = .ok (m.challenges.get? f) := by
  rw [Ledger.readChallenge, readRecord, read_id, h.challenges]
  cases hget : m.challenges.get? f with
  | none => rfl
  | some c =>
    show (do return some (← decode Challenge.codec (Challenge.codec.encode c))) = _
    rw [decode_encode (Challenge.codec_readsBack (h.textsFit hget))]
    rfl

theorem addressOf (h : s.Mirrors m) {c : Challenge} {a : Address}
    (ha : m.addresses.get? c.address = some a) : s.addressOf c = .ok a := by
  rw [Ledger.addressOf, h.readAddress, ha]
  rfl

theorem readActive (h : s.Mirrors m) (a : AddressId) :
    s.readActive a = .ok ((m.active.get? a).bind m.challenges.get?) := by
  rw [Ledger.readActive, read_id, h.active]
  cases hp : m.active.get? a with
  | none => rfl
  | some f =>
    obtain ⟨c, hc, -⟩ := h.intact.active_iff.mp hp
    show decodeId .flow f.bytes >>= _ = _
    rw [decodeId_bytes]
    show s.readChallenge f >>= _ = _
    rw [h.readChallenge, hc, Option.bind_some, hc]
    rfl

theorem addressIn? (h : s.Mirrors m) (slot : Slot) :
    s.addressIn? slot = .ok ((m.slots.get? slot).bind m.addresses.get?) := by
  rw [Ledger.addressIn?, read_of_ne_nil (slotKey_ne_nil slot), h.slots]
  cases hp : m.slots.get? slot with
  | none => rfl
  | some id =>
    show (do s.readAddress (← decodeId .address id.bytes)) = _
    rw [decodeId_bytes]
    exact h.readAddress id

end Mirrors

end Ledger

end Durable

end Vouch
