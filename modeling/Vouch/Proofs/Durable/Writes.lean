import Vouch.Proofs.Durable.Mirror

/-!
# What a ledger writes

Each of the ways in which a call writes to the tables of a store in memory has its counterpart in
the byte maps of a ledger that mirrors the store.  A record whose keys are too long is refused.
-/

namespace Vouch

-- Setting a key to the value that it has changes nothing.
theorem Table.insert_of_get?_eq_some {κ ν : Type} [DecidableEq κ] {t : Table κ ν} {k : κ} {v : ν}
    (h : t.get? k = some v) : t.insert k v = t := by
  apply Table.ext_entries
  have hmem := (t.mem_entries_iff k v).mpr h
  have hn := t.nodup
  show insertEntries k v t.entries = t.entries
  generalize t.entries = entries at hmem hn
  induction entries with
  | nil => cases hmem
  | cons entry rest ih =>
    obtain ⟨hfresh, hrest⟩ := List.nodup_cons.mp hn
    simp only [insertEntries]
    rcases List.mem_cons.mp hmem with rfl | hmem
    · rw [if_pos rfl]
    · rw [if_neg, ih hmem hrest]
      intro he
      exact hfresh (List.mem_map.mpr ⟨_, hmem, he.symm⟩)

namespace Durable.Ledger

variable {s : Ledger} {m : MemoryStore}

/-! ## Writing an address -/

/-- The index of values before an address is entered. -/
def unlisted (s : Ledger) (a : Address) (previous : Option Contact) : ByteMap :=
  match previous with
  | none => s.valueIndex
  | some old =>
    if old = a.value then s.valueIndex
    else s.valueIndex.erase (valueKey a.channel old a.id)

theorem writeAddress_of_keysFit {a : Address} (h : a.KeysFit) (previous : Option Contact) :
    s.writeAddress a previous = .ok { s with
      addresses := s.addresses.insert a.id.bytes (Address.codec.encode a)
      slots := s.slots.insert (slotKey a.slot) a.id.bytes
      valueIndex :=
        (s.unlisted a previous).insert (valueKey a.channel a.value a.id) a.id.bytes } := by
  have hslot := write_of_fits (slotKey_ne_nil a.slot) h.slot s.slots a.id.bytes
  have hvalue := fun index => write_of_fits (valueKey_ne_nil _ _ _) h.value index a.id.bytes
  simp only [writeAddress, write_id, hslot]
  cases previous with
  | none => simp only [unlisted, bind, Except.bind, hvalue]; rfl
  | some old =>
    by_cases hold : old = a.value
    · simp only [unlisted, if_pos hold, bind, Except.bind, hvalue]; rfl
    · simp only [unlisted, if_neg hold, remove_of_ne_nil (valueKey_ne_nil _ _ _), Except.map,
        bind, Except.bind, hvalue]
      rfl

theorem writeAddress_of_not_keysFit {a : Address} (h : ¬ a.KeysFit) (previous : Option Contact) :
    s.writeAddress a previous = .error .badKeySize := by
  by_cases hslot : (slotKey a.slot).length ≤ maxKeySize
  · have hvalue : maxKeySize < (valueKey a.channel a.value a.id).length :=
      Nat.lt_of_not_le fun hv => h ⟨hslot, hv⟩
    have hwrite := fun index => write_of_long hvalue index a.id.bytes
    simp only [writeAddress, write_id, write_of_fits (slotKey_ne_nil a.slot) hslot]
    cases previous with
    | none => simp only [bind, Except.bind, hwrite]
    | some old =>
      by_cases hold : old = a.value
      · simp only [if_pos hold, bind, Except.bind, hwrite]
      · simp only [if_neg hold, remove_of_ne_nil (valueKey_ne_nil _ _ _), Except.map, bind,
          Except.bind, hwrite]
  · simp only [writeAddress, write_id, write_of_long (Nat.lt_of_not_le hslot), bind, Except.bind]

namespace Mirrors

-- Apart from what is written, the index lists every other address under its value.
theorem get?_unlisted (h : s.Mirrors m) {a : Address} {previous : Option Contact}
    (hprevious : previous = (m.addresses.get? a.id).map fun old => old.value)
    (hslot : ∀ old, m.addresses.get? a.id = some old → a.slot = old.slot) {k v : Bytes}
    (hk : k ≠ valueKey a.channel a.value a.id) :
    (s.unlisted a previous).get? k = some v ↔
      ∃ id b, id ≠ a.id ∧ m.addresses.get? id = some b ∧
        k = valueKey b.channel b.value id ∧ v = id.bytes := by
  subst hprevious
  cases hold : m.addresses.get? a.id with
  | none =>
    show s.valueIndex.get? k = some v ↔ _
    rw [h.valueIndex]
    constructor
    · rintro ⟨id, b, hb, hkey⟩
      refine ⟨id, b, ?_, hb, hkey⟩
      rintro rfl
      rw [hold] at hb
      cases hb
    · rintro ⟨id, b, -, hb, hkey⟩
      exact ⟨id, b, hb, hkey⟩
  | some old =>
    have hchannel : a.channel = old.channel := congrArg (·.channel) (hslot old hold)
    show (if old.value = a.value then s.valueIndex
      else s.valueIndex.erase (valueKey a.channel old.value a.id)).get? k = some v ↔ _
    by_cases hvalue : old.value = a.value
    · rw [if_pos hvalue, h.valueIndex]
      constructor
      · rintro ⟨id, b, hb, hkey, hv⟩
        refine ⟨id, b, ?_, hb, hkey, hv⟩
        rintro rfl
        rw [hold] at hb
        rw [← Option.some.inj hb, ← hchannel, hvalue] at hkey
        exact hk hkey
      · rintro ⟨id, b, -, hb, hkey⟩
        exact ⟨id, b, hb, hkey⟩
    · -- the entry under the old value is removed
      rw [if_neg hvalue, ByteMap.get?_erase]
      by_cases hkold : k = valueKey a.channel old.value a.id
      · rw [if_pos hkold]
        constructor
        · intro hn
          cases hn
        · rintro ⟨id, b, hid, -, hkey, -⟩
          rw [hkold] at hkey
          exact absurd (valueKey_injective hkey).2.2.symm hid
      · rw [if_neg hkold, h.valueIndex]
        constructor
        · rintro ⟨id, b, hb, hkey, hv⟩
          refine ⟨id, b, ?_, hb, hkey, hv⟩
          rintro rfl
          rw [hold] at hb
          rw [← Option.some.inj hb, ← hchannel] at hkey
          exact hkold hkey
        · rintro ⟨id, b, -, hb, hkey⟩
          exact ⟨id, b, hb, hkey⟩

-- With what is written, it lists every address under its value.
theorem get?_listed (h : s.Mirrors m) {a : Address} {previous : Option Contact}
    (hprevious : previous = (m.addresses.get? a.id).map fun old => old.value)
    (hslot : ∀ old, m.addresses.get? a.id = some old → a.slot = old.slot) {k v : Bytes} :
    ((s.unlisted a previous).insert (valueKey a.channel a.value a.id) a.id.bytes).get? k = some v ↔
      ∃ id b, (m.addresses.insert a.id a).get? id = some b ∧
        k = valueKey b.channel b.value id ∧ v = id.bytes := by
  simp only [ByteMap.get?_insert, Table.get?_insert]
  by_cases hk : k = valueKey a.channel a.value a.id
  · rw [if_pos hk]
    constructor
    · intro hv
      exact ⟨a.id, a, if_pos rfl, hk, (Option.some.inj hv).symm⟩
    · rintro ⟨id, b, -, hkey, hv⟩
      rw [hk] at hkey
      rw [hv, (valueKey_injective hkey).2.2]
  · rw [if_neg hk, h.get?_unlisted hprevious hslot hk]
    constructor
    · rintro ⟨id, b, hid, hb, hkey⟩
      exact ⟨id, b, by rw [if_neg hid]; exact hb, hkey⟩
    · rintro ⟨id, b, hb, hkey, hv⟩
      split at hb
      · rename_i hid
        rw [← Option.some.inj hb, hid] at hkey
        exact absurd hkey hk
      · rename_i hid
        exact ⟨id, b, hid, hb, hkey, hv⟩

-- A record is entered under its identifier, its slot and its value.
theorem enter (h : s.Mirrors m) {a : Address} (hfit : a.KeysFit) (previous : Option Contact)
    (hprevious : previous = (m.addresses.get? a.id).map fun old => old.value)
    (hslot : ∀ old, m.addresses.get? a.id = some old → a.slot = old.slot)
    (hintact : MemoryStore.Intact { m with
      slots := m.slots.insert a.slot a.id
      addresses := m.addresses.insert a.id a }) :
    ∃ s', s.writeAddress a previous = .ok s' ∧ s'.Mirrors { m with
      slots := m.slots.insert a.slot a.id
      addresses := m.addresses.insert a.id a } := by
  refine ⟨_, writeAddress_of_keysFit hfit previous, ?_⟩
  exact {
    intact := hintact
    addresses := fun id => by
      simp only [ByteMap.get?_insert_id, Table.get?_insert, h.addresses]
      split <;> rfl
    keysFit := fun hb =>
      Table.forall_insert (P := fun _ (b : Address) => b.KeysFit) h.keysFit hfit hb
    slots := fun slot => by
      simp only [ByteMap.get?_insert, Table.get?_insert, h.slots]
      by_cases hs : slot = a.slot
      · rw [if_pos hs, if_pos (congrArg slotKey hs)]
        rfl
      · rw [if_neg hs, if_neg fun he => hs (slotKey_injective he)]
    slot_of_key := fun hk =>
      ByteMap.forall_insert (P := fun k _ => ∃ slot, k = slotKey slot) h.slot_of_key
        ⟨a.slot, rfl⟩ hk
    valueIndex := h.get?_listed hprevious hslot
    challenges := h.challenges
    size := h.size
    textsFit := h.textsFit
    active := h.active
    address_of_key := h.address_of_key
    flow_of_history := h.flow_of_history
    sequence := h.sequence
    history := fun hsize => ⟨(h.history hsize).number, (h.history hsize).listed⟩ }

-- A record is put into an empty slot.
theorem open_slot (h : s.Mirrors m) {a : Address} (hfit : a.KeysFit)
    (hslot : m.slots.get? a.slot = none) (hnew : m.addresses.get? a.id = none) :
    ∃ s', s.writeAddress a none = .ok s' ∧ s'.Mirrors { m with
      slots := m.slots.insert a.slot a.id
      addresses := m.addresses.insert a.id a } := by
  apply h.enter hfit
  · rw [hnew]
    rfl
  · intro old hold
    rw [hnew] at hold
    cases hold
  · exact h.intact.open_slot hslot hnew

-- A record is written again, in the same slot.
theorem write_record (h : s.Mirrors m) {a old : Address} (hfit : a.KeysFit)
    (hold : m.addresses.get? a.id = some old) (hslot : a.slot = old.slot) :
    ∃ s', s.writeAddress a (some old.value) = .ok s' ∧
      s'.Mirrors { m with addresses := m.addresses.insert a.id a } := by
  have hfull := h.intact.slot_iff.mpr ⟨old, hold, hslot.symm⟩
  have henter := h.enter hfit (some old.value)
  rw [Table.insert_of_get?_eq_some hfull] at henter
  apply henter
  · rw [hold]
    rfl
  · intro old' hold'
    rw [hold] at hold'
    rw [← Option.some.inj hold']
    exact hslot
  · exact h.intact.write_record hold hslot

/-! ## Writing a challenge -/

-- What a challenge is kept under has a value in both or in neither.
theorem size_insert_challenge (h : s.Mirrors m) (c : Challenge) :
    (s.challenges.insert c.id.bytes (Challenge.codec.encode c)).size =
      (m.challenges.insert c.id c).size := by
  rw [ByteMap.size_insert, Table.size_insert, h.challenges, Option.isSome_map, h.size]

theorem get?_insert_challenge (h : s.Mirrors m) (c : Challenge) (f : FlowId) :
    (s.challenges.insert c.id.bytes (Challenge.codec.encode c)).get? f.bytes =
      ((m.challenges.insert c.id c).get? f).map Challenge.codec.encode := by
  rw [ByteMap.get?_insert_id, Table.get?_insert, h.challenges]
  split <;> rfl

theorem textsFit_insert (h : s.Mirrors m) {c : Challenge} (hc : c.TextsFit) {f : FlowId}
    {d : Challenge} (hd : (m.challenges.insert c.id c).get? f = some d) : d.TextsFit :=
  Table.forall_insert (P := fun _ (d : Challenge) => d.TextsFit) h.textsFit hc hd

theorem address_of_key_insert (h : s.Mirrors m) (c : Challenge) {k v : Bytes}
    (hk : (s.active.insert c.address.bytes c.id.bytes).get? k = some v) :
    ∃ a : AddressId, k = a.bytes :=
  ByteMap.forall_insert (P := fun k _ => ∃ a : AddressId, k = a.bytes) h.address_of_key
    ⟨c.address, rfl⟩ hk

-- A challenge that is there stays there, whatever is written.
theorem flow_of_history_insert (h : s.Mirrors m) (c : Challenge) {k v : Bytes}
    (hk : s.history.get? k = some v) :
    ∃ f d, v = f.bytes ∧ (m.challenges.insert c.id c).get? f = some d := by
  obtain ⟨f, d, hv, hd⟩ := h.flow_of_history hk
  by_cases hf : f = c.id
  · exact ⟨f, c, hv, by rw [Table.get?_insert, if_pos hf]⟩
  · exact ⟨f, d, hv, by rw [Table.get?_insert, if_neg hf, hd]⟩

theorem writeChallenge_of_isActive {s : Ledger} {c : Challenge} (h : c.isActive = true) :
    s.writeChallenge c = .ok { s with
      challenges := s.challenges.insert c.id.bytes (Challenge.codec.encode c)
      active := s.active.insert c.address.bytes c.id.bytes } := by
  simp only [writeChallenge, write_id, h, if_true, bind, Except.bind]
  rfl

theorem writeChallenge_of_ended (h : s.Mirrors m) {c old : Challenge}
    (hold : m.challenges.get? c.id = some old) (haddr : c.address = old.address)
    (hc : c.isActive = false) :
    s.writeChallenge c = .ok { s with
      challenges := s.challenges.insert c.id.bytes (Challenge.codec.encode c)
      active := if old.isActive then s.active.erase c.address.bytes else s.active } := by
  have hpointer : (m.active.get? c.address).map (fun f => f.bytes) = some c.id.bytes ↔
      old.isActive = true := by
    rw [Option.map_eq_some_iff]
    constructor
    · rintro ⟨f, hf, hbytes⟩
      rw [Id.eq_of_bytes_eq hbytes] at hf
      exact ((h.intact.pointer_iff hold haddr _).mp hf).2
    · intro hact
      exact ⟨c.id, (h.intact.pointer_iff hold haddr _).mpr ⟨rfl, hact⟩, rfl⟩
  simp only [writeChallenge, write_id, read_id, h.active, hc, bind, Except.bind]
  -- the pointer is removed only if it is the one to this challenge
  cases ho : old.isActive with
  | true =>
    simp only [if_pos (hpointer.mpr ho), remove_of_ne_nil (Id.bytes_ne_nil _)]
    rfl
  | false =>
    rw [if_neg Bool.false_ne_true, if_neg]
    · rfl
    · intro he
      rw [hpointer.mp he] at ho
      cases ho

-- The pointers after a challenge was written again.
theorem writeChallenge_active (h : s.Mirrors m) {c old : Challenge}
    (hold : m.challenges.get? c.id = some old) (haddr : c.address = old.address)
    (hended : old.isActive = false → c.isActive = false) :
    ∃ active, s.writeChallenge c = .ok { s with
        challenges := s.challenges.insert c.id.bytes (Challenge.codec.encode c)
        active } ∧
      (∀ a : AddressId, active.get? a.bytes =
        ((if old.isActive && !c.isActive then m.active.erase c.address
          else m.active).get? a).map fun f => f.bytes) ∧
      ∀ {k v}, active.get? k = some v → ∃ a : AddressId, k = a.bytes := by
  cases hc : c.isActive with
  | true =>
    -- a challenge that is active now was active before, and pointed at
    have hactive : old.isActive = true := by
      cases ho : old.isActive with
      | true => rfl
      | false => rw [hended ho] at hc; cases hc
    refine ⟨_, writeChallenge_of_isActive hc, ?_, ?_⟩
    · intro a
      simp only [Bool.not_true, Bool.and_false, ByteMap.get?_insert_id, h.active]
      split
      · rename_i ha
        rw [ha, if_neg Bool.false_ne_true, (h.intact.pointer_iff hold haddr _).mpr ⟨rfl, hactive⟩]
        rfl
      · rfl
    · exact h.address_of_key_insert c
  | false =>
    refine ⟨_, h.writeChallenge_of_ended hold haddr hc, ?_⟩
    cases old.isActive with
    | true =>
      refine ⟨fun a => ?_, fun {k v} hk => ?_⟩
      · simp only [Bool.not_false, Bool.and_true, if_true, ByteMap.get?_erase_id,
          Table.get?_erase, h.active]
        split <;> rfl
      · simp only [if_true, ByteMap.get?_erase] at hk
        split at hk
        · cases hk
        · exact h.address_of_key hk
    | false =>
      refine ⟨fun a => ?_, fun {k v} hk => ?_⟩
      · rw [Bool.false_and, if_neg Bool.false_ne_true, if_neg Bool.false_ne_true]
        exact h.active a
      · rw [if_neg Bool.false_ne_true] at hk
        exact h.address_of_key hk

-- A challenge is written again; if it has ended since, its address no longer points at it.
theorem write_challenge (h : s.Mirrors m) {c old : Challenge}
    (hold : m.challenges.get? c.id = some old) (haddr : c.address = old.address)
    (hended : old.isActive = false → c.isActive = false) (htexts : c.TextsFit) :
    ∃ s', s.writeChallenge c = .ok s' ∧ s'.Mirrors { m with
      active := if old.isActive && !c.isActive then m.active.erase c.address else m.active
      challenges := m.challenges.insert c.id c } := by
  obtain ⟨active, hwrite, hactive, hkeys⟩ := h.writeChallenge_active hold haddr hended
  have hsize : (m.challenges.insert c.id c).size = m.challenges.size := by
    rw [Table.size_insert, hold]
    rfl
  refine ⟨_, hwrite, ?_⟩
  exact {
    intact := h.intact.write_challenge hold haddr hended
    addresses := h.addresses
    keysFit := h.keysFit
    slots := h.slots
    slot_of_key := h.slot_of_key
    valueIndex := h.valueIndex
    challenges := h.get?_insert_challenge c
    size := h.size_insert_challenge c
    textsFit := h.textsFit_insert htexts
    active := hactive
    address_of_key := hkeys
    flow_of_history := h.flow_of_history_insert c
    sequence := by
      simp only [hsize]
      exact h.sequence
    history := by
      simp only [hsize]
      intro hroom
      refine ⟨?_, ?_⟩
      · simp only [hsize]
        exact (h.history hroom).number
      · intro a
        rw [(h.history hroom).listed a]
        have hreplace : MemoryStore.history a { m with
            active := if old.isActive && !c.isActive then m.active.erase c.address else m.active
            challenges := m.challenges.insert c.id c } =
              (m.history a).map fun d => if d.id = c.id then c else d :=
          MemoryStore.history_replace h.intact hold haddr rfl a
        rw [hreplace, List.map_map]
        refine congrArg Except.ok (List.map_congr_left ?_)
        intro d _
        simp only [Function.comp_apply]
        split
        · rename_i hd
          rw [hd]
        · rfl }

/-! ## Adding a challenge -/

theorem nextSequence (h : s.Mirrors m) :
    s.nextSequence = .ok (UInt64.ofNat (m.challenges.size + 1), { s with
      header := s.header.insert sequenceKey
        (Bytes.bigEndian 8 (UInt64.ofNat (m.challenges.size + 1)).toNat) }) := by
  have hkey : sequenceKey.isEmpty = false := by decide
  have hfit : sequenceKey.length ≤ maxKeySize := by decide
  simp only [Ledger.nextSequence, read_of_ne_nil hkey, write_of_fits hkey hfit, h.sequence,
    bind, Except.bind]
  by_cases hsize : m.challenges.size = 0
  · simp only [hsize, if_true]
    rfl
  · -- the number that was stored last is read back, even when it has run over
    have hback : UInt64.ofNat (Bytes.ofBigEndian
        (Bytes.bigEndian 8 (UInt64.ofNat m.challenges.size).toNat)) =
          UInt64.ofNat m.challenges.size := by
      have hlt : (UInt64.ofNat m.challenges.size).toNat < Nat.pow 256 8 := UInt64.toNat_lt _
      rw [Bytes.ofBigEndian_bigEndian, Nat.mod_eq_of_lt hlt, UInt64.ofNat_toNat]
    simp only [if_neg hsize, Bytes.length_bigEndian, if_true, hback, pure, Except.pure]
    rw [UInt64.ofNat_add]
    rfl

-- A number greater than all others comes last in its history.
theorem chronicles_add (h : s.Chronicles m) {c : Challenge} {n : UInt64}
    (hnew : m.challenges.get? c.id = none) {m' : MemoryStore}
    (hm' : m'.challenges = m.challenges.insert c.id c)
    (hn : n.toNat = m.challenges.size + 1) {s' : Ledger}
    (hs' : s'.history = s.history.insert (historyKey c.address n) c.id.bytes) :
    s'.Chronicles m' where
  number {k v} hk := by
    have hsize : m'.challenges.size = m.challenges.size + 1 := by
      rw [hm', Table.size_insert, hnew]
      rfl
    rw [hs', ByteMap.get?_insert] at hk
    rw [hsize]
    split at hk
    · rename_i he
      exact ⟨c.address, n, he, by omega⟩
    · obtain ⟨a, n', hkey, hle⟩ := h.number hk
      exact ⟨a, n', hkey, by omega⟩
  listed a := by
    have hlisted := h.listed a
    rw [scan_id, Except.ok.injEq] at hlisted
    rw [MemoryStore.history_append hnew hm', List.map_append, ← hlisted, scan_id, valuesUnder_eq,
      valuesUnder_eq, hs']
    refine congrArg Except.ok ?_
    by_cases ha : c.address = a
    · -- the new key is beyond every key of the address
      subst ha
      have hlast := ByteMap.filter_insert_of_forall_lt (k := historyKey c.address n)
        (p := fun k => k.startsWith c.address.bytes) s.history c.id.bytes
        ((historyKey_startsWith_iff _ _ _).mpr rfl) (by
          intro entry hmem hstart
          obtain ⟨a, n', hkey, hle⟩ := h.number ((ByteMap.mem_entries_iff _ _ _).mp hmem)
          rw [hkey, historyKey_startsWith_iff] at hstart
          rw [hkey, hstart]
          apply historyKey_lt
          rw [UInt64.lt_iff_toNat_lt]
          omega)
      rw [hlast, List.map_append, if_pos rfl]
      rfl
    · have hother : (historyKey c.address n).startsWith a.bytes = false := by
        cases hstart : (historyKey c.address n).startsWith a.bytes with
        | false => rfl
        | true => exact absurd ((historyKey_startsWith_iff _ _ _).mp hstart) ha
      rw [ByteMap.filter_insert_of_not (p := fun k => k.startsWith a.bytes) _ _ hother, if_neg ha,
        List.map_nil, List.append_nil]

-- An active challenge is added for an address that has none.
theorem add_challenge (h : s.Mirrors m) {c : Challenge} {a : Address}
    (hnew : m.challenges.get? c.id = none) (ha : m.addresses.get? c.address = some a)
    (hact : c.isActive = true) (hfree : m.active.get? c.address = none) (htexts : c.TextsFit) :
    ∃ n s₁ s', s.nextSequence = .ok (n, s₁) ∧
      writeChallenge
        { s₁ with history := s₁.history.insert (historyKey c.address n) c.id.bytes } c = .ok s' ∧
      s'.Mirrors { m with
        active := m.active.insert c.address c.id
        challenges := m.challenges.insert c.id c } := by
  have hsize : (m.challenges.insert c.id c).size = m.challenges.size + 1 := by
    rw [Table.size_insert, hnew]
    rfl
  refine ⟨_, _, _, h.nextSequence, writeChallenge_of_isActive hact, ?_⟩
  exact {
    intact := h.intact.add_challenge hnew ha hact hfree
    addresses := h.addresses
    keysFit := h.keysFit
    slots := h.slots
    slot_of_key := h.slot_of_key
    valueIndex := h.valueIndex
    challenges := h.get?_insert_challenge c
    size := h.size_insert_challenge c
    textsFit := h.textsFit_insert htexts
    active := fun b => by
      simp only [ByteMap.get?_insert_id, Table.get?_insert, h.active]
      split <;> rfl
    address_of_key := h.address_of_key_insert c
    flow_of_history := fun hk =>
      ByteMap.forall_insert (P := fun _ v => ∃ f d, v = f.bytes ∧
        (m.challenges.insert c.id c).get? f = some d) (h.flow_of_history_insert c)
        ⟨c.id, c, rfl, by rw [Table.get?_insert, if_pos rfl]⟩ hk
    sequence := by
      simp only [hsize, ByteMap.get?_insert]
      rw [if_pos trivial, if_neg (Nat.succ_ne_zero _)]
    history := fun hroom => by
      simp only [hsize] at hroom
      refine chronicles_add (h.history (by omega)) hnew rfl ?_ rfl
      rw [UInt64.toNat_ofNat', Nat.mod_eq_of_lt hroom] }

end Mirrors

end Durable.Ledger

end Vouch
