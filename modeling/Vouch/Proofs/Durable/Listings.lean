import Vouch.Proofs.Durable.Mirror

/-!
# Listings of a ledger

A listing scans an index and reads every record that it names.  None is missing, none is named
twice, and the history of an address comes in the order of issue.
-/

namespace Vouch

section Lists

variable {α β ε : Type} {f : α → Except ε β}

-- Where no step fails there is a result, made of what the steps give.
theorem mapM_ok {l : List α} (h : ∀ x ∈ l, ∃ y, f x = .ok y) :
    ∃ l', l.mapM f = .ok l' ∧ (∀ y, y ∈ l' ↔ ∃ x ∈ l, f x = .ok y) ∧
      (l.Nodup → (∀ {x x' y}, x ∈ l → x' ∈ l → f x = .ok y → f x' = .ok y → x = x') →
        l'.Nodup) := by
  induction l with
  | nil => exact ⟨[], rfl, by simp, fun _ _ => List.nodup_nil⟩
  | cons x l ih =>
    obtain ⟨y, hy⟩ := h x List.mem_cons_self
    obtain ⟨l', hl', hmem, hnodup⟩ := ih fun x' hx' => h x' (List.mem_cons_of_mem _ hx')
    refine ⟨y :: l', ?_, ?_, ?_⟩
    · rw [List.mapM_cons, hy, hl']
      rfl
    · intro z
      rw [List.mem_cons, hmem]
      constructor
      · rintro (rfl | ⟨x', hx', hz⟩)
        · exact ⟨x, List.mem_cons_self, hy⟩
        · exact ⟨x', List.mem_cons_of_mem _ hx', hz⟩
      · rintro ⟨x', hx', hz⟩
        rcases List.mem_cons.mp hx' with rfl | hx'
        · rw [hy] at hz
          exact .inl (Except.ok.inj hz).symm
        · exact .inr ⟨x', hx', hz⟩
    · intro hl hinj
      obtain ⟨hx, hl⟩ := List.nodup_cons.mp hl
      refine List.nodup_cons.mpr ⟨?_, hnodup hl fun ha hb =>
        hinj (List.mem_cons_of_mem _ ha) (List.mem_cons_of_mem _ hb)⟩
      intro hy'
      obtain ⟨x', hx', hz⟩ := (hmem y).mp hy'
      rw [hinj List.mem_cons_self (List.mem_cons_of_mem _ hx') hy hz] at hx
      exact hx hx'

theorem mapM_map_ok {g : β → α} {l : List β} (h : ∀ y ∈ l, f (g y) = .ok y) :
    (l.map g).mapM f = .ok l := by
  induction l with
  | nil => rfl
  | cons y l ih =>
    rw [List.map_cons, List.mapM_cons, h y List.mem_cons_self,
      ih fun z hz => h z (List.mem_cons_of_mem _ hz)]
    rfl

-- Two functions that succeed with the same key on everything in a list.
theorem mapM_map_eq {γ : Type} {g : α → Except ε β} {key : β → γ} {l : List α}
    (h : ∀ x ∈ l, ∃ y y', f x = .ok y ∧ g x = .ok y' ∧ key y = key y') :
    ∃ ys ys', l.mapM f = .ok ys ∧ l.mapM g = .ok ys' ∧ ys.map key = ys'.map key := by
  induction l with
  | nil => exact ⟨[], [], rfl, rfl, rfl⟩
  | cons x l ih =>
    obtain ⟨y, y', hy, hy', hkey⟩ := h x List.mem_cons_self
    obtain ⟨ys, ys', hys, hys', hkeys⟩ := ih fun z hz => h z (List.mem_cons_of_mem _ hz)
    refine ⟨y :: ys, y' :: ys', ?_, ?_, ?_⟩
    · rw [List.mapM_cons, hy, hys]
      rfl
    · rw [List.mapM_cons, hy', hys']
      rfl
    · rw [List.map_cons, List.map_cons, hkey, hkeys]

-- Two lists with the same elements, of which there is at most one.
theorem eq_of_mem_iff {l l' : List α} (hl : l.Nodup) (hl' : l'.Nodup)
    (hmem : ∀ a, a ∈ l ↔ a ∈ l') (hone : ∀ a ∈ l, ∀ b ∈ l, a = b) : l = l' := by
  have hperm := (List.perm_ext_iff_of_nodup hl hl').mpr hmem
  cases l with
  | nil => exact (List.nil_perm.mp hperm).symm
  | cons a rest =>
    cases rest with
    | nil => exact List.singleton_perm.mp hperm
    | cons b rest =>
      rw [hone a List.mem_cons_self b (by simp)] at hl
      simp at hl

end Lists

namespace Durable

-- Distinct keys with distinct values make a listing without repetition.
theorem nodup_valuesUnder {m : ByteMap} {start : Bytes}
    (h : ∀ {k k' v}, m.get? k = some v → m.get? k' = some v → k = k') :
    (valuesUnder m start).Nodup := by
  rw [valuesUnder_eq, List.Nodup, List.pairwise_map]
  refine (m.ascending.sublist List.filter_sublist).imp_of_mem ?_
  intro a b ha hb hlt hv
  have hka := (m.mem_entries_iff a.1 a.2).mp (List.mem_filter.mp ha).1
  have hkb := (m.mem_entries_iff b.1 b.2).mp (List.mem_filter.mp hb).1
  rw [hv] at hka
  rw [h hka hkb, Bytes.lt_irrefl] at hlt
  cases hlt

namespace Ledger.Mirrors

variable {s : Ledger} {m : MemoryStore}

/-- What a listing does with one entry of an index. -/
def listed (s : Ledger) (bs : Bytes) : Except StoreError Address := do
  let id ← decodeId .address bs
  match ← s.readAddress id with
  | some address => return address
  | none => .error (.corruption (.indexWithoutAddress id))

theorem listed_bytes (h : s.Mirrors m) {id : AddressId} {a : Address}
    (ha : m.addresses.get? id = some a) : listed s id.bytes = .ok a := by
  rw [listed, decodeId_bytes]
  show s.readAddress id >>= _ = _
  rw [h.readAddress, ha]
  rfl

-- The index of values names the addresses that have a value.
theorem mem_valuesUnder_value (h : s.Mirrors m) {channel : Channel} {value : Contact} {bs : Bytes} :
    bs ∈ valuesUnder s.valueIndex (valuePrefix channel value) ↔
      ∃ id a, m.addresses.get? id = some a ∧ bs = id.bytes ∧ a.channel = channel ∧
        a.value = value := by
  rw [mem_valuesUnder]
  constructor
  · rintro ⟨k, hk, hstart⟩
    obtain ⟨id, a, ha, rfl, hbs⟩ := h.valueIndex.mp hk
    have hfit := (h.keysFit ha).value
    rw [h.intact.id_of_address ha] at hfit
    exact ⟨id, a, ha, hbs, (valueKey_startsWith_iff hfit channel value).mp hstart⟩
  · rintro ⟨id, a, ha, hbs, rfl, rfl⟩
    exact ⟨_, h.valueIndex.mpr ⟨id, a, ha, rfl, hbs⟩, Bytes.startsWith_iff.mpr ⟨_, rfl⟩⟩

-- Two entries with one identifier are of one address, so their keys agree.
theorem nodup_valuesUnder_value (h : s.Mirrors m) (channel : Channel) (value : Contact) :
    (valuesUnder s.valueIndex (valuePrefix channel value)).Nodup := by
  apply nodup_valuesUnder
  intro k k' v hk hk'
  obtain ⟨id, a, ha, rfl, hv⟩ := h.valueIndex.mp hk
  obtain ⟨id', a', ha', rfl, hv'⟩ := h.valueIndex.mp hk'
  have hid : id = id' := Id.eq_of_bytes_eq (hv.symm.trans hv')
  subst hid
  rw [ha] at ha'
  rw [Option.some.inj ha']

omit m in
theorem addressesAt_of_ne_nil {start : Bytes} (h : start.isEmpty = false) (index : ByteMap) :
    s.addressesAt index start = (valuesUnder index start).mapM (listed s) := by
  rw [addressesAt, scan_of_ne_nil h]
  rfl

-- What a listing gives whose scan names the addresses with a property.
theorem addressesAt_ok (h : s.Mirrors m) {index : ByteMap} {start : Bytes} {P : Address → Prop}
    (hstart : start.isEmpty = false)
    (hscan : ∀ {bs}, bs ∈ valuesUnder index start ↔
      ∃ id a, m.addresses.get? id = some a ∧ bs = id.bytes ∧ P a)
    (hnodup : (valuesUnder index start).Nodup) :
    ∃ l, s.addressesAt index start = .ok l ∧ l.Nodup ∧
      ∀ a, a ∈ l ↔ m.addresses.get? a.id = some a ∧ P a := by
  obtain ⟨l, hl, hmem, hdistinct⟩ := mapM_ok (f := listed s) (l := valuesUnder index start) (by
    intro bs hbs
    obtain ⟨id, a, ha, rfl, -⟩ := hscan.mp hbs
    exact ⟨a, h.listed_bytes ha⟩)
  refine ⟨l, (addressesAt_of_ne_nil hstart index).trans hl, hdistinct hnodup ?_, ?_⟩
  · -- an address names the entry that it was read for
    intro bs bs' a hbs hbs' hlisted hlisted'
    obtain ⟨id, b, hb, rfl, -⟩ := hscan.mp hbs
    obtain ⟨id', b', hb', rfl, -⟩ := hscan.mp hbs'
    rw [h.listed_bytes hb] at hlisted
    rw [h.listed_bytes hb'] at hlisted'
    have hba := Except.ok.inj hlisted
    have hba' := Except.ok.inj hlisted'
    rw [← h.intact.id_of_address hb, ← h.intact.id_of_address hb', hba, hba']
  · intro a
    rw [hmem]
    constructor
    · rintro ⟨bs, hbs, hlisted⟩
      obtain ⟨id, b, hb, rfl, hP⟩ := hscan.mp hbs
      rw [h.listed_bytes hb] at hlisted
      rw [← Except.ok.inj hlisted, h.intact.id_of_address hb]
      exact ⟨hb, hP⟩
    · rintro ⟨ha, hP⟩
      exact ⟨_, hscan.mpr ⟨_, _, ha, rfl, hP⟩, h.listed_bytes ha⟩

/-- The addresses bound to a value are found by the index of values. -/
theorem addressesWith (h : s.Mirrors m) (channel : Channel) (value : Contact) :
    ∃ l, s.addressesAt s.valueIndex (valuePrefix channel value) = .ok l ∧ l.Nodup ∧
      ∀ a, a ∈ l ↔ m.addresses.get? a.id = some a ∧ a.channel = channel ∧ a.value = value :=
  h.addressesAt_ok (valuePrefix_ne_nil channel value) h.mem_valuesUnder_value
    (h.nodup_valuesUnder_value channel value)

-- The slots of an identity name its addresses.
theorem mem_valuesUnder_identity (h : s.Mirrors m) {identity : IdentityId} {bs : Bytes} :
    bs ∈ valuesUnder s.slots (identityPrefix identity) ↔
      ∃ id a, m.addresses.get? id = some a ∧ bs = id.bytes ∧ a.identity = identity := by
  rw [mem_valuesUnder]
  constructor
  · rintro ⟨k, hk, hstart⟩
    obtain ⟨slot, rfl⟩ := h.slot_of_key hk
    rw [h.slots, Option.map_eq_some_iff] at hk
    obtain ⟨id, hid, rfl⟩ := hk
    obtain ⟨a, ha, rfl⟩ := h.intact.slot_iff.mp hid
    exact ⟨id, a, ha, rfl, (slotKey_startsWith_iff (h.keysFit ha).slot identity).mp hstart⟩
  · rintro ⟨id, a, ha, rfl, rfl⟩
    refine ⟨slotKey a.slot, ?_, (slotKey_startsWith_iff (h.keysFit ha).slot _).mpr rfl⟩
    rw [h.slots, h.intact.slot_iff.mpr ⟨a, ha, rfl⟩]
    rfl

-- An address is in one slot only.
theorem nodup_valuesUnder_identity (h : s.Mirrors m) (identity : IdentityId) :
    (valuesUnder s.slots (identityPrefix identity)).Nodup := by
  apply nodup_valuesUnder
  intro k k' v hk hk'
  obtain ⟨slot, rfl⟩ := h.slot_of_key hk
  obtain ⟨slot', rfl⟩ := h.slot_of_key hk'
  rw [h.slots, Option.map_eq_some_iff] at hk hk'
  obtain ⟨id, hid, rfl⟩ := hk
  obtain ⟨id', hid', hbytes⟩ := hk'
  obtain ⟨a, ha, rfl⟩ := h.intact.slot_iff.mp hid
  obtain ⟨a', ha', rfl⟩ := h.intact.slot_iff.mp hid'
  rw [Id.eq_of_bytes_eq hbytes, ha] at ha'
  rw [Option.some.inj ha']

/-- The addresses of an identity are found by its slots.  As there is one channel, there is at most
one of them. -/
theorem addressesOf (h : s.Mirrors m) (identity : IdentityId) :
    s.addressesAt s.slots (identityPrefix identity) =
      .ok (m.addresses.values.filter fun a => a.identity = identity) := by
  obtain ⟨l, hl, hnodup, hmem⟩ := h.addressesAt_ok (identityPrefix_ne_nil identity)
    h.mem_valuesUnder_identity (h.nodup_valuesUnder_identity identity)
  rw [hl]
  congr 1
  apply eq_of_mem_iff hnodup (h.intact.nodup_addresses.filter _)
  · intro a
    rw [hmem, List.mem_filter, h.intact.mem_addresses, decide_eq_true_eq]
  · intro a ha b hb
    obtain ⟨ha, haidentity⟩ := (hmem a).mp ha
    obtain ⟨hb, hbidentity⟩ := (hmem b).mp hb
    have hslot : a.slot = b.slot := by
      rw [Address.slot, Address.slot, haidentity, hbidentity]
    have hida := h.intact.slot_iff.mpr ⟨a, ha, hslot⟩
    rw [h.intact.slot_iff.mpr ⟨b, hb, rfl⟩] at hida
    rw [← Option.some.inj hida, hb] at ha
    exact (Option.some.inj ha).symm

-- The history of an address, as long as the numbers have not run over.
theorem historyOf (h : s.Mirrors m) (hroom : s.challenges.size < UInt64.size) (a : AddressId) :
    s.historyOf a = .ok (m.history a) := by
  rw [h.size] at hroom
  rw [Ledger.historyOf, (h.history hroom).listed a]
  show List.mapM _ _ = _
  apply mapM_map_ok
  intro c hc
  obtain ⟨hget, -⟩ := h.intact.mem_history.mp hc
  rw [decodeId_bytes]
  show s.readChallenge c.id >>= _ = _
  rw [h.readChallenge, hget]
  rfl

-- A history can be read however many challenges were issued.
theorem historyOf_ok (h : s.Mirrors m) (a : AddressId) : ∃ l, s.historyOf a = .ok l := by
  rw [Ledger.historyOf, scan_id]
  refine (mapM_ok fun bs hbs => ?_).imp fun _ hl => hl.1
  obtain ⟨k, hk, -⟩ := mem_valuesUnder.mp hbs
  obtain ⟨f, c, rfl, hc⟩ := h.flow_of_history hk
  refine ⟨c, ?_⟩
  rw [decodeId_bytes]
  show s.readChallenge f >>= _ = _
  rw [h.readChallenge, hc]
  rfl

-- The entries of the index are those of the active challenges.
theorem mem_active_entries (h : s.Mirrors m) {entry : Bytes × Bytes} :
    entry ∈ s.active.entries ↔ ∃ c, m.challenges.get? c.id = some c ∧ c.isActive = true ∧
      entry = (c.address.bytes, c.id.bytes) := by
  obtain ⟨k, v⟩ := entry
  rw [ByteMap.mem_entries_iff]
  constructor
  · intro hk
    obtain ⟨a, rfl⟩ := h.address_of_key hk
    rw [h.active, Option.map_eq_some_iff] at hk
    obtain ⟨f, hf, rfl⟩ := hk
    obtain ⟨c, hc, rfl, hact⟩ := h.intact.active_iff.mp hf
    have hid := h.intact.id_of_challenge hc
    exact ⟨c, by rw [hid]; exact hc, hact, by rw [hid]⟩
  · rintro ⟨c, hc, hact, he⟩
    cases he
    rw [h.active, h.intact.active_iff.mpr ⟨c, hc, rfl, hact⟩]
    rfl

theorem readChallenge_bytes (h : s.Mirrors m) {c : Challenge}
    (hc : m.challenges.get? c.id = some c) :
    (do s.readChallenge (← decodeId .flow c.id.bytes)) = .ok (some c) := by
  rw [decodeId_bytes]
  show s.readChallenge c.id = _
  rw [h.readChallenge, hc]

/-- Every pointer leads to an active challenge, and every active challenge has one. -/
theorem activeChallenges (h : s.Mirrors m) :
    ∃ l, s.activeChallenges = .ok l ∧ l.Nodup ∧
      ∀ c, c ∈ l ↔ m.challenges.get? c.id = some c ∧ c.isActive = true := by
  obtain ⟨found, hfound, hmem, hnodup⟩ := mapM_ok (l := s.active.entries)
    (f := fun entry => do s.readChallenge (← decodeId .flow entry.2)) (by
      intro entry he
      obtain ⟨c, hc, -, rfl⟩ := h.mem_active_entries.mp he
      exact ⟨some c, h.readChallenge_bytes hc⟩)
  have hfoundNodup : found.Nodup := by
    apply hnodup
    · refine s.active.ascending.imp ?_
      rintro a b hlt rfl
      rw [Bytes.lt_irrefl] at hlt
      cases hlt
    · -- a challenge names the entry that it was read for
      intro entry entry' o he he' hr hr'
      obtain ⟨c, hc, -, rfl⟩ := h.mem_active_entries.mp he
      obtain ⟨c', hc', -, rfl⟩ := h.mem_active_entries.mp he'
      have hcc := (h.readChallenge_bytes hc).symm.trans hr
      have hcc' := (h.readChallenge_bytes hc').symm.trans hr'
      rw [Option.some.inj (Except.ok.inj (hcc.trans hcc'.symm))]
  refine ⟨_, by rw [Ledger.activeChallenges, hfound]; rfl, ?_, ?_⟩
  · refine (List.mergeSort_perm _ _).nodup_iff.mpr ?_
    rw [List.Nodup, List.pairwise_filterMap]
    refine hfoundNodup.imp ?_
    intro o o' hne c hc c' hc' he
    rw [he, ← hc'] at hc
    exact hne hc
  · intro c
    rw [List.mem_mergeSort, List.mem_filterMap]
    constructor
    · rintro ⟨o, ho, hoc⟩
      obtain ⟨entry, he, hr⟩ := (hmem o).mp ho
      obtain ⟨c', hc', hact, rfl⟩ := h.mem_active_entries.mp he
      have hcc := (h.readChallenge_bytes hc').symm.trans hr
      rw [← Except.ok.inj hcc] at hoc
      rw [← Option.some.inj hoc]
      exact ⟨hc', hact⟩
    · rintro ⟨hc, hact⟩
      exact ⟨some c, (hmem _).mpr ⟨_, h.mem_active_entries.mpr ⟨c, hc, hact, rfl⟩,
        h.readChallenge_bytes hc⟩, rfl⟩

end Ledger.Mirrors

end Durable

end Vouch
