import Vouch.Proofs.Durable.Calls

/-!
# Steady backends

Whether a backend refuses a record depends on the record alone, and the order in which it lists the
owners of a value depends on what its records are bound to, not on the trust in them.  To complete a
challenge that is completed writes nothing.  Stores in memory and ledgers are steady.
-/

namespace Vouch

/-- Two stores know the same addresses, bound alike; the trust in them may differ. -/
def MemoryStore.SameBindings (m m' : MemoryStore) : Prop :=
  ∀ id, Option.Rel Address.SameBinding (m.addresses.get? id) (m'.addresses.get? id)

namespace Address.SameBinding

theorem symm {a b : Address} (h : a.SameBinding b) : b.SameBinding a := by
  unfold SameBinding at h ⊢
  rw [← h]

theorem trans {a b c : Address} (h : a.SameBinding b) (h' : b.SameBinding c) :
    a.SameBinding c := by
  unfold SameBinding at h h' ⊢
  rw [← h, ← h']

end Address.SameBinding

theorem MemoryStore.SameBindings.symm {m m' : MemoryStore} (h : m.SameBindings m') :
    m'.SameBindings m := by
  intro id
  have hid := h id
  generalize m.addresses.get? id = o at hid
  generalize m'.addresses.get? id = o' at hid
  cases hid with
  | some hab => exact .some hab.symm
  | none => exact .none

theorem MemoryStore.SameBindings.get? {m m' : MemoryStore} (h : m.SameBindings m')
    {id : AddressId} {a : Address} (ha : m.addresses.get? id = some a) :
    ∃ a', m'.addresses.get? id = some a' ∧ a.SameBinding a' := by
  have hid := h id
  rw [ha] at hid
  generalize ho : m'.addresses.get? id = o at hid
  cases hid with
  | some hab => exact ⟨_, rfl, hab⟩

/-- A backend that goes by records and their bindings. -/
class SteadyBackend (σ : Type) [VerificationStore σ] [Backend σ] : Prop where
  complete_same {s : σ} {m : MemoryStore} (h : Backend.Shows s m) {f : FlowId} {c : Challenge}
    {acc : Account} (now : Timestamp) :
    m.challenges.get? f = some c → m.account? c.address = some acc →
      (Attempt.complete ⟨c, acc.record⟩ now).2 = ⟨c, acc.record⟩ →
      VerificationStore.complete f now s = .ok ((Attempt.complete ⟨c, acc.record⟩ now).1, s)
  upsert_refused {s s' : σ} {m m' : MemoryStore} (h : Backend.Shows s m)
    (h' : Backend.Shows s' m') {a : Address} :
    (m.slots.get? a.slot = none → m.addresses.get? a.id = none) →
      VerificationStore.upsert a s = .error .badKeySize →
      VerificationStore.upsert a s' = .error .badKeySize
  addressesWith_order {s s' : σ} {m m' : MemoryStore} (h : Backend.Shows s m)
    (h' : Backend.Shows s' m') (channel : Channel) (value : Contact) :
    m.SameBindings m' → ∃ l l', VerificationStore.addressesWith channel value s = .ok l ∧
      VerificationStore.addressesWith channel value s' = .ok l' ∧
      (l.map fun a => a.identity) = l'.map fun a => a.identity

/-! ## Stores in memory -/

namespace MemoryStore

variable {m m' : MemoryStore}

-- A challenge and its address can be written again as they are.
theorem put_same (h : m.Intact) {c : Challenge} {a : Address}
    (hc : m.challenges.get? c.id = some c) (ha : m.addresses.get? c.address = some a) :
    m.put ⟨c, a⟩ = m := by
  have hid := h.id_of_address ha
  have hactive := active_put h hc hid (.refl ⟨c, a⟩)
  rw [Bool.and_not_self, if_neg Bool.false_ne_true] at hactive
  have hput : m.put ⟨c, a⟩ = { m with
      active := (m.put ⟨c, a⟩).active
      addresses := m.addresses.insert a.id a
      challenges := m.challenges.insert c.id c } := rfl
  rw [hput, hactive, Table.insert_of_get?_eq_some (by rw [hid]; exact ha),
    Table.insert_of_get?_eq_some hc]

-- Whatever is wrong with a record, a memory does not lack room for it.
theorem upsert_ne_badKeySize (a : Address) : m.upsert a ≠ .error .badKeySize := by
  simp only [upsert]
  intro he
  split at he
  · cases he
  · split at he
    · cases he
    · split at he
      · cases he
      · cases he

/-- The identities that have an address with a value. -/
def owners (channel : Channel) (value : Contact) (m : MemoryStore) : List IdentityId :=
  (m.addresses.values.filter fun a => a.channel = channel ∧ a.value = value).map fun a => a.identity

theorem mem_owners (h : m.Intact) {channel : Channel} {value : Contact} {identity : IdentityId} :
    identity ∈ m.owners channel value ↔
      ∃ a, m.addresses.get? a.id = some a ∧ a.channel = channel ∧ a.value = value ∧
        a.identity = identity := by
  simp only [owners, List.mem_map, List.mem_filter, h.mem_addresses, decide_eq_true_eq]
  constructor
  · rintro ⟨a, ⟨ha, hchannel, hvalue⟩, hidentity⟩
    exact ⟨a, ha, hchannel, hvalue, hidentity⟩
  · rintro ⟨a, ha, hchannel, hvalue, hidentity⟩
    exact ⟨a, ⟨ha, hchannel, hvalue⟩, hidentity⟩

-- An identity has one address on a channel.
theorem nodup_owners (h : m.Intact) (channel : Channel) (value : Contact) :
    (m.owners channel value).Nodup := by
  rw [owners, List.Nodup, List.pairwise_map]
  refine (h.nodup_addresses.filter _).imp_of_mem fun {a b} ha hb hne hidentity => hne ?_
  simp only [List.mem_filter, h.mem_addresses, decide_eq_true_eq] at ha hb
  -- there is one channel, so the identity makes the slot
  have hslot : b.slot = a.slot := by
    rw [Address.slot, Address.slot, hidentity]
  have hid := h.slot_iff.mpr ⟨b, hb.1, hslot⟩
  rw [h.slot_iff.mpr ⟨a, ha.1, rfl⟩] at hid
  have hsame := ha.1
  rw [Option.some.inj hid, hb.1] at hsame
  exact (Option.some.inj hsame).symm

theorem mem_owners_of_sameBindings (h : m.Intact) (h' : m'.Intact) (hsame : m.SameBindings m')
    {channel : Channel} {value : Contact} {identity : IdentityId}
    (hmem : identity ∈ m.owners channel value) : identity ∈ m'.owners channel value := by
  obtain ⟨a, ha, rfl, rfl, rfl⟩ := (mem_owners h).mp hmem
  obtain ⟨b, hb, hab⟩ := hsame.get? ha
  refine (mem_owners h').mpr ⟨b, ?_, hab.channel, hab.value, hab.identity⟩
  rw [hab.id]
  exact hb

-- The owners of a value come in the order of their names, and names are not repeated.
theorem addressesWith_order (h : m.Intact) (h' : m'.Intact) (hsame : m.SameBindings m')
    (channel : Channel) (value : Contact) :
    ∃ l l', VerificationStore.addressesWith channel value m = .ok l ∧
      VerificationStore.addressesWith channel value m' = .ok l' ∧
      (l.map fun a => a.identity) = l'.map fun a => a.identity := by
  let byName (a b : Address) : Bool := a.identity.name ≤ b.identity.name
  have hsorted : ∀ m : MemoryStore, ((m.addresses.values.filter fun a =>
      a.channel = channel ∧ a.value = value).mergeSort byName).Pairwise fun a b =>
        byName a b = true := by
    intro m
    refine List.pairwise_mergeSort (fun a b c hab hbc => ?_) (fun a b => ?_) _
    · simp only [byName, decide_eq_true_eq] at hab hbc ⊢
      exact String.le_trans hab hbc
    · simp only [byName, Bool.or_eq_true, decide_eq_true_eq]
      exact String.le_total _ _
  have hordered : ∀ m : MemoryStore, (((m.addresses.values.filter fun a =>
      a.channel = channel ∧ a.value = value).mergeSort byName).map fun a =>
        a.identity).Pairwise fun a b => a.name ≤ b.name := by
    intro m
    rw [List.pairwise_map]
    exact (hsorted m).imp fun hab => by simpa only [byName, decide_eq_true_eq] using hab
  have hperm : ∀ m : MemoryStore, (((m.addresses.values.filter fun a =>
      a.channel = channel ∧ a.value = value).mergeSort byName).map fun a =>
        a.identity).Perm (m.owners channel value) := fun m =>
    (List.mergeSort_perm _ _).map _
  have howners : (m.owners channel value).Perm (m'.owners channel value) :=
    (List.perm_ext_iff_of_nodup (nodup_owners h _ _) (nodup_owners h' _ _)).mpr fun identity =>
      ⟨mem_owners_of_sameBindings h h' hsame, mem_owners_of_sameBindings h' h hsame.symm⟩
  refine ⟨_, _, rfl, rfl, List.Perm.eq_of_pairwise ?_ (hordered m) (hordered m') ?_⟩
  · intro a b _ _ hab hba
    cases a
    cases b
    exact congrArg IdentityId.mk (String.le_antisymm hab hba)
  · exact (hperm m).trans (howners.trans (hperm m').symm)

instance : SteadyBackend MemoryStore where
  complete_same {s m} h {f c acc} now hc hacc hsame := by
    obtain ⟨rfl, hi⟩ := h
    have hget := get?_of_account? hacc
    have hattempt : s.attempt f = .ok ⟨c, acc.record⟩ := by simp only [attempt, hc, hget]
    have hc' : s.challenges.get? c.id = some c := by
      rw [hi.id_of_challenge hc]
      exact hc
    show s.update f (fun p => p.complete now) = _
    simp only [update, hattempt, hsame, put_same hi hc' hget]
  upsert_refused _ _ _ _ hrefused := absurd hrefused (upsert_ne_badKeySize _)
  addressesWith_order h h' channel value hsame := by
    obtain ⟨rfl, hi⟩ := h
    obtain ⟨rfl, hi'⟩ := h'
    exact addressesWith_order hi hi' hsame channel value

end MemoryStore

/-! ## Ledgers -/

namespace Durable

namespace Ledger.Mirrors

variable {s s' : Ledger} {m m' : MemoryStore}

-- A challenge can be written again as it is.
theorem writeChallenge_same (h : s.Mirrors m) {c : Challenge}
    (hc : m.challenges.get? c.id = some c) : s.writeChallenge c = .ok s := by
  have hrecord : s.challenges.insert c.id.bytes (Challenge.codec.encode c) = s.challenges := by
    apply ByteMap.insert_of_get?_eq_some
    rw [h.challenges, hc]
    rfl
  cases hact : c.isActive with
  | true =>
    have hpointer : s.active.insert c.address.bytes c.id.bytes = s.active := by
      apply ByteMap.insert_of_get?_eq_some
      rw [h.active, (h.intact.pointer_iff hc rfl _).mpr ⟨rfl, hact⟩]
      rfl
    rw [writeChallenge_of_isActive hact, hrecord, hpointer]
  | false =>
    rw [h.writeChallenge_of_ended hc rfl hact, hrecord, hact, if_neg Bool.false_ne_true]

theorem complete_same (h : s.Mirrors m) {f : FlowId} {c : Challenge} {acc : Account}
    (now : Timestamp) (hc : m.challenges.get? f = some c)
    (hacc : m.account? c.address = some acc)
    (hsame : (Attempt.complete ⟨c, acc.record⟩ now).2 = ⟨c, acc.record⟩) :
    VerificationStore.complete f now s = .ok ((Attempt.complete ⟨c, acc.record⟩ now).1, s) := by
  have hc' : m.challenges.get? c.id = some c := by
    rw [h.intact.id_of_challenge hc]
    exact hc
  show s.update f (fun p => p.complete now) = _
  simp only [Ledger.update, h.readChallenge, hc, h.addressOf (MemoryStore.get?_of_account? hacc),
    hsame, h.writeChallenge_same hc', bind, Except.bind, if_true]
  rfl

-- Only the length of the keys makes a ledger refuse a record.
theorem not_keysFit_of_refused (h : s.Mirrors m) {a : Address}
    (hnew : m.slots.get? a.slot = none → m.addresses.get? a.id = none)
    (hrefused : s.upsert a = .error .badKeySize) : ¬ a.KeysFit := by
  intro hfit
  have hagree := h.upsert_of_keysFit hfit hnew
  rw [hrefused] at hagree
  generalize hm : m.upsert a = result at hagree
  cases hagree
  exact MemoryStore.upsert_ne_badKeySize a hm

theorem upsert_refused (h : s.Mirrors m) (h' : s'.Mirrors m') {a : Address}
    (hnew : m.slots.get? a.slot = none → m.addresses.get? a.id = none)
    (hrefused : s.upsert a = .error .badKeySize) : s'.upsert a = .error .badKeySize :=
  h'.upsert_of_not_keysFit (h.not_keysFit_of_refused hnew hrefused)

theorem get?_valueIndex_of_sameBindings (h : s.Mirrors m) (h' : s'.Mirrors m')
    (hsame : m.SameBindings m') {k v : Bytes} (hk : s.valueIndex.get? k = some v) :
    s'.valueIndex.get? k = some v := by
  obtain ⟨id, a, ha, rfl, rfl⟩ := h.valueIndex.mp hk
  obtain ⟨b, hb, hab⟩ := hsame.get? ha
  refine h'.valueIndex.mpr ⟨id, b, hb, ?_, rfl⟩
  rw [hab.channel, hab.value]

-- The index of values depends on the bindings only.
theorem valueIndex_eq_of_sameBindings (h : s.Mirrors m) (h' : s'.Mirrors m')
    (hsame : m.SameBindings m') : s.valueIndex = s'.valueIndex := by
  apply ByteMap.ext_get?
  intro k v
  exact ⟨h.get?_valueIndex_of_sameBindings h' hsame,
    h'.get?_valueIndex_of_sameBindings h hsame.symm⟩

theorem addressesWith_order (h : s.Mirrors m) (h' : s'.Mirrors m') (channel : Channel)
    (value : Contact) (hsame : m.SameBindings m') :
    ∃ l l', s.addressesAt s.valueIndex (valuePrefix channel value) = .ok l ∧
      s'.addressesAt s'.valueIndex (valuePrefix channel value) = .ok l' ∧
      (l.map fun a => a.identity) = l'.map fun a => a.identity := by
  have hstart := valuePrefix_ne_nil channel value
  rw [← h.valueIndex_eq_of_sameBindings h' hsame, addressesAt_of_ne_nil hstart,
    addressesAt_of_ne_nil hstart]
  refine mapM_map_eq (f := listed s) (g := listed s') fun bs hbs => ?_
  obtain ⟨id, a, ha, rfl, -⟩ := h.mem_valuesUnder_value.mp hbs
  obtain ⟨b, hb, hab⟩ := hsame.get? ha
  exact ⟨a, b, h.listed_bytes ha, h'.listed_bytes hb, hab.identity.symm⟩

end Ledger.Mirrors

instance : SteadyBackend Ledger where
  complete_same h _ _ _ now := h.complete_same now
  upsert_refused h h' := h.upsert_refused h'
  addressesWith_order h h' channel value hsame := h.addressesWith_order h' channel value hsame

end Durable

end Vouch
