import Vouch.Proofs.Durable.Listings
import Vouch.Proofs.Durable.Writes
import Vouch.Proofs.Store.Backend

/-!
# The calls of a ledger

Every call of a ledger ends as it does for the store in memory that the ledger mirrors, and the
ledger then mirrors what that store has become.  Only a record whose keys are too long is refused,
and that leaves the ledger as it was.
-/

namespace Vouch

-- Whether keys fit depends on the slot and the value only.
theorem Address.KeysFit.congr {a b : Address} (h : a.KeysFit) (hslot : b.slot = a.slot)
    (hvalue : b.value = a.value) : b.KeysFit where
  slot := by
    rw [hslot]
    exact h.slot
  value := by
    have hfit := h.value
    rw [Durable.length_valueKey] at hfit ⊢
    rw [hvalue]
    exact hfit

theorem Address.KeysFit.sameBinding {a b : Address} (h : a.KeysFit) (hb : a.SameBinding b) :
    b.KeysFit :=
  h.congr hb.slot hb.value

theorem Challenge.TextsFit.sameIssue {c d : Challenge} (h : c.TextsFit) (hd : c.SameIssue d) :
    d.TextsFit where
  identity := by
    rw [hd.identity]
    exact h.identity
  value := by
    rw [hd.value]
    exact h.value
  token := by
    rw [hd.token]
    exact h.token
  code := by
    rw [hd.code]
    exact h.code

namespace Durable.Ledger.Mirrors

variable {s : Ledger} {m : MemoryStore}

/-! ## Ending the active challenge -/

theorem expireActive (h : s.Mirrors m) (id : AddressId) (reason : ExpiredReason) :
    ∃ s', s.expireActive id reason = .ok ((m.expireActive id reason).1, s') ∧
      s'.Mirrors (m.expireActive id reason).2 := by
  simp only [Ledger.expireActive, h.readActive, bind, Except.bind]
  cases hp : m.active.get? id with
  | none =>
    rw [MemoryStore.expireActive_of_no_pointer hp]
    exact ⟨s, rfl, h⟩
  | some f =>
    obtain ⟨c, hc, rfl, hact⟩ := h.intact.active_iff.mp hp
    have hid := h.intact.id_of_challenge hc
    have hissue := c.sameIssue_expire reason
    have hold : m.challenges.get? (c.expire reason).id = some c := by
      rw [hissue.id, hid]
      exact hc
    obtain ⟨s', hwrite, hm⟩ := h.write_challenge hold hissue.address
      (fun _ => c.isActive_expire reason) ((h.textsFit hc).sameIssue hissue)
    rw [MemoryStore.expireActive_of_active h.intact (by rw [hid]; exact hc) hact]
    refine ⟨s', ?_, ?_⟩
    · simp only [Option.bind_some, hc, hwrite]
      rfl
    · simp only [hact, c.isActive_expire reason, hissue.id, hissue.address, Bool.not_false,
        Bool.and_true, if_true] at hm
      exact hm

/-! ## Putting a record into its slot -/

theorem upsert_of_keysFit (h : s.Mirrors m) {candidate : Address} (hfit : candidate.KeysFit)
    (hnew : m.slots.get? candidate.slot = none → m.addresses.get? candidate.id = none) :
    Agree Mirrors (s.upsert candidate) (m.upsert candidate) := by
  simp only [Ledger.upsert, MemoryStore.upsert, read_of_ne_nil (slotKey_ne_nil _), h.slots,
    bind, Except.bind]
  cases hslot : m.slots.get? candidate.slot with
  | none =>
    obtain ⟨s', hwrite, hm⟩ := h.open_slot hfit hslot (hnew hslot)
    simp only [Option.map_none, hwrite]
    exact .ok _ hm
  | some id =>
    obtain ⟨a, ha, has⟩ := h.intact.slot_iff.mp hslot
    have hid := h.intact.id_of_address ha
    simp only [Option.map_some, decodeId_bytes, h.readAddress, ha]
    by_cases hvalue : a.value = candidate.value
    · simp only [if_pos hvalue]
      exact .ok _ h
    · simp only [if_neg hvalue]
      obtain ⟨s', hexpire, hm⟩ := h.expireActive id .addressChanged
      simp only [hexpire]
      have hold : (m.expireActive id .addressChanged).2.addresses.get?
          (a.rebind candidate.value candidate.updatedAt).id = some a := by
        rw [MemoryStore.addresses_expireActive, Address.id_rebind, hid]
        exact ha
      have hfit' : (a.rebind candidate.value candidate.updatedAt).KeysFit := hfit.congr has rfl
      obtain ⟨s'', hwrite, hm'⟩ := hm.write_record hfit' hold rfl
      rw [hwrite]
      rw [Address.id_rebind, hid] at hm'
      exact .ok _ hm'

-- A record whose keys do not fit is refused, whatever is in its slot.
theorem upsert_of_not_keysFit (h : s.Mirrors m) {candidate : Address}
    (hfit : ¬ candidate.KeysFit) : s.upsert candidate = .error .badKeySize := by
  simp only [Ledger.upsert, read_of_ne_nil (slotKey_ne_nil _), h.slots, bind, Except.bind]
  cases hslot : m.slots.get? candidate.slot with
  | none =>
    simp only [Option.map_none, writeAddress_of_not_keysFit hfit]
  | some id =>
    obtain ⟨a, ha, has⟩ := h.intact.slot_iff.mp hslot
    simp only [Option.map_some, decodeId_bytes, h.readAddress, ha]
    -- the record that is there fits, so it has another value
    have hvalue : a.value ≠ candidate.value := fun he =>
      hfit ((h.keysFit ha).congr has.symm he.symm)
    simp only [if_neg hvalue]
    obtain ⟨s', hexpire, -⟩ := h.expireActive id .addressChanged
    have hfit' : ¬ (a.rebind candidate.value candidate.updatedAt).KeysFit := fun hr =>
      hfit (hr.congr has.symm rfl)
    simp only [hexpire, writeAddress_of_not_keysFit hfit']

theorem upsert (h : s.Mirrors m) {candidate : Address}
    (hnew : m.slots.get? candidate.slot = none → m.addresses.get? candidate.id = none) :
    Agree Mirrors (s.upsert candidate) (m.upsert candidate) ∨
      s.upsert candidate = .error .badKeySize := by
  by_cases hfit : candidate.KeysFit
  · exact .inl (h.upsert_of_keysFit hfit hnew)
  · exact .inr (h.upsert_of_not_keysFit hfit)

/-! ## Adding a challenge -/

theorem create (h : s.Mirrors m) {c : Challenge} (htexts : c.TextsFit)
    (hact : c.isActive = true) : Agree Mirrors (s.create c) (m.create c) := by
  simp only [Ledger.create, MemoryStore.create, h.readChallenge, bind, Except.bind]
  cases hnew : m.challenges.get? c.id with
  | some _ => exact .error _
  | none =>
    simp only
    cases ha : m.addresses.get? c.address with
    | none =>
      simp only [Ledger.addressOf, h.readAddress, ha, bind, Except.bind]
      exact .error _
    | some a =>
      have hid := h.intact.id_of_address ha
      obtain ⟨s₁, hexpire, h₁⟩ := h.expireActive c.address .superseded
      have hold : (m.expireActive c.address .superseded).2.addresses.get? c.address = some a := by
        rw [MemoryStore.addresses_expireActive]
        exact ha
      obtain ⟨n, s₂, s₃, hnext, hwrite, h₃⟩ := h₁.add_challenge
        (MemoryStore.unknown_expireActive h.intact _ hnew) hold hact
        (MemoryStore.pointer_expireActive h.intact _) htexts
      have hfit : (historyKey c.address n).length ≤ maxKeySize := by
        rw [length_historyKey]
        decide
      have hpending : a.SameBinding (a.markPending c.issuedAt) := rfl
      obtain ⟨s₄, haddress, h₄⟩ := h₃.write_record
        ((h.keysFit ha).sameBinding hpending) (by rw [hpending.id, hid]; exact hold) hpending.slot
      simp only [h.addressOf ha, hid, hexpire, hnext, hpending.id,
        write_of_fits (historyKey_ne_nil _ _) hfit, hwrite, hpending.value, haddress]
      rw [hpending.id, hid] at h₄
      exact .ok _ h₄

/-! ## Changing a challenge and its address together -/

theorem update {α : Type} (h : s.Mirrors m) (f : FlowId) {change : Attempt → α × Attempt}
    (hchange : ∀ p : Attempt, p.Amends (change p).2) :
    Agree Mirrors (s.update f change) (m.update f change) := by
  simp only [Ledger.update, h.readChallenge, bind, Except.bind]
  cases hc : m.challenges.get? f with
  | none =>
    rw [MemoryStore.update_unknown hc]
    exact .error _
  | some c =>
    obtain ⟨a, ha⟩ := h.intact.address_of_challenge hc
    have hcid := h.intact.id_of_challenge hc
    have haid := h.intact.id_of_address ha
    have hq := hchange ⟨c, a⟩
    have hattempt : m.attempt f = .ok ⟨c, a⟩ := by simp only [MemoryStore.attempt, hc, ha]
    simp only [MemoryStore.update, hattempt, h.addressOf ha]
    generalize (change ⟨c, a⟩).1 = out
    generalize (change ⟨c, a⟩).2 = q at hq
    have hold : m.challenges.get? q.challenge.id = some c := by
      rw [hq.challenge.id, hcid]
      exact hc
    have hended : c.isActive = false → q.challenge.isActive = false := fun hi => by
      rw [hq.ended hi]
      exact hi
    obtain ⟨s₁, hwrite, h₁⟩ := h.write_challenge hold hq.challenge.address hended
      ((h.textsFit hc).sameIssue hq.challenge)
    have hput := MemoryStore.active_put h.intact (by rw [hcid]; exact hc) haid hq
    rw [← hput] at h₁
    simp only [hwrite]
    by_cases hsame : q.address = a
    · -- the ledger leaves the record alone, the store in memory writes it as it is
      simp only [if_pos hsame]
      have hstill : m.addresses.insert q.address.id q.address = m.addresses := by
        apply Table.insert_of_get?_eq_some
        rw [hsame, haid]
        exact ha
      have hm : m.put q = { m with
          active := (m.put q).active
          challenges := m.challenges.insert q.challenge.id q.challenge } := by
        rw [← hstill]
        rfl
      rw [hm]
      exact .ok _ h₁
    · simp only [if_neg hsame]
      obtain ⟨s₂, haddress, h₂⟩ := h₁.write_record
        ((h.keysFit ha).sameBinding hq.address) (by rw [hq.address.id, haid]; exact ha)
        hq.address.slot
      rw [haddress]
      exact .ok _ h₂

end Durable.Ledger.Mirrors

namespace Durable.Ledger

instance : Backend Ledger where
  empty := Environment.fresh.ledger
  Shows := Mirrors
  Storable c := c.TextsFit
  Roomy s := s.challenges.size < UInt64.size
  shows_empty := mirrors_fresh
  intact h := h.intact
  address?_eq h id := h.readAddress id
  addressIn?_eq h slot := h.addressIn? slot
  addressesWith_eq h channel value := h.addressesWith channel value
  upsert_agrees h _ hnew := h.upsert hnew
  create_agrees h _ htexts hact := h.create htexts hact
  challenge?_eq h f := h.readChallenge f
  activeFor?_eq h id := h.readActive id
  history_eq h id hroom := h.historyOf hroom id
  active_eq h := h.activeChallenges
  complete_agrees h f now := h.update f fun p => p.complete_amends now
  failAttempt_agrees h f now := h.update f fun p => p.fail_amends now
  expire_agrees h f reason now := h.update f fun p => p.expire_amends now reason
  storable_issue h := fun ha htoken hcode =>
    ⟨(h.keysFit ha).textsFit.identity, (h.keysFit ha).textsFit.value, htoken, hcode⟩

end Durable.Ledger

end Vouch
