import Vouch.Proofs.Durable.Calls

/-!
# Ledgers hold together

Every record of a ledger can be read, and whatever a slot, a challenge or a pointer names is there.
This says nothing of the states that challenges are in, so it also holds where challenges were
created that had ended before.  It is enough for every call to come to its end: a call fails only
for what it was asked.
-/

namespace Vouch

namespace ByteMap

variable {m : ByteMap} {k' : Bytes}

-- What is there stays there.
theorem known_insert (h : m.get? k' ≠ none) (k v : Bytes) : (m.insert k v).get? k' ≠ none := by
  rw [get?_insert]
  split
  · exact Option.some_ne_none v
  · exact h

theorem known_insert_self (m : ByteMap) (k v : Bytes) : (m.insert k v).get? k ≠ none := by
  rw [get?_insert, if_pos rfl]
  exact Option.some_ne_none v

end ByteMap

namespace Durable.Ledger

/-- Records are kept under their identifiers in a form that can be read, and what they name is
there. -/
structure Coherent (s : Ledger) : Prop where
  address : ∀ {k v}, s.addresses.get? k = some v →
    ∃ a : Address, k = a.id.bytes ∧ a.KeysFit ∧ v = Address.codec.encode a
  slot : ∀ {k v}, s.slots.get? k = some v →
    ∃ id : AddressId, v = id.bytes ∧ s.addresses.get? id.bytes ≠ none
  challenge : ∀ {k v}, s.challenges.get? k = some v →
    ∃ c : Challenge, k = c.id.bytes ∧ c.TextsFit ∧ v = Challenge.codec.encode c ∧
      s.addresses.get? c.address.bytes ≠ none
  active : ∀ {k v}, s.active.get? k = some v →
    ∃ f : FlowId, v = f.bytes ∧ s.challenges.get? f.bytes ≠ none
  sequence : ∀ {v}, s.header.get? sequenceKey = some v → v.length = 8

theorem coherent_fresh : Environment.fresh.ledger.Coherent where
  address h := nomatch h
  slot h := nomatch h
  challenge h := nomatch h
  active h := nomatch h
  sequence {v} h := by
    have hnone : Environment.fresh.ledger.header.get? sequenceKey = none := by
      show (ByteMap.insert _ _ _).get? _ = none
      rw [ByteMap.get?_insert, if_neg (by decide)]
      rfl
    rw [hnone] at h
    cases h

namespace Coherent

variable {s : Ledger}

/-! ## Reading -/

theorem readAddress (h : s.Coherent) (id : AddressId) :
    s.readAddress id = .ok none ∧ s.addresses.get? id.bytes = none ∨
      ∃ a : Address, s.readAddress id = .ok (some a) ∧ a.id = id ∧ a.KeysFit ∧
        s.addresses.get? id.bytes ≠ none := by
  rw [Ledger.readAddress, readRecord, read_id]
  cases hget : s.addresses.get? id.bytes with
  | none => exact .inl ⟨rfl, rfl⟩
  | some v =>
    obtain ⟨a, hid, hfit, rfl⟩ := h.address hget
    refine .inr ⟨a, ?_, (Id.eq_of_bytes_eq hid).symm, hfit, Option.some_ne_none _⟩
    show (do return some (← decode Address.codec (Address.codec.encode a))) = _
    rw [decode_encode (Address.codec_readsBack hfit.textsFit)]
    rfl

theorem readChallenge (h : s.Coherent) (f : FlowId) :
    s.readChallenge f = .ok none ∧ s.challenges.get? f.bytes = none ∨
      ∃ c : Challenge, s.readChallenge f = .ok (some c) ∧ c.id = f ∧ c.TextsFit ∧
        s.addresses.get? c.address.bytes ≠ none := by
  rw [Ledger.readChallenge, readRecord, read_id]
  cases hget : s.challenges.get? f.bytes with
  | none => exact .inl ⟨rfl, rfl⟩
  | some v =>
    obtain ⟨c, hid, htexts, rfl, haddress⟩ := h.challenge hget
    refine .inr ⟨c, ?_, (Id.eq_of_bytes_eq hid).symm, htexts, haddress⟩
    show (do return some (← decode Challenge.codec (Challenge.codec.encode c))) = _
    rw [decode_encode (Challenge.codec_readsBack htexts)]
    rfl

theorem addressOf (h : s.Coherent) {c : Challenge}
    (hknown : s.addresses.get? c.address.bytes ≠ none) :
    ∃ a : Address, s.addressOf c = .ok a ∧ a.id = c.address ∧ a.KeysFit := by
  rcases h.readAddress c.address with ⟨-, hnone⟩ | ⟨a, hread, hid, hfit, -⟩
  · exact absurd hnone hknown
  · refine ⟨a, ?_, hid, hfit⟩
    rw [Ledger.addressOf, hread]
    rfl

-- A pointer leads to a challenge.
theorem readActive (h : s.Coherent) (id : AddressId) :
    s.readActive id = .ok none ∨
      ∃ c : Challenge, s.readActive id = .ok (some c) ∧ c.TextsFit ∧
        s.addresses.get? c.address.bytes ≠ none := by
  rw [Ledger.readActive, read_id]
  cases hget : s.active.get? id.bytes with
  | none => exact .inl rfl
  | some v =>
    obtain ⟨f, rfl, hknown⟩ := h.active hget
    rcases h.readChallenge f with ⟨hnone, hmissing⟩ | ⟨c, hread, -, htexts, haddress⟩
    · exact absurd hmissing hknown
    · refine .inr ⟨c, ?_, htexts, haddress⟩
      show decodeId .flow f.bytes >>= _ = _
      rw [decodeId_bytes]
      show s.readChallenge f >>= _ = _
      rw [hread]
      rfl

/-! ## Writing -/

theorem writeAddress (h : s.Coherent) {a : Address} (hfit : a.KeysFit)
    (previous : Option Contact) :
    ∃ s', s.writeAddress a previous = .ok s' ∧ s'.Coherent := by
  have hslot : ∀ {k v}, s.slots.get? k = some v → ∃ id : AddressId, v = id.bytes ∧
      (s.addresses.insert a.id.bytes (Address.codec.encode a)).get? id.bytes ≠ none := by
    intro k v hget
    obtain ⟨id, hv, hknown⟩ := h.slot hget
    exact ⟨id, hv, ByteMap.known_insert hknown _ _⟩
  refine ⟨_, writeAddress_of_keysFit hfit previous, ?_, ?_, ?_, h.active, h.sequence⟩
  · exact ByteMap.forall_insert h.address ⟨a, rfl, hfit, rfl⟩
  · exact ByteMap.forall_insert hslot ⟨a.id, rfl, ByteMap.known_insert_self _ _ _⟩
  · intro k v hget
    obtain ⟨c, hk, htexts, hv, hknown⟩ := h.challenge hget
    exact ⟨c, hk, htexts, hv, ByteMap.known_insert hknown _ _⟩

-- Whatever becomes of the pointer, it leads to a challenge if there is one.
theorem writeChallenge (h : s.Coherent) {c : Challenge} (htexts : c.TextsFit)
    (haddress : s.addresses.get? c.address.bytes ≠ none) :
    ∃ s', s.writeChallenge c = .ok s' ∧ s'.Coherent ∧ s'.addresses = s.addresses := by
  have hchallenge : ∀ {k v},
      (s.challenges.insert c.id.bytes (Challenge.codec.encode c)).get? k = some v →
        ∃ d : Challenge, k = d.id.bytes ∧ d.TextsFit ∧ v = Challenge.codec.encode d ∧
          s.addresses.get? d.address.bytes ≠ none :=
    ByteMap.forall_insert h.challenge ⟨c, rfl, htexts, rfl, haddress⟩
  have hactive : ∀ {k v}, s.active.get? k = some v → ∃ f : FlowId, v = f.bytes ∧
      (s.challenges.insert c.id.bytes (Challenge.codec.encode c)).get? f.bytes ≠ none := by
    intro k v hget
    obtain ⟨f, hv, hknown⟩ := h.active hget
    exact ⟨f, hv, ByteMap.known_insert hknown _ _⟩
  cases hact : c.isActive with
  | true =>
    refine ⟨_, Mirrors.writeChallenge_of_isActive hact,
      ⟨h.address, h.slot, hchallenge, ?_, h.sequence⟩, rfl⟩
    exact ByteMap.forall_insert hactive ⟨c.id, rfl, ByteMap.known_insert_self _ _ _⟩
  | false =>
    -- the pointer goes if it led here
    have hwrite : s.writeChallenge c = .ok { s with
        challenges := s.challenges.insert c.id.bytes (Challenge.codec.encode c)
        active := if s.active.get? c.address.bytes = some c.id.bytes then
          s.active.erase c.address.bytes else s.active } := by
      simp only [Ledger.writeChallenge, write_id, read_id, hact, Bool.false_eq_true, if_false, bind,
        Except.bind]
      split
      · rw [remove_of_ne_nil (Id.bytes_ne_nil _)]
        rfl
      · rfl
    refine ⟨_, hwrite, ⟨h.address, h.slot, hchallenge, ?_, h.sequence⟩, rfl⟩
    intro k v hget
    split at hget
    · rw [ByteMap.get?_erase] at hget
      split at hget
      · cases hget
      · exact hactive hget
    · exact hactive hget

theorem expireActive (h : s.Coherent) (id : AddressId) (reason : ExpiredReason) :
    ∃ found s', s.expireActive id reason = .ok (found, s') ∧ s'.Coherent ∧
      s'.addresses = s.addresses := by
  rcases h.readActive id with hnone | ⟨c, hread, htexts, hknown⟩
  · refine ⟨none, s, ?_, h, rfl⟩
    rw [Ledger.expireActive, hnone]
    rfl
  · have hissue := c.sameIssue_expire reason
    obtain ⟨s', hwrite, hs', haddresses⟩ :=
      h.writeChallenge (htexts.sameIssue hissue) (by rw [hissue.address]; exact hknown)
    refine ⟨some (c.expire reason), s', ?_, hs', haddresses⟩
    simp only [Ledger.expireActive, hread, hwrite, bind, Except.bind]
    rfl

theorem nextSequence (h : s.Coherent) :
    ∃ n s', s.nextSequence = .ok (n, s') ∧ s'.Coherent ∧ s'.addresses = s.addresses := by
  have hkey : sequenceKey.isEmpty = false := by decide
  have hfit : sequenceKey.length ≤ maxKeySize := by decide
  have hafter : ∀ n : UInt64, Coherent { s with
      header := s.header.insert sequenceKey (Bytes.bigEndian 8 n.toNat) } := by
    intro n
    refine ⟨h.address, h.slot, h.challenge, h.active, fun hget => ?_⟩
    rw [ByteMap.get?_insert, if_pos rfl] at hget
    rw [← Option.some.inj hget, Bytes.length_bigEndian]
  simp only [Ledger.nextSequence, read_of_ne_nil hkey, write_of_fits hkey hfit, bind, Except.bind]
  cases hget : s.header.get? sequenceKey with
  | none => exact ⟨_, _, rfl, hafter _, rfl⟩
  | some v =>
    simp only [h.sequence hget, if_true]
    exact ⟨_, _, rfl, hafter _, rfl⟩

/-! ## The calls -/

theorem upsert (h : s.Coherent) {candidate : Address} (hfit : candidate.KeysFit) :
    ∃ out s', s.upsert candidate = .ok (out, s') ∧ s'.Coherent := by
  simp only [Ledger.upsert, read_of_ne_nil (slotKey_ne_nil _), bind, Except.bind]
  cases hget : s.slots.get? (slotKey candidate.slot) with
  | none =>
    obtain ⟨s', hwrite, hs'⟩ := h.writeAddress hfit none
    rw [hwrite]
    exact ⟨_, s', rfl, hs'⟩
  | some v =>
    obtain ⟨id, rfl, hknown⟩ := h.slot hget
    rcases h.readAddress id with ⟨-, hnone⟩ | ⟨a, hread, -, hstored, -⟩
    · exact absurd hnone hknown
    · simp only [decodeId_bytes, hread]
      split
      · exact ⟨_, s, rfl, h⟩
      · obtain ⟨found, s₁, hexpire, h₁, -⟩ := h.expireActive id .addressChanged
        -- the slot is that of the record, the value that of the candidate
        have hfit' : (a.rebind candidate.value candidate.updatedAt).KeysFit := by
          refine ⟨hstored.slot, ?_⟩
          have hvalue := hfit.value
          rw [length_valueKey] at hvalue ⊢
          exact hvalue
        obtain ⟨s', hwrite, hs'⟩ := h₁.writeAddress hfit' (some a.value)
        simp only [hexpire, hwrite]
        exact ⟨_, s', rfl, hs'⟩

-- What is added to the histories is no part of what holds together.
theorem writeHistory (h : s.Coherent) (a : AddressId) (n : UInt64) (f : FlowId) :
    ∃ history, write s.history (historyKey a n) f.bytes = .ok history ∧
      Coherent { s with history } := by
  have hfit : (historyKey a n).length ≤ maxKeySize := by
    rw [length_historyKey]
    decide
  exact ⟨_, write_of_fits (historyKey_ne_nil a n) hfit _ _,
    h.address, h.slot, h.challenge, h.active, h.sequence⟩

theorem create (h : s.Coherent) {c : Challenge} (htexts : c.TextsFit)
    (hnew : s.readChallenge c.id = .ok none) {a : Address}
    (ha : s.readAddress c.address = .ok (some a)) :
    ∃ superseded s', s.create c = .ok (superseded, s') ∧ s'.Coherent := by
  rcases h.readAddress c.address with ⟨hnone, -⟩ | ⟨a', ha', -, hfit, hknown⟩
  · rw [ha] at hnone
    cases hnone
  · rw [ha] at ha'
    cases ha'
    have haddressOf : s.addressOf c = .ok a := by
      rw [Ledger.addressOf, ha]
      rfl
    obtain ⟨superseded, s₁, hexpire, h₁, haddresses₁⟩ := h.expireActive a.id .superseded
    obtain ⟨n, s₂, hnext, h₂, haddresses₂⟩ := h₁.nextSequence
    obtain ⟨history, hhistory, h₃⟩ := h₂.writeHistory (a.markPending c.issuedAt).id n c.id
    have hknown₃ : s₂.addresses.get? c.address.bytes ≠ none := by
      rw [haddresses₂, haddresses₁]
      exact hknown
    obtain ⟨s₄, hwrite, h₄, -⟩ := h₃.writeChallenge htexts hknown₃
    have hfit' : (a.markPending c.issuedAt).KeysFit := hfit.congr rfl rfl
    obtain ⟨s', haddress, hs'⟩ := h₄.writeAddress hfit' (some (a.markPending c.issuedAt).value)
    refine ⟨superseded, s', ?_, hs'⟩
    simp only [Ledger.create, hnew, haddressOf, hexpire, hnext, hhistory, hwrite, haddress, bind,
      Except.bind]
    rfl

theorem update {α : Type} (h : s.Coherent) {f : FlowId} {c : Challenge}
    (hc : s.readChallenge f = .ok (some c)) {change : Attempt → α × Attempt}
    (hchange : ∀ p : Attempt, p.Amends (change p).2) :
    ∃ out s', s.update f change = .ok (out, s') ∧ s'.Coherent := by
  rcases h.readChallenge f with ⟨hnone, -⟩ | ⟨c', hc', -, htexts, hknown⟩
  · rw [hc] at hnone
    cases hnone
  · rw [hc] at hc'
    cases hc'
    obtain ⟨a, haddressOf, -, hfit⟩ := h.addressOf hknown
    have hq := hchange ⟨c, a⟩
    obtain ⟨s₁, hwrite, h₁, -⟩ := h.writeChallenge (htexts.sameIssue hq.challenge)
      (by rw [hq.challenge.address]; exact hknown)
    obtain ⟨s₂, haddress, h₂⟩ := h₁.writeAddress (hfit.sameBinding hq.address) (some a.value)
    simp only [Ledger.update, hc, haddressOf, hwrite, bind, Except.bind]
    split
    · exact ⟨_, s₁, rfl, h₁⟩
    · rw [haddress]
      exact ⟨_, s₂, rfl, h₂⟩

end Coherent

end Durable.Ledger

end Vouch
