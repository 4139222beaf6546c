import Vouch.Proofs.Store.Calls

/-!
# The indexes of a ledger are exact

Five of the byte maps of a ledger repeat what the records of the other two say.  Whatever calls
were made, they hold an entry for every record that has one coming and no other entry: nothing is
left over from a value that an address had before, and nothing is missing after it has come back.
-/

namespace Vouch.Durable

namespace Ledger

/-! ## What a call leaves alone -/

/-- Every record is kept under an identifier. -/
structure Filed (s : Ledger) : Prop where
  address : ∀ {k v}, s.addresses.get? k = some v → ∃ id : AddressId, k = id.bytes
  challenge : ∀ {k v}, s.challenges.get? k = some v → ∃ id : FlowId, k = id.bytes

/-- A change that issues no challenge. -/
structure Retains (s s' : Ledger) : Prop where
  history : s'.history = s.history
  filed : s.Filed → s'.Filed

variable {s s' s'' : Ledger}

theorem Retains.refl (s : Ledger) : s.Retains s := ⟨rfl, id⟩

theorem Retains.trans (h : s.Retains s') (h' : s'.Retains s'') : s.Retains s'' :=
  ⟨h'.history.trans h.history, fun hs => h'.filed (h.filed hs)⟩

theorem ok_of_bind {α β : Type} {x : Except StoreError α} {f : α → Except StoreError β} {b : β}
    (h : x >>= f = .ok b) : ∃ a, x = .ok a ∧ f a = .ok b := by
  cases x with
  | error e => cases h
  | ok a => exact ⟨a, rfl, h⟩

theorem eq_insert_of_write {m m' : ByteMap} {k v : Bytes} (h : write m k v = .ok m') :
    m' = m.insert k v := by
  rw [write] at h
  split at h
  · cases h
  · exact (Except.ok.inj h).symm

theorem writeAddress_retains {a : Address} {previous : Option Contact}
    (h : s.writeAddress a previous = .ok s') : s.Retains s' := by
  by_cases hfit : a.KeysFit
  · rw [writeAddress_of_keysFit hfit] at h
    cases h
    exact ⟨rfl, fun hs => ⟨fun hk =>
      ByteMap.forall_insert (P := fun k _ => ∃ id : AddressId, k = id.bytes) hs.address
        ⟨a.id, rfl⟩ hk, hs.challenge⟩⟩
  · rw [writeAddress_of_not_keysFit hfit] at h
    cases h

theorem writeChallenge_retains {c : Challenge} (h : s.writeChallenge c = .ok s') :
    s.Retains s' := by
  obtain ⟨challenges, hchallenges, h⟩ := ok_of_bind h
  obtain ⟨active, rfl⟩ : ∃ active, s' = { s with challenges, active } := by
    simp only at h
    split at h
    · obtain ⟨active, -, h⟩ := ok_of_bind h
      exact ⟨active, (Except.ok.inj h).symm⟩
    · obtain ⟨pointer, -, h⟩ := ok_of_bind h
      split at h
      · obtain ⟨active, -, h⟩ := ok_of_bind h
        exact ⟨active, (Except.ok.inj h).symm⟩
      · exact ⟨s.active, (Except.ok.inj h).symm⟩
  rw [eq_insert_of_write hchallenges]
  exact ⟨rfl, fun hs => ⟨hs.address, fun hk =>
    ByteMap.forall_insert (P := fun k _ => ∃ id : FlowId, k = id.bytes) hs.challenge ⟨c.id, rfl⟩ hk⟩⟩

theorem expireActive_retains {id : AddressId} {reason : ExpiredReason} {out : Option Challenge}
    (h : s.expireActive id reason = .ok (out, s')) : s.Retains s' := by
  obtain ⟨current, -, h⟩ := ok_of_bind h
  cases current with
  | none =>
    cases h
    exact .refl s
  | some c =>
    obtain ⟨s₁, hwrite, h⟩ := ok_of_bind h
    cases h
    exact writeChallenge_retains hwrite

theorem upsert_retains {candidate : Address} {out : Upserted}
    (h : s.upsert candidate = .ok (out, s')) : s.Retains s' := by
  obtain ⟨found, -, h⟩ := ok_of_bind h
  cases found with
  | none =>
    obtain ⟨s₁, hwrite, h⟩ := ok_of_bind h
    cases h
    exact writeAddress_retains hwrite
  | some bs =>
    obtain ⟨id, -, h⟩ := ok_of_bind h
    obtain ⟨record, -, h⟩ := ok_of_bind h
    cases record with
    | none => cases h
    | some a =>
      simp only at h
      split at h
      · cases h
        exact .refl s
      · obtain ⟨⟨expired, s₁⟩, hexpire, h⟩ := ok_of_bind h
        obtain ⟨s₂, hwrite, h⟩ := ok_of_bind h
        cases h
        exact (expireActive_retains hexpire).trans (writeAddress_retains hwrite)

theorem update_retains {α : Type} {flow : FlowId} {change : Attempt → α × Attempt} {out : α}
    (h : s.update flow change = .ok (out, s')) : s.Retains s' := by
  obtain ⟨found, -, h⟩ := ok_of_bind h
  cases found with
  | none => cases h
  | some c =>
    obtain ⟨a, -, h⟩ := ok_of_bind h
    obtain ⟨s₁, hwrite, h⟩ := ok_of_bind h
    split at h
    · cases h
      exact writeChallenge_retains hwrite
    · obtain ⟨s₂, hwrite', h⟩ := ok_of_bind h
      cases h
      exact (writeChallenge_retains hwrite).trans (writeAddress_retains hwrite')

theorem header_of_nextSequence {n : UInt64} (h : s.nextSequence = .ok (n, s')) :
    ∃ header, s' = { s with header } := by
  have hwritten : ∀ {current : UInt64}, (do
      let header ← write s.header sequenceKey (Bytes.bigEndian 8 (current + 1).toNat)
      return (current + 1, { s with header }) : Except StoreError (UInt64 × Ledger)) =
        .ok (n, s') → ∃ header, s' = { s with header } := by
    intro current hrun
    obtain ⟨header, -, hrun⟩ := ok_of_bind hrun
    cases hrun
    exact ⟨header, rfl⟩
  obtain ⟨stored, -, h⟩ := ok_of_bind h
  cases stored with
  | none => exact hwritten h
  | some bs =>
    simp only at h
    split at h
    · exact hwritten h
    · cases h

/-- The one entry that a new challenge gets in the history of its address. -/
theorem create_enters {c : Challenge} {out : Option Challenge} (h : s.create c = .ok (out, s')) :
    ∃ (a : Address) (s₁ s₂ : Ledger) (n : UInt64), s.readChallenge c.id = .ok none ∧
      s.addressOf c = .ok a ∧
      s.expireActive a.id .superseded = .ok (out, s₁) ∧ s₁.nextSequence = .ok (n, s₂) ∧
      s'.history = s.history.insert (historyKey a.id n) c.id.bytes ∧ (s.Filed → s'.Filed) := by
  obtain ⟨found, hfound, h⟩ := ok_of_bind h
  cases found with
  | some _ => cases h
  | none =>
    obtain ⟨a, ha, h⟩ := ok_of_bind h
    obtain ⟨⟨superseded, s₁⟩, hexpire, h⟩ := ok_of_bind h
    obtain ⟨⟨n, s₂⟩, hnext, h⟩ := ok_of_bind h
    obtain ⟨history, hhistory, h⟩ := ok_of_bind h
    obtain ⟨s₃, hchallenge, h⟩ := ok_of_bind h
    obtain ⟨s₄, haddress, h⟩ := ok_of_bind h
    cases h
    have h₁ := expireActive_retains hexpire
    have h₂ := writeChallenge_retains hchallenge
    have h₃ := writeAddress_retains haddress
    -- taking a number changes neither the records nor the history
    obtain ⟨header, rfl⟩ := header_of_nextSequence hnext
    have h₄ := h₂.trans h₃
    rw [eq_insert_of_write hhistory] at h₄
    refine ⟨a, s₁, _, n, hfound, ha, hexpire, hnext, ?_, fun hs => h₄.filed ?_⟩
    · rw [h₄.history, ← h₁.history]
      rfl
    · exact ⟨(h₁.filed hs).address, (h₁.filed hs).challenge⟩

end Ledger

/-! ## Sequences of calls -/

/-- A call that changes a ledger.  Any record can be put into its slot, and any challenge added. -/
inductive LedgerCall where
  | upsert (candidate : Address)
  | create (challenge : Challenge)
  | complete (flow : FlowId) (now : Timestamp)
  | failAttempt (flow : FlowId) (now : Timestamp)
  | expire (flow : FlowId) (reason : ExpiredReason) (now : Timestamp)

namespace LedgerCall

/-- What callers promise.  The identifier of a candidate is not that of another slot's record, and
challenges are added active, with texts no longer than a memory could hold. -/
def Admitted (r : StoreRun Ledger) : LedgerCall → Prop
  | .upsert candidate =>
    ∀ a, VerificationStore.address? candidate.id r.store = .ok (some a) → a.slot = candidate.slot
  | .create challenge => challenge.isActive = true ∧ challenge.TextsFit
  | _ => True

def perform (r : StoreRun Ledger) : LedgerCall → StoreRun Ledger
  | .upsert candidate => r.change (VerificationStore.upsert candidate r.store) []
  | .create challenge => r.change (VerificationStore.create challenge r.store) [challenge]
  | .complete flow now => r.change (VerificationStore.complete flow now r.store) []
  | .failAttempt flow now => r.change (VerificationStore.failAttempt flow now r.store) []
  | .expire flow reason now => r.change (VerificationStore.expire flow reason now r.store) []

/-- The runs of a ledger from a new environment. -/
inductive Kept : StoreRun Ledger → Prop where
  | fresh : Kept ⟨Environment.fresh.ledger, []⟩
  | call {r : StoreRun Ledger} {call : LedgerCall} :
    Kept r → call.Admitted r → Kept (call.perform r)

end LedgerCall

namespace Ledger

/-- The history map has one entry for every challenge created, under its address and numbered in
the order of creation. -/
def Numbered (s : Ledger) (created : List Challenge) : Prop :=
  ∀ k v, s.history.get? k = some v ↔ ∃ i c, created[i]? = some c ∧
    k = historyKey c.address (UInt64.ofNat (i + 1)) ∧ v = c.id.bytes

theorem historyKey_injective {a b : AddressId} {m n : UInt64}
    (h : historyKey a m = historyKey b n) : a = b ∧ m = n := by
  obtain ⟨hid, hnumber⟩ := List.append_inj h (by rw [a.length_bytes, b.length_bytes])
  have hsame := Bytes.bigEndian_injective m.toNat_lt n.toNat_lt hnumber
  exact ⟨Id.eq_of_bytes_eq hid, UInt64.toNat_inj.mp hsame⟩

-- Numbers do not repeat as long as there are enough of them.
theorem number_injective {i j : Nat} (hi : i + 1 < UInt64.size) (hj : j + 1 < UInt64.size)
    (h : UInt64.ofNat (i + 1) = UInt64.ofNat (j + 1)) : i = j := by
  have hnumber := congrArg UInt64.toNat h
  rw [UInt64.toNat_ofNat', UInt64.toNat_ofNat', Nat.mod_eq_of_lt hi, Nat.mod_eq_of_lt hj] at hnumber
  omega

-- The next number is that of the challenge created next.
theorem numbered_append {s s' : Ledger} {created : List Challenge} {c : Challenge}
    (h : s.Numbered created) (hroom : created.length + 1 < UInt64.size)
    (hs' : s'.history = s.history.insert
      (historyKey c.address (UInt64.ofNat (created.length + 1))) c.id.bytes) :
    s'.Numbered (created ++ [c]) := by
  intro k v
  rw [hs', ByteMap.get?_insert]
  constructor
  · intro hk
    split at hk
    · rename_i hkey
      refine ⟨created.length, c, List.getElem?_concat_length, hkey, ?_⟩
      exact (Option.some.inj hk).symm
    · obtain ⟨i, d, hd, hkey, hv⟩ := (h k v).mp hk
      have hi := (List.getElem?_eq_some_iff.mp hd).1
      exact ⟨i, d, by rw [List.getElem?_append_left hi, hd], hkey, hv⟩
  · rintro ⟨i, d, hd, hkey, hv⟩
    have hi := (List.getElem?_eq_some_iff.mp hd).1
    rw [List.length_append, List.length_singleton] at hi
    by_cases hlast : i = created.length
    · subst hlast
      rw [List.getElem?_concat_length] at hd
      cases hd
      rw [if_pos hkey, hv]
    · rw [List.getElem?_append_left (by omega)] at hd
      rw [if_neg, (h k v).mpr ⟨i, d, hd, hkey, hv⟩]
      -- an earlier number is another number
      intro hsame
      obtain ⟨-, hnumber⟩ := historyKey_injective (hkey.symm.trans hsame)
      exact hlast (number_injective (by omega) hroom hnumber)

end Ledger

namespace LedgerCall

variable {r : StoreRun Ledger} {m : MemoryStore}

/-- What holds of a ledger and of what was created in it, whatever the calls were. -/
structure Tracks (r : StoreRun Ledger) (m : MemoryStore) : Prop where
  records : r.Records m
  nodup : (r.created.map fun c => c.id).Nodup
  filed : r.store.Filed
  numbered : r.created.length < UInt64.size → r.store.Numbered r.created

-- What is stored is what was created.
theorem stored_iff_created (h : r.Records m) {f : FlowId} {a : AddressId} :
    (∃ c, m.challenges.get? f = some c ∧ c.address = a) ↔
      ∃ c ∈ r.created, c.id = f ∧ c.address = a := by
  have hi := Backend.intact h.shows
  have hflow : f ∈ m.flows a ↔ f ∈ r.createdFor a := by rw [h.created a]
  simp only [MemoryStore.flows, StoreRun.createdFor, List.mem_map, List.mem_filter,
    decide_eq_true_eq, hi.mem_history] at hflow
  constructor
  · rintro ⟨c, hc, rfl⟩
    have hid := hi.id_of_challenge hc
    obtain ⟨d, ⟨hd, haddress⟩, hdid⟩ := hflow.mp ⟨c, ⟨by rw [hid]; exact hc, rfl⟩, hid⟩
    exact ⟨d, hd, hdid, haddress⟩
  · rintro ⟨d, hd, hdid, haddress⟩
    obtain ⟨c, ⟨hc, hca⟩, rfl⟩ := hflow.mpr ⟨d, ⟨hd, haddress⟩, hdid⟩
    exact ⟨c, hc, hca⟩

theorem size_eq_length (h : r.Records m) (hnodup : (r.created.map fun c => c.id).Nodup) :
    m.challenges.size = r.created.length := by
  have hi := Backend.intact h.shows
  have hids := m.challenges.nodup_values (fun c => c.id) fun _ _ hc => hi.id_of_challenge hc
  have hperm : (m.challenges.values.map fun c => c.id).Perm (r.created.map fun c => c.id) := by
    refine (List.perm_ext_iff_of_nodup hids hnodup).mpr fun f => ?_
    rw [List.mem_map, List.mem_map]
    constructor
    · rintro ⟨c, hc, rfl⟩
      obtain ⟨d, hd, hid, -⟩ :=
        (stored_iff_created h).mp ⟨c, hi.mem_challenges.mp hc, rfl⟩
      exact ⟨d, hd, hid⟩
    · rintro ⟨d, hd, rfl⟩
      obtain ⟨c, hc, -⟩ := (stored_iff_created h).mpr ⟨d, hd, rfl, rfl⟩
      have hid := hi.id_of_challenge hc
      exact ⟨c, hi.mem_challenges.mpr (by rw [hid]; exact hc), hid⟩
  have hlength := hperm.length_eq
  rw [List.length_map, List.length_map] at hlength
  rw [← hlength, Table.values, List.length_map, Table.size]

-- A call that creates nothing.
theorem Tracks.retain (h : Tracks r m) {α : Type} {result : Except StoreError (α × Ledger)}
    (hrecords : ∃ m', (r.change result []).Records m')
    (hretains : ∀ {out s'}, result = .ok (out, s') → r.store.Retains s') :
    ∃ m', Tracks (r.change result []) m' := by
  obtain ⟨m', hm'⟩ := hrecords
  cases result with
  | error e => exact ⟨m, h⟩
  | ok result =>
    obtain ⟨out, s'⟩ := result
    have hkept := hretains rfl
    refine ⟨m', hm', ?_, hkept.filed h.filed, fun hroom => ?_⟩
    · rw [StoreRun.change, List.append_nil]
      exact h.nodup
    · rw [StoreRun.change, List.append_nil] at hroom ⊢
      rw [Ledger.Numbered, hkept.history]
      exact h.numbered hroom

theorem Tracks.create (h : Tracks r m) {c : Challenge} (hact : c.isActive = true)
    (htexts : c.TextsFit) :
    ∃ m', Tracks (r.change (VerificationStore.create c r.store) [c]) m' := by
  have hm : r.store.Mirrors m := h.records.shows
  obtain ⟨m', hm'⟩ := h.records.create htexts hact
  have hcreate : VerificationStore.create c r.store = r.store.create c := rfl
  rw [hcreate] at hm' ⊢
  cases hresult : r.store.create c with
  | error e => exact ⟨m, h⟩
  | ok result =>
    obtain ⟨out, s'⟩ := result
    rw [hresult] at hm'
    obtain ⟨a, s₁, s₂, n, hunknown, ha, hexpire, hnext, hhistory, hfiled⟩ :=
      Ledger.create_enters hresult
    rw [hm.readChallenge] at hunknown
    have hnew := Except.ok.inj hunknown
    -- the address is the one of the challenge
    have hid : a.id = c.address := by
      rw [Ledger.addressOf, hm.readAddress] at ha
      cases hget : m.addresses.get? c.address with
      | none =>
        rw [hget] at ha
        cases ha
      | some a' =>
        rw [hget] at ha
        cases ha
        exact hm.intact.id_of_address hget
    -- and the number is the next one
    have hnumber : n = UInt64.ofNat (r.created.length + 1) := by
      obtain ⟨s₁', hexpire', hm₁⟩ := hm.expireActive a.id .superseded
      rw [hexpire] at hexpire'
      cases hexpire'
      rw [hm₁.nextSequence, MemoryStore.size_expireActive, size_eq_length h.records h.nodup] at hnext
      cases hnext
      rfl
    refine ⟨m', hm', ?_, hfiled h.filed, fun hroom => ?_⟩
    · show ((r.created ++ [c]).map fun c => c.id).Nodup
      rw [List.map_append, List.nodup_append]
      refine ⟨h.nodup, by simp, ?_⟩
      rintro f hf g hg rfl
      obtain ⟨d, hd, rfl⟩ := List.mem_map.mp hf
      obtain ⟨d', hd', -⟩ := (stored_iff_created h.records).mpr ⟨d, hd, rfl, rfl⟩
      rw [List.mem_singleton.mp hg, hnew] at hd'
      cases hd'
    · have hroom' : r.created.length + 1 < UInt64.size := by
        rw [StoreRun.change, List.length_append, List.length_singleton] at hroom
        exact hroom
      rw [hid, hnumber] at hhistory
      exact Ledger.numbered_append (h.numbered (by omega)) hroom' hhistory

theorem Kept.tracks (h : Kept r) : ∃ m, Tracks r m := by
  induction h with
  | fresh =>
    refine ⟨.empty, ⟨Backend.shows_empty, fun _ => rfl⟩, List.nodup_nil, ?_, fun _ k v => ?_⟩
    · exact ⟨fun hk => (nomatch hk), fun hk => (nomatch hk)⟩
    · exact ⟨fun hk => (nomatch hk), fun ⟨_, _, hc, _⟩ => nomatch hc⟩
  | @call r call _ hadmitted ih =>
    obtain ⟨m, hm⟩ := ih
    cases call with
    | upsert candidate => exact hm.retain (hm.records.upsert hadmitted) Ledger.upsert_retains
    | create c => exact hm.create hadmitted.1 hadmitted.2
    | complete flow now =>
      exact hm.retain (hm.records.update (fun p => p.complete_amends now)
        (Backend.complete_agrees hm.records.shows flow now)) Ledger.update_retains
    | failAttempt flow now =>
      exact hm.retain (hm.records.update (fun p => p.fail_amends now)
        (Backend.failAttempt_agrees hm.records.shows flow now)) Ledger.update_retains
    | expire flow reason now =>
      exact hm.retain (hm.records.update (fun p => p.expire_amends now reason)
        (Backend.expire_agrees hm.records.shows flow reason now)) Ledger.update_retains

end LedgerCall

/-! ## What the byte maps hold -/

namespace Ledger

/-- The record is what the ledger answers for its identifier. -/
def HasAddress (s : Ledger) (a : Address) : Prop :=
  s.readAddress a.id = .ok (some a)

def HasChallenge (s : Ledger) (c : Challenge) : Prop :=
  s.readChallenge c.id = .ok (some c)

/-- The byte maps hold the records and what follows from them, and nothing else. -/
structure Exact (s : Ledger) (created : List Challenge) : Prop where
  addresses : ∀ k v, s.addresses.get? k = some v ↔
    ∃ a, s.HasAddress a ∧ k = a.id.bytes ∧ v = Address.codec.encode a
  challenges : ∀ k v, s.challenges.get? k = some v ↔
    ∃ c, s.HasChallenge c ∧ k = c.id.bytes ∧ v = Challenge.codec.encode c
  slots : ∀ k v, s.slots.get? k = some v ↔
    ∃ a, s.HasAddress a ∧ k = slotKey a.slot ∧ v = a.id.bytes
  valueIndex : ∀ k v, s.valueIndex.get? k = some v ↔
    ∃ a, s.HasAddress a ∧ k = valueKey a.channel a.value a.id ∧ v = a.id.bytes
  active : ∀ k v, s.active.get? k = some v ↔
    ∃ c, s.HasChallenge c ∧ c.isActive = true ∧ k = c.address.bytes ∧ v = c.id.bytes
  /-- What is stored is what was created, each challenge once. -/
  stored : ∀ f a, (∃ c, s.HasChallenge c ∧ c.id = f ∧ c.address = a) ↔
    ∃ c ∈ created, c.id = f ∧ c.address = a
  nodup : (created.map fun c => c.id).Nodup
  history : created.length < UInt64.size → s.Numbered created
  /-- The number of the challenge created last. -/
  sequence : s.header.get? sequenceKey = if created.length = 0 then none
    else some (Bytes.bigEndian 8 (UInt64.ofNat created.length).toNat)
  address_of_challenge : ∀ c, s.HasChallenge c → ∃ a, s.HasAddress a ∧ a.id = c.address
  addressesWith : ∀ channel value, ∃ l,
    VerificationStore.addressesWith channel value s = .ok l ∧ l.Nodup ∧
      ∀ a, a ∈ l ↔ s.HasAddress a ∧ a.channel = channel ∧ a.value = value

end Ledger

namespace LedgerCall

variable {r : StoreRun Ledger} {m : MemoryStore}

theorem hasAddress_iff {s : Ledger} (h : s.Mirrors m) {a : Address} :
    s.HasAddress a ↔ m.addresses.get? a.id = some a := by
  rw [Ledger.HasAddress, h.readAddress, Except.ok.injEq]

theorem hasChallenge_iff {s : Ledger} (h : s.Mirrors m) {c : Challenge} :
    s.HasChallenge c ↔ m.challenges.get? c.id = some c := by
  rw [Ledger.HasChallenge, h.readChallenge, Except.ok.injEq]

namespace Tracks

variable (h : Tracks r m)

include h

theorem mirrors : r.store.Mirrors m := h.records.shows

theorem addresses (k v : Bytes) : r.store.addresses.get? k = some v ↔
    ∃ a, r.store.HasAddress a ∧ k = a.id.bytes ∧ v = Address.codec.encode a := by
  have hm := h.mirrors
  constructor
  · intro hk
    obtain ⟨id, rfl⟩ := h.filed.address hk
    rw [hm.addresses, Option.map_eq_some_iff] at hk
    obtain ⟨a, ha, rfl⟩ := hk
    obtain rfl := hm.intact.id_of_address ha
    exact ⟨a, (hasAddress_iff hm).mpr ha, rfl, rfl⟩
  · rintro ⟨a, ha, rfl, rfl⟩
    rw [hm.addresses, (hasAddress_iff hm).mp ha]
    rfl

theorem challenges (k v : Bytes) : r.store.challenges.get? k = some v ↔
    ∃ c, r.store.HasChallenge c ∧ k = c.id.bytes ∧ v = Challenge.codec.encode c := by
  have hm := h.mirrors
  constructor
  · intro hk
    obtain ⟨f, rfl⟩ := h.filed.challenge hk
    rw [hm.challenges, Option.map_eq_some_iff] at hk
    obtain ⟨c, hc, rfl⟩ := hk
    obtain rfl := hm.intact.id_of_challenge hc
    exact ⟨c, (hasChallenge_iff hm).mpr hc, rfl, rfl⟩
  · rintro ⟨c, hc, rfl, rfl⟩
    rw [hm.challenges, (hasChallenge_iff hm).mp hc]
    rfl

theorem slots (k v : Bytes) : r.store.slots.get? k = some v ↔
    ∃ a, r.store.HasAddress a ∧ k = slotKey a.slot ∧ v = a.id.bytes := by
  have hm := h.mirrors
  constructor
  · intro hk
    obtain ⟨slot, rfl⟩ := hm.slot_of_key hk
    rw [hm.slots, Option.map_eq_some_iff] at hk
    obtain ⟨id, hid, rfl⟩ := hk
    obtain ⟨a, ha, rfl⟩ := hm.intact.slot_iff.mp hid
    obtain rfl := hm.intact.id_of_address ha
    exact ⟨a, (hasAddress_iff hm).mpr ha, rfl, rfl⟩
  · rintro ⟨a, ha, rfl, rfl⟩
    rw [hm.slots, hm.intact.slot_iff.mpr ⟨a, (hasAddress_iff hm).mp ha, rfl⟩]
    rfl

theorem valueIndex (k v : Bytes) : r.store.valueIndex.get? k = some v ↔
    ∃ a, r.store.HasAddress a ∧ k = valueKey a.channel a.value a.id ∧ v = a.id.bytes := by
  have hm := h.mirrors
  rw [hm.valueIndex]
  constructor
  · rintro ⟨id, a, ha, rfl, rfl⟩
    obtain rfl := hm.intact.id_of_address ha
    exact ⟨a, (hasAddress_iff hm).mpr ha, rfl, rfl⟩
  · rintro ⟨a, ha, rfl, rfl⟩
    exact ⟨a.id, a, (hasAddress_iff hm).mp ha, rfl, rfl⟩

theorem active (k v : Bytes) : r.store.active.get? k = some v ↔
    ∃ c, r.store.HasChallenge c ∧ c.isActive = true ∧ k = c.address.bytes ∧ v = c.id.bytes := by
  have hm := h.mirrors
  constructor
  · intro hk
    obtain ⟨a, rfl⟩ := hm.address_of_key hk
    rw [hm.active, Option.map_eq_some_iff] at hk
    obtain ⟨f, hf, rfl⟩ := hk
    obtain ⟨c, hc, rfl, hact⟩ := hm.intact.active_iff.mp hf
    obtain rfl := hm.intact.id_of_challenge hc
    exact ⟨c, (hasChallenge_iff hm).mpr hc, hact, rfl, rfl⟩
  · rintro ⟨c, hc, hact, rfl, rfl⟩
    rw [hm.active, hm.intact.active_iff.mpr ⟨c, (hasChallenge_iff hm).mp hc, rfl, hact⟩]
    rfl

theorem stored (f : FlowId) (a : AddressId) :
    (∃ c, r.store.HasChallenge c ∧ c.id = f ∧ c.address = a) ↔
      ∃ c ∈ r.created, c.id = f ∧ c.address = a := by
  have hm := h.mirrors
  rw [← stored_iff_created h.records]
  constructor
  · rintro ⟨c, hc, rfl, rfl⟩
    exact ⟨c, (hasChallenge_iff hm).mp hc, rfl⟩
  · rintro ⟨c, hc, rfl⟩
    obtain rfl := hm.intact.id_of_challenge hc
    exact ⟨c, (hasChallenge_iff hm).mpr hc, rfl, rfl⟩

theorem address_of_challenge {c : Challenge} (hc : r.store.HasChallenge c) :
    ∃ a, r.store.HasAddress a ∧ a.id = c.address := by
  have hm := h.mirrors
  obtain ⟨a, ha⟩ := hm.intact.address_of_challenge ((hasChallenge_iff hm).mp hc)
  have hid := hm.intact.id_of_address ha
  rw [← hid] at ha
  exact ⟨a, (hasAddress_iff hm).mpr ha, hid⟩

theorem addressesWith (channel : Channel) (value : Contact) : ∃ l,
    VerificationStore.addressesWith channel value r.store = .ok l ∧ l.Nodup ∧
      ∀ a, a ∈ l ↔ r.store.HasAddress a ∧ a.channel = channel ∧ a.value = value := by
  obtain ⟨l, hl, hnodup, hmem⟩ := h.mirrors.addressesWith channel value
  refine ⟨l, hl, hnodup, fun a => ?_⟩
  rw [hmem, hasAddress_iff h.mirrors]

end Tracks

/-- Whatever calls were made of a new ledger, its byte maps are exact. -/
theorem exact_of_kept (h : Kept r) : r.store.Exact r.created := by
  obtain ⟨m, hm⟩ := h.tracks
  have hsequence := hm.mirrors.sequence
  rw [size_eq_length hm.records hm.nodup] at hsequence
  exact ⟨hm.addresses, hm.challenges, hm.slots, hm.valueIndex, hm.active, hm.stored, hm.nodup,
    hm.numbered, hsequence, fun _ => hm.address_of_challenge, hm.addressesWith⟩

/-! ## A value that comes back -/

-- A new record for one slot.
def annAt (id : UInt8) (value : String) : Address :=
  .fresh ⟨List.replicate 16 id, rfl⟩ ⟨⟨"ann"⟩, .email⟩ ⟨value⟩ ⟨1⟩

-- A challenge for the first of them.
def challengeOf (flow : UInt8) : Challenge :=
  .issue ⟨List.replicate 16 flow, rfl⟩ (annAt 1 "ann@home") "token" "code" .standard ⟨2⟩

theorem challengeOf_textsFit (flow : UInt8) : (challengeOf flow).TextsFit := by
  have hfits : ∀ s ∈ ["ann", "ann@home", "token", "code"], TextFits s := by
    unfold TextFits
    decide
  exact ⟨hfits "ann" (by simp), hfits "ann@home" (by simp), hfits "token" (by simp),
    hfits "code" (by simp)⟩

-- A slot is pointed at a value and challenged.
def challengedOnce : StoreRun Ledger :=
  perform (perform ⟨Environment.fresh.ledger, []⟩ (.upsert (annAt 1 "ann@home")))
    (.create (challengeOf 1))

/-- It is pointed at another value and challenged again, and then back at the first one. -/
def afterReturn : StoreRun Ledger :=
  perform (perform (perform challengedOnce (.upsert (annAt 2 "ann@work")))
    (.create (challengeOf 2))) (.upsert (annAt 3 "ann@home"))

-- No record is stored under the identifier of a candidate.
theorem admitted_of_unknown {a : Address} (h : r.store.addresses.get? a.id.bytes = none) :
    (upsert a).Admitted r := by
  intro b hb
  have hread : VerificationStore.address? a.id r.store = .ok none := by
    show readRecord Address.codec r.store.addresses a.id.bytes = _
    rw [readRecord, read_id, h]
    rfl
  rw [hread] at hb
  cases hb

theorem afterReturn_kept : Kept afterReturn := by
  have honce : Kept challengedOnce :=
    (Kept.fresh.call (admitted_of_unknown (by decide +kernel))).call ⟨rfl, challengeOf_textsFit 1⟩
  have hmoved : Kept (perform challengedOnce (.upsert (annAt 2 "ann@work"))) :=
    honce.call (admitted_of_unknown (by decide +kernel))
  have htwice : Kept (perform _ (.create (challengeOf 2))) :=
    hmoved.call ⟨rfl, challengeOf_textsFit 2⟩
  exact htwice.call (admitted_of_unknown (by decide +kernel))

/-- After the value came back, nothing is left over from the other one. -/
theorem afterReturn_exact :
    afterReturn.store.Exact afterReturn.created ∧ afterReturn.created.length = 2 ∧
      afterReturn.store.history.size = 2 ∧ afterReturn.store.valueIndex.size = 1 :=
  ⟨exact_of_kept afterReturn_kept, by decide +kernel, by decide +kernel, by decide +kernel⟩

end LedgerCall

end Vouch.Durable
