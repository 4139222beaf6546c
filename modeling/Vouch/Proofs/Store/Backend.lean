import Vouch.Proofs.Binary.ReadBack
import Vouch.Proofs.Memory.Calls

/-!
# Backends

Whatever a store keeps its records in, what can be read from it is what can be read from some
store in memory, and every call changes both alike.  A proof about the calls is therefore a proof
about stores in memory, whatever the backend.  A backend may refuse a record that it has no room
for, and may promise the order of issue only as long as its numbers last.
-/

namespace Vouch

/-- Two calls end alike: with one answer and stores that belong together, or with one error. -/
inductive Agree {α σ : Type} (r : σ → MemoryStore → Prop) :
    Except StoreError (α × σ) → Except StoreError (α × MemoryStore) → Prop where
  | ok (a : α) {s : σ} {m : MemoryStore} : r s m → Agree r (.ok (a, s)) (.ok (a, m))
  | error (e : StoreError) : Agree r (.error e) (.error e)

/-- A store that behaves as a store in memory does. -/
class Backend (σ : Type) [VerificationStore σ] where
  /-- The store without records. -/
  empty : σ
  /-- A store and a store in memory that holds the same records. -/
  Shows : σ → MemoryStore → Prop
  /-- Whether there is a form in which a challenge is kept. -/
  Storable : Challenge → Prop
  /-- Whether the order of issue is still kept. -/
  Roomy : σ → Prop
  shows_empty : Shows empty .empty
  intact {s : σ} {m : MemoryStore} : Shows s m → m.Intact
  address?_eq {s : σ} {m : MemoryStore} (h : Shows s m) (id : AddressId) :
    VerificationStore.address? id s = .ok (m.addresses.get? id)
  addressIn?_eq {s : σ} {m : MemoryStore} (h : Shows s m) (slot : Slot) :
    VerificationStore.addressIn? slot s = .ok ((m.slots.get? slot).bind m.addresses.get?)
  addressesWith_eq {s : σ} {m : MemoryStore} (h : Shows s m) (channel : Channel)
    (value : Contact) :
    ∃ l, VerificationStore.addressesWith channel value s = .ok l ∧ l.Nodup ∧
      ∀ a, a ∈ l ↔ m.addresses.get? a.id = some a ∧ a.channel = channel ∧ a.value = value
  upsert_agrees {s : σ} {m : MemoryStore} (h : Shows s m) {a : Address} :
    (m.slots.get? a.slot = none → m.addresses.get? a.id = none) →
      Agree Shows (VerificationStore.upsert a s) (m.upsert a) ∨
        VerificationStore.upsert a s = .error .badKeySize
  create_agrees {s : σ} {m : MemoryStore} (h : Shows s m) {c : Challenge} :
    Storable c → c.isActive = true → Agree Shows (VerificationStore.create c s) (m.create c)
  challenge?_eq {s : σ} {m : MemoryStore} (h : Shows s m) (f : FlowId) :
    VerificationStore.challenge? f s = .ok (m.challenges.get? f)
  activeFor?_eq {s : σ} {m : MemoryStore} (h : Shows s m) (id : AddressId) :
    VerificationStore.activeFor? id s = .ok ((m.active.get? id).bind m.challenges.get?)
  history_eq {s : σ} {m : MemoryStore} (h : Shows s m) (id : AddressId) :
    Roomy s → VerificationStore.history id s = .ok (m.history id)
  active_eq {s : σ} {m : MemoryStore} (h : Shows s m) :
    ∃ l, VerificationStore.active s = .ok l ∧ l.Nodup ∧
      ∀ c, c ∈ l ↔ m.challenges.get? c.id = some c ∧ c.isActive = true
  complete_agrees {s : σ} {m : MemoryStore} (h : Shows s m) (f : FlowId) (now : Timestamp) :
    Agree Shows (VerificationStore.complete f now s) (m.update f fun p => p.complete now)
  failAttempt_agrees {s : σ} {m : MemoryStore} (h : Shows s m) (f : FlowId) (now : Timestamp) :
    Agree Shows (VerificationStore.failAttempt f now s) (m.update f fun p => p.fail now)
  expire_agrees {s : σ} {m : MemoryStore} (h : Shows s m) (f : FlowId) (reason : ExpiredReason)
    (now : Timestamp) :
    Agree Shows (VerificationStore.expire f reason now s)
      (m.update f fun p => ((p.expire reason now).challenge, p.expire reason now))
  -- A challenge for a stored address is kept if its secrets are short.
  storable_issue {s : σ} {m : MemoryStore} (h : Shows s m) {id : AddressId} {a : Address}
    {f : FlowId} {token code : String} {policy : Policy} {now : Timestamp} :
    m.addresses.get? id = some a → TextFits token → TextFits code →
      Storable (.issue f a token code policy now)

namespace Backend

variable {σ : Type} [VerificationStore σ] [Backend σ] {s : σ} {m : MemoryStore}

-- What is found in a slot is stored, and is of that slot.
theorem stored_of_addressIn? (h : Shows s m) {slot : Slot} {a : Address}
    (hfound : VerificationStore.addressIn? slot s = .ok (some a)) :
    ∃ id, m.addresses.get? id = some a ∧ a.slot = slot := by
  rw [addressIn?_eq h] at hfound
  obtain ⟨id, hslot, hget⟩ := Option.bind_eq_some_iff.mp (Except.ok.inj hfound)
  obtain ⟨b, hget', hslot'⟩ := (intact h).slot_iff.mp hslot
  rw [hget] at hget'
  cases hget'
  exact ⟨id, hget, hslot'⟩

/-! ## Calls that end well -/

theorem upsert_upserts (h : Shows s m) {candidate : Address}
    (hnew : m.slots.get? candidate.slot = none → m.addresses.get? candidate.id = none) :
    VerificationStore.upsert candidate s = .error .badKeySize ∨
      ∃ out s' m', VerificationStore.upsert candidate s = .ok (out, s') ∧ Shows s' m' ∧
        m.Upserts candidate out m' := by
  rcases upsert_agrees h hnew with hagree | hrefused
  · obtain ⟨out, m', hup, -, hupserts⟩ := MemoryStore.upsert_upserts (intact h) hnew
    rw [hup] at hagree
    generalize hresult : VerificationStore.upsert candidate s = result at hagree
    cases hagree with
    | ok _ hshows => exact .inr ⟨_, _, m', rfl, hshows, hupserts⟩
  · exact .inl hrefused

theorem create_new (h : Shows s m) {c : Challenge} (hstorable : Storable σ c)
    (hact : c.isActive = true) (hnew : m.challenges.get? c.id = none) {acc : Account}
    (hacc : m.account? c.address = some acc) :
    ∃ superseded s' m', VerificationStore.create c s = .ok (superseded, s') ∧ Shows s' m' ∧
      m.Sets c.address (acc.add c) m' := by
  have hagree := create_agrees h hstorable hact
  obtain ⟨out, m', hcreate, -, hsets⟩ := MemoryStore.create_new (intact h) hact hnew hacc
  rw [hcreate] at hagree
  generalize VerificationStore.create c s = result at hagree
  cases hagree with
  | ok _ hshows => exact ⟨_, _, m', rfl, hshows, hsets⟩

theorem create_of_known (h : Shows s m) {c d : Challenge} (hstorable : Storable σ c)
    (hact : c.isActive = true) (hknown : m.challenges.get? c.id = some d) :
    VerificationStore.create c s = .error (.duplicate (.challenge c.id)) := by
  have hagree := create_agrees h hstorable hact
  have hcreate : m.create c = .error (.duplicate (.challenge c.id)) := by
    simp only [MemoryStore.create, hknown]
  rw [hcreate] at hagree
  generalize VerificationStore.create c s = result at hagree
  cases hagree
  rfl

-- What a change of a known challenge comes to.
theorem update_known {α : Type} {result : Except StoreError (α × σ)} (h : Shows s m) {f : FlowId}
    {c : Challenge} {acc : Account} (hc : m.challenges.get? f = some c)
    (hacc : m.account? c.address = some acc) {change : Attempt → α × Attempt}
    (hagree : Agree Shows result (m.update f change))
    (hchange : ∀ p : Attempt, p.Amends (change p).2) :
    ∃ s' m', result = .ok ((change ⟨c, acc.record⟩).1, s') ∧ Shows s' m' ∧
      m.Sets c.address (acc.amend (change ⟨c, acc.record⟩).2) m' := by
  obtain ⟨m', hupdate, -, hsets⟩ :=
    MemoryStore.update_known (intact h) hc hacc change (hchange _)
  rw [hupdate] at hagree
  cases hagree with
  | ok _ hshows => exact ⟨_, m', rfl, hshows, hsets⟩

theorem complete_known (h : Shows s m) {f : FlowId} {c : Challenge} {acc : Account}
    (hc : m.challenges.get? f = some c) (hacc : m.account? c.address = some acc)
    (now : Timestamp) :
    ∃ s' m', VerificationStore.complete f now s =
        .ok ((Attempt.complete ⟨c, acc.record⟩ now).1, s') ∧ Shows s' m' ∧
      m.Sets c.address (acc.amend (Attempt.complete ⟨c, acc.record⟩ now).2) m' :=
  update_known h hc hacc (complete_agrees h f now) fun p => p.complete_amends now

theorem failAttempt_known (h : Shows s m) {f : FlowId} {c : Challenge} {acc : Account}
    (hc : m.challenges.get? f = some c) (hacc : m.account? c.address = some acc)
    (now : Timestamp) :
    ∃ s' m', VerificationStore.failAttempt f now s =
        .ok ((Attempt.fail ⟨c, acc.record⟩ now).1, s') ∧ Shows s' m' ∧
      m.Sets c.address (acc.amend (Attempt.fail ⟨c, acc.record⟩ now).2) m' :=
  update_known h hc hacc (failAttempt_agrees h f now) fun p => p.fail_amends now

theorem expire_known (h : Shows s m) {f : FlowId} {c : Challenge} {acc : Account}
    (hc : m.challenges.get? f = some c) (hacc : m.account? c.address = some acc)
    (reason : ExpiredReason) (now : Timestamp) :
    ∃ s' m', VerificationStore.expire f reason now s =
        .ok ((Attempt.expire ⟨c, acc.record⟩ reason now).challenge, s') ∧ Shows s' m' ∧
      m.Sets c.address (acc.amend (Attempt.expire ⟨c, acc.record⟩ reason now)) m' :=
  update_known h hc hacc (expire_agrees h f reason now) fun p => p.expire_amends now reason

end Backend

namespace MemoryStore

-- A call that keeps stores intact ends like itself.
theorem agree_self {α : Type} {x : Except StoreError (α × MemoryStore)}
    (h : ∀ {out m}, x = .ok (out, m) → m.Intact) : Agree (fun s m => s = m ∧ m.Intact) x x := by
  cases x with
  | ok result =>
    obtain ⟨out, m⟩ := result
    exact .ok out ⟨rfl, h rfl⟩
  | error e => exact .error e

instance : Backend MemoryStore where
  empty := .empty
  Shows s m := s = m ∧ m.Intact
  Storable _ := True
  Roomy _ := True
  shows_empty := ⟨rfl, intact_empty⟩
  intact h := h.2
  address?_eq h id := by
    rw [h.1]
    rfl
  addressIn?_eq h slot := by
    rw [h.1]
    rfl
  addressesWith_eq {s m} h channel value := by
    obtain ⟨rfl, hi⟩ := h
    refine ⟨_, rfl, ?_, fun a => ?_⟩
    · -- sorting repeats nothing
      exact (List.mergeSort_perm _ _).nodup_iff.mpr (hi.nodup_addresses.filter _)
    · simp only [List.mem_mergeSort, List.mem_filter, hi.mem_addresses, decide_eq_true_eq]
  upsert_agrees {s m} h a hnew := by
    obtain ⟨rfl, hi⟩ := h
    obtain ⟨out, m', hup, hi', -⟩ := upsert_upserts hi hnew
    refine .inl (agree_self fun {out' m''} he => ?_)
    have hup' : s.upsert a = .ok (out', m'') := he
    rw [hup] at hup'
    cases hup'
    exact hi'
  create_agrees {s m} h c _ hact := by
    obtain ⟨rfl, hi⟩ := h
    exact agree_self fun he => (create_ok hi hact he).2.1
  challenge?_eq h f := by
    rw [h.1]
    rfl
  activeFor?_eq h id := by
    rw [h.1]
    rfl
  history_eq h id _ := by
    rw [h.1]
    rfl
  active_eq {s m} h := by
    obtain ⟨rfl, hi⟩ := h
    refine ⟨_, rfl, hi.nodup_challenges.filter _, fun c => ?_⟩
    simp only [List.mem_filter, hi.mem_challenges]
  complete_agrees {s m} h f now := by
    obtain ⟨rfl, hi⟩ := h
    exact agree_self fun he => (update_ok hi (fun p => p.complete_amends now) he).1
  failAttempt_agrees {s m} h f now := by
    obtain ⟨rfl, hi⟩ := h
    exact agree_self fun he => (update_ok hi (fun p => p.fail_amends now) he).1
  expire_agrees {s m} h f reason now := by
    obtain ⟨rfl, hi⟩ := h
    exact agree_self fun he => (update_ok hi (fun p => p.expire_amends now reason) he).1
  storable_issue _ := fun _ _ _ => trivial

-- A store in memory shows itself.
theorem shows_self {m : MemoryStore} (h : m.Intact) : Backend.Shows m m := ⟨rfl, h⟩

end MemoryStore

end Vouch
