import Vouch.Proofs.Durable.Coherent
import Vouch.Proofs.Durable.Exact
import Vouch.Proofs.Durable.Outbox
import Vouch.Proofs.Store.Failures
import Vouch.Proofs.Store.Program

/-!
# What stores refuse

A call fails only for what it was asked: a challenge, an identity or a message that is not there,
or one that is there already.  Every other call comes to its end, whatever calls were made before,
and a call that fails leaves the store as it was.
-/

namespace Vouch

open Program

variable {σ α : Type}

namespace Program

variable {s s' : σ} {x : Program σ α}

/-- The program fails with this error and leaves the store as it was; without an error it comes to
its end. -/
def Ends (x : Program σ α) (s : σ) : Option StoreError → Prop
  | some e => x.perform s = (.error e, s)
  | none => ∃ a s', x.perform s = (.ok a, s')

theorem perform_step_of_ok {call : σ → Except StoreError (α × σ)} {a : α}
    (h : call s = .ok (a, s')) : (step call).perform s = (.ok a, s') := by
  rw [perform, step_run, h]

theorem perform_step_of_error {call : σ → Except StoreError (α × σ)} {e : StoreError}
    (h : call s = .error e) : (step call).perform s = (.error e, s) := by
  rw [perform, step_run, h]

theorem perform_change_of_ok {call : σ → Except StoreError σ} (h : call s = .ok s') :
    (change call).perform s = (.ok (), s') := by
  rw [perform, change_run, h]

theorem perform_change_of_error {call : σ → Except StoreError σ} {e : StoreError}
    (h : call s = .error e) : (change call).perform s = (.error e, s) := by
  rw [perform, change_run, h]

end Program

/-! ## Addresses and challenges -/

section Stores

variable [VerificationStore σ]

/-- A call that changes one challenge fails exactly if it does not know the challenge. -/
def AsksForFlow (Grounded : σ → Prop) (call : FlowId → σ → Except StoreError (α × σ)) : Prop :=
  ∀ {s}, Grounded s → ∀ f,
    (VerificationStore.challenge? f s = .ok none → call f s = .error (.notFound (.challenge f))) ∧
    ∀ c, VerificationStore.challenge? f s = .ok (some c) →
      ∃ a s', call f s = .ok (a, s') ∧ Grounded s'

/-- A store whose records lead to no other that is missing. -/
class GroundedStore (σ : Type) [VerificationStore σ] where
  /-- The store without records. -/
  empty : σ
  Grounded : σ → Prop
  /-- Whether the keys of an address can be written. -/
  Fits : Address → Prop
  /-- Whether there is a form in which a challenge is kept. -/
  Storable : Challenge → Prop
  grounded_empty : Grounded empty
  challenge?_ok {s : σ} (h : Grounded s) (f : FlowId) :
    ∃ found, VerificationStore.challenge? f s = .ok found
  address?_ok {s : σ} (h : Grounded s) (id : AddressId) :
    ∃ found, VerificationStore.address? id s = .ok found
  upsert_ok {s : σ} (h : Grounded s) {a : Address} :
    Fits a → ∃ out s', VerificationStore.upsert a s = .ok (out, s') ∧ Grounded s'
  create_duplicate {s : σ} {c d : Challenge} :
    VerificationStore.challenge? c.id s = .ok (some d) →
      VerificationStore.create c s = .error (.duplicate (.challenge c.id))
  create_homeless {s : σ} {c : Challenge} :
    VerificationStore.challenge? c.id s = .ok none →
      VerificationStore.address? c.address s = .ok none →
        VerificationStore.create c s =
          .error (.corruption (.challengeWithoutAddress c.id c.address))
  create_ok {s : σ} (h : Grounded s) {c : Challenge} {a : Address} :
    Storable c → VerificationStore.challenge? c.id s = .ok none →
      VerificationStore.address? c.address s = .ok (some a) →
        ∃ superseded s', VerificationStore.create c s = .ok (superseded, s') ∧ Grounded s'
  complete_asks (now : Timestamp) :
    AsksForFlow Grounded fun f s => VerificationStore.complete f now s
  failAttempt_asks (now : Timestamp) :
    AsksForFlow Grounded fun f s => VerificationStore.failAttempt f now s
  expire_asks (reason : ExpiredReason) (now : Timestamp) :
    AsksForFlow Grounded fun f s => VerificationStore.expire f reason now s

variable [GroundedStore σ] [RunningStore σ]

/-- The stores that calls lead to from the empty one, whether they succeed or fail.  The keys of
addresses are short enough to be written, and the texts of challenges no longer than a memory could
hold. -/
inductive RunningStore.Reached : σ → Prop where
  | empty : Reached GroundedStore.empty
  | upsert {s : σ} {a : Address} : Reached s → GroundedStore.Fits σ a →
    Reached ((RunningStore.upsert a).perform s).2
  | create {s : σ} {c : Challenge} : Reached s → GroundedStore.Storable σ c →
    Reached ((RunningStore.create c).perform s).2
  | complete {s : σ} {f : FlowId} {now : Timestamp} : Reached s →
    Reached ((RunningStore.complete f now).perform s).2
  | failAttempt {s : σ} {f : FlowId} {now : Timestamp} : Reached s →
    Reached ((RunningStore.failAttempt f now).perform s).2
  | expire {s : σ} {f : FlowId} {reason : ExpiredReason} {now : Timestamp} : Reached s →
    Reached ((RunningStore.expire f reason now).perform s).2

/-- Each call fails exactly for what is missing, or there already, and then changes nothing. -/
structure RunningStore.RefusesExactly (s : σ) : Prop where
  upsert {a : Address} : GroundedStore.Fits σ a → (RunningStore.upsert a).Ends s none
  create {c : Challenge} : GroundedStore.Storable σ c → ∃ found home,
    VerificationStore.challenge? c.id s = .ok found ∧
    VerificationStore.address? c.address s = .ok home ∧
    (RunningStore.create c).Ends s
      (if found.isSome then some (.duplicate (.challenge c.id))
      else if home.isNone then some (.corruption (.challengeWithoutAddress c.id c.address))
      else none)
  complete (f : FlowId) (now : Timestamp) : ∃ found,
    VerificationStore.challenge? f s = .ok found ∧
    (RunningStore.complete f now).Ends s
      (if found.isNone then some (.notFound (.challenge f)) else none)
  failAttempt (f : FlowId) (now : Timestamp) : ∃ found,
    VerificationStore.challenge? f s = .ok found ∧
    (RunningStore.failAttempt f now).Ends s
      (if found.isNone then some (.notFound (.challenge f)) else none)
  expire (f : FlowId) (reason : ExpiredReason) (now : Timestamp) : ∃ found,
    VerificationStore.challenge? f s = .ok found ∧
    (RunningStore.expire f reason now).Ends s
      (if found.isNone then some (.notFound (.challenge f)) else none)

namespace GroundedStore

variable {s : σ} (h : Grounded s)

include h

theorem upsert_ends {a : Address} (ha : Fits σ a) :
    (RunningStore.upsert a).Ends s none ∧ Grounded ((RunningStore.upsert a).perform s).2 := by
  obtain ⟨out, s', hrun, hs'⟩ := upsert_ok h ha
  rw [RunningStore.upsert_eq, Ends, perform_step_of_ok hrun]
  exact ⟨⟨out, s', rfl⟩, hs'⟩

theorem create_ends {c : Challenge} (hc : Storable σ c) :
    (∃ found home, VerificationStore.challenge? c.id s = .ok found ∧
      VerificationStore.address? c.address s = .ok home ∧
      (RunningStore.create c).Ends s
        (if found.isSome then some (.duplicate (.challenge c.id))
        else if home.isNone then some (.corruption (.challengeWithoutAddress c.id c.address))
        else none)) ∧
      Grounded ((RunningStore.create c).perform s).2 := by
  obtain ⟨found, hfound⟩ := challenge?_ok h c.id
  obtain ⟨home, hhome⟩ := address?_ok h c.address
  rw [RunningStore.create_eq]
  cases found with
  | some d =>
    have hrun := perform_step_of_error (create_duplicate hfound)
    exact ⟨⟨_, _, hfound, hhome, hrun⟩, by rw [hrun]; exact h⟩
  | none =>
    cases home with
    | none =>
      have hrun := perform_step_of_error (create_homeless hfound hhome)
      exact ⟨⟨_, _, hfound, hhome, hrun⟩, by rw [hrun]; exact h⟩
    | some a =>
      obtain ⟨superseded, s', hok, hs'⟩ := create_ok h hc hfound hhome
      have hrun := perform_step_of_ok hok
      exact ⟨⟨_, _, hfound, hhome, superseded, s', hrun⟩, by rw [hrun]; exact hs'⟩

omit [RunningStore σ] in
theorem update_ends {call : FlowId → σ → Except StoreError (α × σ)}
    (hcall : AsksForFlow Grounded call) (f : FlowId) :
    (∃ found, VerificationStore.challenge? f s = .ok found ∧
      (step (call f)).Ends s (if found.isNone then some (.notFound (.challenge f)) else none)) ∧
      Grounded ((step (call f)).perform s).2 := by
  obtain ⟨found, hfound⟩ := challenge?_ok h f
  cases found with
  | none =>
    have hrun := perform_step_of_error ((hcall h f).1 hfound)
    exact ⟨⟨_, hfound, hrun⟩, by rw [hrun]; exact h⟩
  | some c =>
    obtain ⟨a, s', hok, hs'⟩ := (hcall h f).2 c hfound
    have hrun := perform_step_of_ok hok
    exact ⟨⟨_, hfound, a, s', hrun⟩, by rw [hrun]; exact hs'⟩

theorem refusesExactly : RunningStore.RefusesExactly s where
  upsert ha := (upsert_ends h ha).1
  create hc := (create_ends h hc).1
  complete f now := by
    rw [RunningStore.complete_eq]
    exact (update_ends h (complete_asks now) f).1
  failAttempt f now := by
    rw [RunningStore.failAttempt_eq]
    exact (update_ends h (failAttempt_asks now) f).1
  expire f reason now := by
    rw [RunningStore.expire_eq]
    exact (update_ends h (expire_asks reason now) f).1

end GroundedStore

-- Whatever calls were made, the records lead to no other that is missing.
theorem RunningStore.Reached.grounded {s : σ} (h : RunningStore.Reached s) :
    GroundedStore.Grounded s := by
  induction h with
  | empty => exact GroundedStore.grounded_empty
  | upsert _ ha ih => exact (GroundedStore.upsert_ends ih ha).2
  | create _ hc ih => exact (GroundedStore.create_ends ih hc).2
  | complete _ ih =>
    rw [RunningStore.complete_eq]
    exact (GroundedStore.update_ends ih (GroundedStore.complete_asks _) _).2
  | failAttempt _ ih =>
    rw [RunningStore.failAttempt_eq]
    exact (GroundedStore.update_ends ih (GroundedStore.failAttempt_asks _) _).2
  | expire _ ih =>
    rw [RunningStore.expire_eq]
    exact (GroundedStore.update_ends ih (GroundedStore.expire_asks _ _) _).2

end Stores

namespace MemoryStore

variable {m : MemoryStore}

/-- Slots and challenges name addresses that are there. -/
structure Grounded (m : MemoryStore) : Prop where
  slot : ∀ {slot id}, m.slots.get? slot = some id → ∃ a, m.addresses.get? id = some a
  challenge : ∀ {f c}, m.challenges.get? f = some c → ∃ a, m.addresses.get? c.address = some a

namespace Grounded

theorem expireActive (h : m.Grounded) (id : AddressId) (reason : ExpiredReason) :
    (m.expireActive id reason).2.Grounded := by
  rw [MemoryStore.expireActive]
  cases m.active.get? id with
  | none => exact h
  | some f =>
    dsimp only
    cases hc : m.challenges.get? f with
    | none => exact ⟨h.slot, h.challenge⟩
    | some c =>
      refine ⟨h.slot, fun {f' c'} hget => ?_⟩
      refine Table.forall_insert
        (P := fun _ (d : Challenge) => ∃ a, m.addresses.get? d.address = some a) h.challenge ?_ hget
      rw [Challenge.address_expire]
      exact h.challenge hc

-- A record more, or another one under a known name, takes nothing away.
theorem insertAddress (h : m.Grounded) (id : AddressId) (a : Address) :
    Grounded { m with addresses := m.addresses.insert id a } where
  slot hget := Table.exists_insert (h.slot hget) id a
  challenge hget := Table.exists_insert (h.challenge hget) id a

theorem insertChallenge (h : m.Grounded) {c : Challenge}
    (haddress : ∃ a, m.addresses.get? c.address = some a) (active : Table AddressId FlowId) :
    Grounded { m with active, challenges := m.challenges.insert c.id c } where
  slot hget := h.slot hget
  challenge hget := Table.forall_insert
    (P := fun _ (d : Challenge) => ∃ a, m.addresses.get? d.address = some a) h.challenge haddress
      hget

theorem upsert (h : m.Grounded) (candidate : Address) :
    ∃ out m', m.upsert candidate = .ok (out, m') ∧ m'.Grounded := by
  rw [MemoryStore.upsert]
  cases hslot : m.slots.get? candidate.slot with
  | none =>
    refine ⟨_, _, rfl, fun hget => ?_, (h.insertAddress candidate.id candidate).challenge⟩
    refine Table.forall_insert (P := fun _ id =>
      ∃ a, (m.addresses.insert candidate.id candidate).get? id = some a)
      (h.insertAddress candidate.id candidate).slot ?_ hget
    rw [Table.get?_insert, if_pos rfl]
    exact ⟨candidate, rfl⟩
  | some id =>
    obtain ⟨a, ha⟩ := h.slot hslot
    simp only [ha]
    split
    · exact ⟨_, m, rfl, h⟩
    · exact ⟨_, _, rfl, (h.expireActive id .addressChanged).insertAddress id _⟩

theorem create (h : m.Grounded) {c : Challenge} {a : Address}
    (hnew : m.challenges.get? c.id = none) (ha : m.addresses.get? c.address = some a) :
    ∃ superseded m', m.create c = .ok (superseded, m') ∧ m'.Grounded := by
  rw [MemoryStore.create, hnew]
  simp only [ha]
  refine ⟨_, _, rfl, ?_⟩
  have h₁ := (h.expireActive a.id .superseded).insertAddress a.id (a.markPending c.issuedAt)
  refine h₁.insertChallenge ?_ _
  refine Table.exists_insert ⟨a, ?_⟩ _ _
  rw [addresses_expireActive]
  exact ha

theorem update {β : Type} (h : m.Grounded) {f : FlowId} {c : Challenge}
    (hc : m.challenges.get? f = some c) {change : Attempt → β × Attempt}
    (hchange : ∀ p : Attempt, p.Amends (change p).2) :
    ∃ out m', m.update f change = .ok (out, m') ∧ m'.Grounded := by
  obtain ⟨a, ha⟩ := h.challenge hc
  have hattempt : m.attempt f = .ok ⟨c, a⟩ := by simp only [attempt, hc, ha]
  rw [MemoryStore.update, hattempt]
  refine ⟨_, _, rfl, (h.insertAddress _ _).insertChallenge ?_ _⟩
  rw [(hchange ⟨c, a⟩).challenge.address]
  exact Table.exists_insert ⟨a, ha⟩ _ _

theorem asksForFlow {β : Type} {change : Attempt → β × Attempt}
    (hchange : ∀ p : Attempt, p.Amends (change p).2) :
    AsksForFlow Grounded fun f (m : MemoryStore) => m.update f change :=
  fun h _ => ⟨fun hf => update_unknown (Except.ok.inj hf) change,
    fun _ hc => h.update (Except.ok.inj hc) hchange⟩

end Grounded

instance : GroundedStore MemoryStore where
  empty := .empty
  Grounded := Grounded
  Fits _ := True
  Storable _ := True
  grounded_empty := ⟨(fun h => by cases h), (fun h => by cases h)⟩
  challenge?_ok _ _ := ⟨_, rfl⟩
  address?_ok _ _ := ⟨_, rfl⟩
  upsert_ok h a _ := Grounded.upsert h a
  create_duplicate {s c d} hc := by
    have hget : s.challenges.get? c.id = some d := Except.ok.inj hc
    show s.create c = _
    rw [create, hget]
  create_homeless {s c} hc ha := by
    have hnew : s.challenges.get? c.id = none := Except.ok.inj hc
    have hhome : s.addresses.get? c.address = none := Except.ok.inj ha
    show s.create c = _
    simp only [create, hnew, hhome]
  create_ok h _ _ _ hc ha := h.create (Except.ok.inj hc) (Except.ok.inj ha)
  complete_asks now := Grounded.asksForFlow fun p => p.complete_amends now
  failAttempt_asks now := Grounded.asksForFlow fun p => p.fail_amends now
  expire_asks reason now := Grounded.asksForFlow fun p => p.expire_amends now reason

end MemoryStore

namespace Durable.Ledger

theorem Coherent.asksForFlow {β : Type} {change : Attempt → β × Attempt}
    (hchange : ∀ p : Attempt, p.Amends (change p).2) :
    AsksForFlow Coherent fun f (s : Ledger) => s.update f change := by
  refine fun h f => ⟨fun hf => ?_, fun c hc => h.update hc hchange⟩
  have hread : Ledger.readChallenge _ f = .ok none := hf
  simp only [Ledger.update, hread, bind, Except.bind]

instance : GroundedStore Ledger where
  empty := Environment.fresh.ledger
  Grounded := Coherent
  Fits a := a.KeysFit
  Storable c := c.TextsFit
  grounded_empty := coherent_fresh
  challenge?_ok h f := by
    rcases Coherent.readChallenge h f with ⟨hread, -⟩ | ⟨c, hread, -⟩
    · exact ⟨_, hread⟩
    · exact ⟨_, hread⟩
  address?_ok h id := by
    rcases Coherent.readAddress h id with ⟨hread, -⟩ | ⟨a, hread, -⟩
    · exact ⟨_, hread⟩
    · exact ⟨_, hread⟩
  upsert_ok h _ ha := Coherent.upsert h ha
  create_duplicate {s c d} hc := by
    have hread : s.readChallenge c.id = .ok (some d) := hc
    show s.create c = _
    simp only [Ledger.create, hread, bind, Except.bind]
  create_homeless {s c} hc ha := by
    have hread : s.readChallenge c.id = .ok none := hc
    have hhome : s.readAddress c.address = .ok none := ha
    show s.create c = _
    simp only [Ledger.create, Ledger.addressOf, hread, hhome, bind, Except.bind]
  create_ok h _ _ hc hnew ha := Coherent.create h hc hnew ha
  complete_asks now := Coherent.asksForFlow fun p => p.complete_amends now
  failAttempt_asks now := Coherent.asksForFlow fun p => p.fail_amends now
  expire_asks reason now := Coherent.asksForFlow fun p => p.expire_amends now reason

end Durable.Ledger

/-! ## Identities -/

/-- Traits are refused exactly for an identity that is not there. -/
def IdentityStore.RefusesExactly {ι : Type} [IdentityStore ι] (Fits : Identity → Prop) (s : ι) :
    Prop :=
  ∀ id traits, Fits ⟨id, traits⟩ → ∃ found, IdentityStore.identity? id s = .ok found ∧
    (change (IdentityStore.updateTraits id traits)).Ends s
      (if found.isNone then some (.notFound (.identity id)) else none)

theorem MemoryIdentities.refusesExactly (s : MemoryIdentities) :
    IdentityStore.RefusesExactly (fun _ => True) s := by
  intro id traits _
  refine ⟨s.identities.get? id, rfl, ?_⟩
  cases hget : s.identities.get? id with
  | none => exact perform_change_of_error (by rw [updateTraits_eq, hget])
  | some i => exact ⟨(), _, perform_change_of_ok (by rw [updateTraits_eq, hget])⟩

namespace Durable.IdentityFile

/-- The files that calls lead to from the empty one. -/
inductive Reached : IdentityFile → Prop where
  | empty : Reached Environment.fresh.identities
  | create {s : IdentityFile} {i : Identity} : Reached s → i.Fits →
    Reached ((change (create i)).perform s).2
  | updateTraits {s : IdentityFile} {id : IdentityId} {traits : Traits} : Reached s →
    Identity.Fits ⟨id, traits⟩ →
      Reached ((change (IdentityStore.updateTraits id traits)).perform s).2

/-- An identity is refused exactly if its name is taken. -/
def CreatesExactly (s : IdentityFile) : Prop :=
  ∀ i : Identity, i.Fits → ∃ found, IdentityStore.identity? i.id s = .ok found ∧
    (change (create i)).Ends s
      (if found.isSome then some (.duplicate (.identity i.id)) else none)

variable {s : IdentityFile}

theorem Sound.create_ends (h : s.Sound) {i : Identity} (hi : i.Fits) :
    (∃ found, IdentityStore.identity? i.id s = .ok found ∧
      (change (create i)).Ends s
        (if found.isSome then some (.duplicate (.identity i.id)) else none)) ∧
      Sound ((change (create i)).perform s).2 := by
  cases hget : s.identities.get? i.id.bytes with
  | none =>
    have hread : IdentityStore.identity? i.id s = .ok none := by
      rw [identity?_eq, readRecord, read_of_ne_nil hi.nonempty, hget]
      rfl
    have hcreate := create_eq hi s
    rw [hget] at hcreate
    have hrun := perform_change_of_ok hcreate
    exact ⟨⟨none, hread, (), _, hrun⟩, by rw [hrun]; exact h.insert hi⟩
  | some bs =>
    obtain ⟨j, hj, hfits, rfl⟩ := h hget
    have hcreate := create_eq hi s
    rw [hget] at hcreate
    have hrun := perform_change_of_error hcreate
    rw [← hj] at hget
    refine ⟨⟨some j, hj ▸ identity?_of_stored hfits hget, hrun⟩, by rw [hrun]; exact h⟩

theorem Sound.updateTraits_ends (h : s.Sound) {id : IdentityId} {traits : Traits}
    (hfits : Identity.Fits ⟨id, traits⟩) :
    (∃ found, IdentityStore.identity? id s = .ok found ∧
      (change (IdentityStore.updateTraits id traits)).Ends s
        (if found.isNone then some (.notFound (.identity id)) else none)) ∧
      Sound ((change (IdentityStore.updateTraits id traits)).perform s).2 := by
  have hupdate := h.updateTraits hfits
  rcases h.identity? hfits.nonempty with hread | ⟨i, -, -, hread⟩
  · rw [hread] at hupdate
    have hrun := perform_change_of_error hupdate
    exact ⟨⟨none, hread, hrun⟩, by rw [hrun]; exact h⟩
  · rw [hread] at hupdate
    have hrun := perform_change_of_ok hupdate
    exact ⟨⟨some i, hread, (), _, hrun⟩, by rw [hrun]; exact Sound.insert h hfits⟩

theorem Reached.sound (h : s.Reached) : s.Sound := by
  induction h with
  | empty =>
    intro _ _ hget
    cases hget
  | create _ hi ih => exact (ih.create_ends hi).2
  | updateTraits _ hfits ih => exact (ih.updateTraits_ends hfits).2

end Durable.IdentityFile

/-! ## Messages -/

/-- A message is refused to be marked exactly if no message has its number. -/
def MessageStore.RefusesExactly {μ : Type} [MessageStore μ] (s : μ) : Prop :=
  ∀ id, ∃ all, MessageStore.messages none s = .ok all ∧
    (change (MessageStore.markSent id)).Ends s
      (if id ∈ all.map (·.id) then none else some (.notFound (.message id)))

theorem MemoryOutbox.markFirst_isSome_iff {id : UInt64} {queue : List QueuedMessage} :
    (markFirst id queue).isSome ↔ id ∈ queue.map (·.id) := by
  induction queue with
  | nil => simp [markFirst]
  | cons first rest ih =>
    rw [markFirst]
    by_cases hid : first.id = id
    · simp [hid]
    · have hne : id ≠ first.id := fun he => hid he.symm
      simp [hid, hne, ih]

theorem MemoryOutbox.refusesExactly (s : MemoryOutbox) : MessageStore.RefusesExactly s := by
  intro id
  refine ⟨s.queue, by simp [MessageStore.messages], ?_⟩
  cases hmark : markFirst id s.queue with
  | none =>
    rw [if_neg]
    · exact perform_change_of_error (by simp only [MessageStore.markSent, hmark])
    · rw [← markFirst_isSome_iff, hmark]
      exact nofun
  | some queue =>
    rw [if_pos]
    · exact ⟨(), ⟨queue⟩, perform_change_of_ok (by simp only [MessageStore.markSent, hmark])⟩
    · rw [← markFirst_isSome_iff, hmark]
      rfl

namespace Durable.MessageFile

/-- The files that calls lead to from the empty one. -/
inductive Reached : MessageFile → Prop where
  | empty : Reached Environment.fresh.messages
  | enqueue {s : MessageFile} {mail : Mail} {now : Timestamp} : Reached s → mail.TextsFit →
    Reached ((step (MessageStore.enqueue mail now)).perform s).2
  | markSent {s : MessageFile} {id : UInt64} : Reached s →
    Reached ((change (MessageStore.markSent id)).perform s).2

/-- Under its number stands a message that can be read. -/
def Sound (s : MessageFile) : Prop :=
  ∀ ⦃k v⦄, s.messages.get? k = some v →
    ∃ message : QueuedMessage, (k, v) = entry message ∧ message.mail.TextsFit

variable {s : MessageFile}

theorem sound_insert (h : s.Sound) (message : QueuedMessage) (hfits : message.mail.TextsFit) :
    Sound ⟨s.messages.insert (key message.id) (QueuedMessage.codec.encode message)⟩ :=
  fun _ _ hget => ByteMap.forall_insert (fun hold => h hold) ⟨message, rfl, hfits⟩ hget

theorem Sound.entries (h : s.Sound) :
    ∃ queue : List QueuedMessage, s.messages.entries = queue.map entry ∧
      ∀ message ∈ queue, message.mail.TextsFit := by
  have hall : ∀ e ∈ s.messages.entries, ∃ message : QueuedMessage, e = entry message ∧
      message.mail.TextsFit := fun e he => h ((ByteMap.mem_entries_iff _ e.1 e.2).mp he)
  generalize s.messages.entries = entries at hall
  induction entries with
  | nil => exact ⟨[], rfl, nofun⟩
  | cons e entries ih =>
    obtain ⟨message, rfl, hfits⟩ := hall e List.mem_cons_self
    obtain ⟨queue, rfl, hqueue⟩ := ih fun e he => hall e (List.mem_cons_of_mem _ he)
    exact ⟨message :: queue, rfl, List.forall_mem_cons.mpr ⟨hfits, hqueue⟩⟩

-- Every key is a number.
theorem Sound.lastNumber (h : s.Sound) : ∃ last, s.lastNumber = .ok last := by
  obtain ⟨queue, hentries, -⟩ := h.entries
  rw [MessageFile.lastNumber, ByteMap.last?, hentries, List.getLast?_map]
  cases queue.getLast? with
  | none => exact ⟨0, rfl⟩
  | some message => exact ⟨message.id, numberOf_key message.id⟩

theorem Sound.enqueue (h : s.Sound) {mail : Mail} (hfits : mail.TextsFit) (now : Timestamp) :
    Sound ((step (MessageStore.enqueue mail now)).perform s).2 := by
  obtain ⟨last, hlast⟩ := h.lastNumber
  let message : QueuedMessage := { id := last + 1, mail, status := .queued, createdAt := now }
  have hrun : MessageStore.enqueue mail now s = .ok (message,
      (⟨s.messages.insert (key message.id) (QueuedMessage.codec.encode message)⟩ :
        MessageFile)) := by
    simp only [MessageStore.enqueue, hlast, bind, Except.bind]
    rw [write_of_fits (key_ne_nil _) (key_fits _)]
    rfl
  rw [perform_step_of_ok hrun]
  exact sound_insert h message hfits

theorem Sound.markSent_ends (h : s.Sound) (id : UInt64) :
    (∃ all, MessageStore.messages none s = .ok all ∧
      (change (MessageStore.markSent id)).Ends s
        (if id ∈ all.map (·.id) then none else some (.notFound (.message id)))) ∧
      Sound ((change (MessageStore.markSent id)).perform s).2 := by
  obtain ⟨queue, hentries, hfits⟩ := h.entries
  have hread : MessageStore.messages none s = .ok queue := by
    have hall : (queue.map entry).mapM (fun e => decode QueuedMessage.codec e.2) = .ok queue :=
      mapM_map_ok fun message hmem =>
        decode_encode (QueuedMessage.codec_readsBack (hfits message hmem))
    simp only [MessageStore.messages, hentries, hall, bind, Except.bind]
    simp [pure, Except.pure]
  cases hget : s.messages.get? (key id) with
  | none =>
    have hmissing : id ∉ queue.map (·.id) := by
      intro hmem
      obtain ⟨message, hin, rfl⟩ := List.mem_map.mp hmem
      have hentry : entry message ∈ s.messages.entries := by
        rw [hentries]
        exact List.mem_map_of_mem hin
      rw [(ByteMap.mem_entries_iff _ _ _).mp hentry] at hget
      cases hget
    have hmark : MessageStore.markSent id s = .error (.notFound (.message id)) := by
      simp only [MessageStore.markSent, readRecord, read_of_ne_nil (key_ne_nil id), hget]
      rfl
    have hrun := perform_change_of_error hmark
    exact ⟨⟨queue, hread, by rw [if_neg hmissing]; exact hrun⟩, by rw [hrun]; exact h⟩
  | some v =>
    obtain ⟨message, hentry, hmail⟩ := h hget
    obtain ⟨hkey, rfl⟩ := Prod.mk.inj hentry
    have hid : id = message.id := key_injective hkey
    have hknown : id ∈ queue.map (·.id) := by
      have hmem := (ByteMap.mem_entries_iff _ _ _).mpr hget
      rw [hentries] at hmem
      obtain ⟨other, hin, he⟩ := List.mem_map.mp hmem
      exact List.mem_map.mpr ⟨other, hin, key_injective (congrArg (·.1) he)⟩
    let sent : QueuedMessage := { message with status := .sent }
    have hmark : MessageStore.markSent id s = .ok
        (⟨s.messages.insert (key id) (QueuedMessage.codec.encode sent)⟩ : MessageFile) := by
      have hdecode := decode_encode (QueuedMessage.codec_readsBack hmail)
      simp only [MessageStore.markSent, readRecord, read_of_ne_nil (key_ne_nil id), hget, bind,
        Except.bind, hdecode, pure, Except.pure, write_of_fits (key_ne_nil id) (key_fits id), sent]
    have hrun := perform_change_of_ok hmark
    refine ⟨⟨queue, hread, by rw [if_pos hknown]; exact ⟨(), _, hrun⟩⟩, ?_⟩
    rw [hrun, hid]
    exact sound_insert h sent hmail

theorem Reached.sound (h : s.Reached) : s.Sound := by
  induction h with
  | empty =>
    intro _ _ hget
    cases hget
  | enqueue _ hfits ih => exact ih.enqueue hfits _
  | markSent _ ih => exact (ih.markSent_ends _).2

end Durable.MessageFile

/-! ## All stores -/

/-- Whatever calls led to a store, in memory or on disk, of addresses and challenges, of identities
or of messages: a call on it fails exactly for what is missing, or there already, and a call that
fails changes nothing. -/
theorem refusals_exact :
    (∀ s : MemoryStore, RunningStore.Reached s → RunningStore.RefusesExactly s) ∧
    (∀ s : Durable.Ledger, RunningStore.Reached s → RunningStore.RefusesExactly s) ∧
    (∀ s : MemoryIdentities, IdentityStore.RefusesExactly (fun _ => True) s) ∧
    (∀ s : Durable.IdentityFile, s.Reached →
      s.CreatesExactly ∧ IdentityStore.RefusesExactly Identity.Fits s) ∧
    (∀ s : MemoryOutbox, MessageStore.RefusesExactly s) ∧
    (∀ s : Durable.MessageFile, s.Reached → MessageStore.RefusesExactly s) := by
  refine ⟨?_, ?_, MemoryIdentities.refusesExactly, ?_, MemoryOutbox.refusesExactly, ?_⟩
  · exact fun s h => GroundedStore.refusesExactly h.grounded
  · exact fun s h => GroundedStore.refusesExactly h.grounded
  · exact fun s h => ⟨fun i hi => (Durable.IdentityFile.Sound.create_ends h.sound hi).1,
      fun id traits hfits => (Durable.IdentityFile.Sound.updateTraits_ends h.sound hfits).1⟩
  · exact fun s h id => (h.sound.markSent_ends id).1

namespace Sample

open Durable.LedgerCall

/-- A ledger with an address and a challenge for it. -/
def knocked : Durable.Ledger :=
  ((RunningStore.create (challengeOf 1)).perform
    ((RunningStore.upsert (annAt 1 "ann@home")).perform GroundedStore.empty).2).2

theorem knocked_reached : RunningStore.Reached knocked :=
  .create (.upsert .empty ⟨by decide, by decide⟩) (challengeOf_textsFit 1)

/-- The challenge cannot be put in once more, and no other one can be completed. -/
theorem knocked_refuses :
    (RunningStore.create (challengeOf 1)).perform knocked =
        (.error (.duplicate (.challenge (challengeOf 1).id)), knocked) ∧
      (RunningStore.complete (challengeOf 2).id ⟨3⟩).perform knocked =
        (.error (.notFound (.challenge (challengeOf 2).id)), knocked) := by
  have hrefuses := refusals_exact.2.1 knocked knocked_reached
  have hknown : (VerificationStore.challenge? (challengeOf 1).id knocked).toOption =
      some (some (challengeOf 1)) := by decide +kernel
  have hunknown : (VerificationStore.challenge? (challengeOf 2).id knocked).toOption =
      some none := by decide +kernel
  obtain ⟨found, home, hfound, -, hcreate⟩ := hrefuses.create (challengeOf_textsFit 1)
  rw [hfound] at hknown
  cases hknown
  obtain ⟨missing, hmissing, hcomplete⟩ := hrefuses.complete (challengeOf 2).id ⟨3⟩
  rw [hmissing] at hunknown
  cases hunknown
  exact ⟨hcreate, hcomplete⟩

end Sample

end Vouch
