import Vouch.Proofs.Engine.Settled

/-!
# How trust comes and goes

An address becomes verified only when the right code of its live challenge is entered in time.  It
ceases to be only when its identity declares another value.  No other operation touches the trust
in any address.
-/

namespace Vouch

def MemoryStore.Trusts (m : MemoryStore) (id : AddressId) : Prop :=
  ∃ acc, m.account? id = some acc ∧ acc.record.verified = true

theorem Attempt.verified_expire (p : Attempt) (reason : ExpiredReason) (now : Timestamp) :
    (p.expire reason now).address.verified = p.address.verified := by
  rw [expire]
  split
  · exact p.address.verified_markAttemptExpired _ _
  · rfl

theorem Attempt.verified_fail (p : Attempt) (h : p.challenge.isActive = true) (now : Timestamp) :
    (p.fail now).2.address.verified = p.address.verified := by
  rcases p.fail_cases now h with hfail | ⟨left, hfail⟩ | hfail
  · rw [hfail]
  · rw [hfail]
  · rw [hfail]
    exact p.address.verified_markAttemptExpired _ _

-- A change of one account changes no trust in another address.
theorem MemoryStore.Sets.trusts {m m' : MemoryStore} {id j : AddressId} {acc : Account}
    (h : m.Sets id acc m') (hj : j ≠ id) : m'.Trusts j ↔ m.Trusts j := by
  rw [Trusts, h j, if_neg hj]
  rfl

namespace Engine

variable {m m' : MemoryStore} {now : Timestamp} {acc acc' : Account} {flow : FlowId}
  {c : Challenge}

-- A change of one account changes no trust if it keeps the record's.
theorem trusts_of_sets {id : AddressId} (hacc : m.account? id = some acc)
    (hsets : m.Sets id acc' m') (hverified : acc'.record.verified = acc.record.verified)
    (j : AddressId) : m'.Trusts j ↔ m.Trusts j := by
  by_cases hj : j = id
  · simp [MemoryStore.Trusts, hj, hacc, hsets.get?, hverified]
  · exact hsets.trusts hj

theorem trusts_of_expire (hf : Finds m flow c acc)
    (hsets : m.Sets c.address (acc.amend (Attempt.expire ⟨c, acc.record⟩ .elapsed now)) m')
    (j : AddressId) : m'.Trusts j ↔ m.Trusts j :=
  trusts_of_sets hf.account hsets (Attempt.verified_expire ⟨c, acc.record⟩ .elapsed now) j

/-! ## Operations that leave trust alone -/

theorem Opens.trusts {token : String} {state : Except VerificationError FlowState}
    (h : Opens m flow token now state m') (j : AddressId) : m'.Trusts j ↔ m.Trusts j := by
  cases h with
  | unknown => rfl
  | wrongToken => rfl
  | shown => rfl
  | expired => rfl
  | elapsed hf _ _ _ hsets => exact trusts_of_expire hf hsets j

theorem Sweeps.trusts (h : Sweeps now m m') (j : AddressId) : m'.Trusts j ↔ m.Trusts j := by
  induction h with
  | done => rfl
  | ends hf hsets _ _ ih => exact ih.trans (trusts_of_expire hf hsets j)

/-! ## Operations that do not -/

-- A code leaves trust alone, or it is the right one for a live challenge.
theorem Submits.trusts {code : String} {outcome : Except VerificationError SubmitOutcome}
    (h : Submits m flow code now outcome m') :
    (∀ j, m'.Trusts j ↔ m.Trusts j) ∨
      ∃ c acc, Finds m flow c acc ∧ c.isLive now = true ∧ code = c.code ∧
        c.value = acc.record.value ∧ outcome = .ok (.verified (acc.record.markVerified now)) ∧
        m.Sets c.address (acc.amend ⟨c.markCompleted now, acc.record.markVerified now⟩) m' := by
  cases h with
  | unknown => exact .inl fun _ => Iff.rfl
  | exhausted => exact .inl fun _ => Iff.rfl
  | expired => exact .inl fun _ => Iff.rfl
  | wrongLate => exact .inl fun _ => Iff.rfl
  | alreadyVerified hf _ _ _ hsets => exact .inl (trusts_of_sets hf.account hsets rfl)
  | lapsed hf _ _ _ hsets => exact .inl (trusts_of_sets hf.account hsets rfl)
  | elapsed hf _ _ hsets => exact .inl (trusts_of_expire hf hsets)
  | @verified c acc m' hf _ hlive hcode hvalue hsets =>
    exact .inr ⟨c, acc, hf, hlive, hcode, hvalue, rfl, hsets⟩
  | changed hf _ _ _ _ hsets => exact .inl (trusts_of_sets hf.account hsets rfl)
  | counted hf hact _ _ _ hsets =>
    exact .inl (trusts_of_sets hf.account hsets (Attempt.verified_fail ⟨_, _⟩ hact now))
  | spent hf hact _ _ _ hsets =>
    exact .inl (trusts_of_sets hf.account hsets (Attempt.verified_fail ⟨_, _⟩ hact now))

-- A request leaves trust alone, or it finds another value in the slot and takes trust from it.
theorem Ensures.trusts {e : Engine} {slot : Slot} {value : Contact}
    {outcome : Except VerificationError RequestOutcome}
    (h : e.Ensures m slot value now outcome m') :
    (∀ j, m'.Trusts j ↔ m.Trusts j) ∨
      ∃ id acc c, m.account? id = some acc ∧ acc.record.slot = slot ∧ acc.record.value ≠ value ∧
        c.value = value ∧ c.issuedAt = now ∧ m.Sets id (acc.issue c) m' := by
  cases h with
  | refused => exact .inl fun _ => Iff.rfl
  | alreadyVerified => exact .inl fun _ => Iff.rfl
  | resent => exact .inl fun _ => Iff.rfl
  | @issued id acc c token code m' haddressed hvalue _ hc hsets =>
    cases haddressed with
    | known hacc hslot =>
      by_cases hsame : acc.record.value = value
      · exact .inl (trusts_of_sets hacc hsets (hvalue hsame).symm)
      · exact .inr ⟨id, acc, c, hacc, hslot, hsame, by rw [hc]; rfl, by rw [hc]; rfl, hsets⟩
    | fresh _ hnone =>
      -- the record is new, and not trusted
      refine .inl fun j => ?_
      by_cases hj : j = id
      · simp [MemoryStore.Trusts, hj, hnone, hsets.get?, Account.issue]
      · exact hsets.trusts hj

variable {e : Engine} {slot : Slot} {value : Contact} {id : AddressId}
  {outcome : Except VerificationError RequestOutcome}

-- What a request issues is not verified yet.
theorem Ensures.trusts_before (h : e.Ensures m slot value now outcome m') (hafter : m'.Trusts id) :
    m.Trusts id := by
  rcases h.trusts with hsame | ⟨j, acc, c, -, -, -, -, -, hsets⟩
  · exact (hsame id).mp hafter
  · by_cases hid : id = j
    · obtain ⟨acc', hacc', hverified⟩ := hafter
      rw [hid, hsets.get?] at hacc'
      cases hacc'
      cases hverified
    · exact (hsets.trusts hid).mp hafter

theorem Ensures.loses (h : e.Ensures m slot value now outcome m') (hbefore : m.Trusts id)
    (hafter : ¬ m'.Trusts id) :
    ∃ acc c, m.account? id = some acc ∧ acc.record.slot = slot ∧ acc.record.value ≠ value ∧
      c.value = value ∧ c.issuedAt = now ∧ m.Sets id (acc.issue c) m' := by
  rcases h.trusts with hsame | ⟨j, acc, c, hacc, hslot, hvalue, hcv, hissued, hsets⟩
  · exact absurd ((hsame id).mpr hbefore) hafter
  · by_cases hid : id = j
    · subst hid
      exact ⟨acc, c, hacc, hslot, hvalue, hcv, hissued, hsets⟩
    · exact absurd ((hsets.trusts hid).mpr hbefore) hafter

end Engine

namespace Operation

variable {e : Engine} {m m' : MemoryStore} {now : Timestamp} {op : Operation} {answer : Answer}
  {id : AddressId}

-- Where trust comes from.
theorem Ends.gains (h : op.Ends e m now answer m') (hbefore : ¬ m.Trusts id)
    (hafter : m'.Trusts id) :
    ∃ flow c acc, op = .submit flow c.code ∧
      answer = .submitted (.ok (.verified (acc.record.markVerified now))) ∧
      Engine.Finds m flow c acc ∧ c.isLive now = true ∧ c.address = id ∧
      c.value = acc.record.value ∧
      m.Sets id (acc.amend ⟨c.markCompleted now, acc.record.markVerified now⟩) m' := by
  cases h with
  | refused => exact absurd hafter hbefore
  | declared _ hensures => exact absurd (hensures.trusts_before hafter) hbefore
  | resent _ _ _ hensures => exact absurd (hensures.trusts_before hafter) hbefore
  | opened hopens => exact absurd ((hopens.trusts id).mp hafter) hbefore
  | swept hsweeps => exact absurd ((hsweeps.trusts id).mp hafter) hbefore
  | @submitted flow code outcome m' hsubmits =>
    rcases hsubmits.trusts with hsame | ⟨c, acc, hf, hlive, hcode, hvalue, houtcome, hsets⟩
    · exact absurd ((hsame id).mp hafter) hbefore
    · by_cases hid : id = c.address
      · subst hid
        exact ⟨flow, c, acc, by rw [hcode], by rw [houtcome], hf, hlive, rfl, hvalue, hsets⟩
      · exact absurd ((hsets.trusts hid).mp hafter) hbefore

-- Where trust goes.
theorem Ends.loses (hi : m.Intact) (h : op.Ends e m now answer m') (hbefore : m.Trusts id)
    (hafter : ¬ m'.Trusts id) :
    ∃ acc c, m.account? id = some acc ∧ op.Declares acc.record.slot c.value ∧
      acc.record.value ≠ c.value ∧ c.issuedAt = now ∧ m.Sets id (acc.issue c) m' := by
  cases h with
  | refused => exact absurd hbefore hafter
  | declared hdeclares hensures =>
    obtain ⟨acc, c, hacc, rfl, hvalue, rfl, hissued, hsets⟩ := hensures.loses hbefore hafter
    exact ⟨acc, c, hacc, hdeclares, hvalue, hissued, hsets⟩
  | @resent owner channel value id' acc' outcome m' hacc' hslot' hvalue' hensures =>
    -- the slot has one address, and that has the value already
    obtain ⟨acc, c, hacc, hslot, hvalue, -, -, -⟩ := hensures.loses hbefore hafter
    have hget := MemoryStore.get?_of_account? hacc
    have hget' := MemoryStore.get?_of_account? hacc'
    have hid := (hi.slot_iff.mpr ⟨_, hget, hslot⟩).symm.trans (hi.slot_iff.mpr ⟨_, hget', hslot'⟩)
    rw [← Option.some.inj hid, hacc] at hacc'
    rw [Option.some.inj hacc'] at hvalue
    exact absurd hvalue' hvalue
  | opened hopens => exact absurd ((hopens.trusts id).mpr hbefore) hafter
  | swept hsweeps => exact absurd ((hsweeps.trusts id).mpr hbefore) hafter
  | @submitted flow code outcome m' hsubmits =>
    rcases hsubmits.trusts with hsame | ⟨c, acc, hf, -, -, -, -, hsets⟩
    · exact absurd ((hsame id).mpr hbefore) hafter
    · by_cases hid : id = c.address
      · have hget := hsets.get?
        rw [← hid] at hget
        exact absurd ⟨_, hget, rfl⟩ hafter
      · exact absurd ((hsets.trusts hid).mpr hbefore) hafter

end Operation

/-! ## All runs -/

variable {σ ι τ : Type} [VerificationStore σ]

/-- The store has the address verified. -/
def World.Trusts (w : World σ ι τ) (id : AddressId) : Prop :=
  ∃ a, VerificationStore.address? id w.store = .ok (some a) ∧ a.verified = true

variable [IdentityStore ι] [MailTransport τ] [Backend σ] {e : Engine} {w : World σ ι τ}

omit [IdentityStore ι] [MailTransport τ] in
theorem trusts_iff {m : MemoryStore} (h : Backend.Shows w.store m) (id : AddressId) :
    w.Trusts id ↔ m.Trusts id := by
  simp only [World.Trusts, Backend.address?_eq h, Except.ok.injEq, MemoryStore.Trusts]
  constructor
  · rintro ⟨a, ha, hverified⟩
    exact ⟨_, MemoryStore.account?_of_get? ha, hverified⟩
  · rintro ⟨acc, hacc, hverified⟩
    exact ⟨acc.record, MemoryStore.get?_of_account? hacc, hverified⟩

/-- An operation that makes an address verified is the right code of an active challenge of that
address, entered in time and for the value the address has.  An operation that makes it cease to
be verified declares another value for its slot, and the record is pending with that value. -/
theorem trust_moves_of_reachable (h : e.Reachable w) {op : Operation} (hop : op.Possible e w)
    (id : AddressId) :
    (¬ w.Trusts id → (op.perform e w).2.Trusts id → ∃ flow c a,
      op = .submit flow c.code ∧
      (op.perform e w).1 = .submitted (.ok (.verified (a.markVerified w.now))) ∧
      VerificationStore.challenge? flow w.store = .ok (some c) ∧ c.state = .active ∧
      w.now.secs < c.expiresAt.secs ∧ w.now.secs < c.flowExpiresAt.secs ∧ c.address = id ∧
      VerificationStore.address? id w.store = .ok (some a) ∧ c.value = a.value ∧
      VerificationStore.address? id (op.perform e w).2.store =
        .ok (some (a.markVerified w.now))) ∧
    (w.Trusts id → ¬ (op.perform e w).2.Trusts id → ∃ a value,
      VerificationStore.address? id w.store = .ok (some a) ∧ op.Declares a.slot value ∧
      value ≠ a.value ∧
      VerificationStore.address? id (op.perform e w).2.store = .ok (some { a with
        value
        status := .pending
        verified := false
        updatedAt := w.now })) := by
  obtain ⟨m, hshows, -⟩ := h.settled
  obtain ⟨m', hshows', hends⟩ := Operation.perform_ends e hshows hop
  simp only [trusts_iff hshows, trusts_iff hshows', Backend.address?_eq hshows,
    Backend.address?_eq hshows', Backend.challenge?_eq hshows, Except.ok.injEq]
  refine ⟨fun hbefore hafter => ?_, fun hbefore hafter => ?_⟩
  · -- a live challenge is active and has time left on both counts
    obtain ⟨flow, c, acc, hsubmit, hanswer, hf, hlive, rfl, hvalue, hsets⟩ :=
      hends.gains hbefore hafter
    simp only [Challenge.isLive, Challenge.isActive, Challenge.tokenElapsed,
      Challenge.flowElapsed, Timestamp.isReached, Bool.and_eq_true, Bool.not_eq_true',
      decide_eq_true_eq, decide_eq_false_iff_not, UInt64.not_le] at hlive
    exact ⟨flow, c, acc.record, hsubmit, hanswer, hf.challenge, hlive.1.1, hlive.1.2, hlive.2, rfl,
      hf.address, hvalue, MemoryStore.get?_of_account? hsets.get?⟩
  · obtain ⟨acc, c, hacc, hdeclares, hvalue, hissued, hsets⟩ :=
      hends.loses (Backend.intact hshows) hbefore hafter
    have hget := MemoryStore.get?_of_account? hsets.get?
    rw [Account.issue, hissued] at hget
    exact ⟨acc.record, c.value, MemoryStore.get?_of_account? hacc, hdeclares,
      hvalue.symm, hget⟩

namespace Sample

-- The code of the first challenge.
def firstCode : Operation := .submit (drawnAt .flow 16) "404142434445464748494a4b4c4d4e4f"

-- The world after that code was entered.
def verified : World MemoryStore MemoryIdentities MailRecorder :=
  (firstCode.perform engine requested).2

theorem firstCode_possible : firstCode.Possible engine requested :=
  ⟨⟨fun _ => rfl, fun _ => rfl⟩, trivial⟩

theorem firstCode_gains :
    ¬ requested.Trusts (drawnAt .address 0) ∧ verified.Trusts (drawnAt .address 0) ∧
      ∃ flow c, firstCode = .submit flow c.code ∧
        VerificationStore.challenge? flow requested.store = .ok (some c) ∧ c.state = .active ∧
        c.address = drawnAt .address 0 := by
  have hbefore : ¬ requested.Trusts (drawnAt .address 0) := by
    rintro ⟨a, ha, hverified⟩
    cases ha
    cases hverified
  have hafter : verified.Trusts (drawnAt .address 0) := ⟨_, rfl, rfl⟩
  obtain ⟨flow, c, a, hcode, -, hc, hactive, -, -, haddress, -⟩ :=
    (trust_moves_of_reachable requested_reachable firstCode_possible (drawnAt .address 0)).1
      hbefore hafter
  exact ⟨hbefore, hafter, flow, c, hcode, hc, hactive, haddress⟩

end Sample

end Vouch
