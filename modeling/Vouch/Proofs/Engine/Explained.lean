import Vouch.Proofs.Engine.Settled

/-!
# Every end has a reason

A challenge names the slot that it was issued for, and one that has expired says why.  No operation
changes that, so where a challenge and its address are looked at together they agree.
-/

namespace Vouch

/-- The challenge is one of the slot, and says why it has expired if it has. -/
structure Challenge.Explains (c : Challenge) (slot : Slot) : Prop where
  slot : c.slot = slot
  reason : c.state = .expired → c.expiredReason ≠ none

/-- The challenges of an account are all of its slot, and have reasons. -/
def Account.Explained (acc : Account) : Prop :=
  ∀ c ∈ acc.history, c.Explains acc.record.slot

def MemoryStore.Explained (m : MemoryStore) : Prop :=
  ∀ id acc, m.account? id = some acc → acc.Explained

namespace Challenge.Explains

variable {c : Challenge} {slot : Slot} (h : c.Explains slot)

include h

theorem expire (reason : ExpiredReason) : (c.expire reason).Explains slot := by
  by_cases hact : c.isActive = true
  · rw [Attempt.expire_of_isActive hact]
    exact ⟨h.slot, fun _ => Option.some_ne_none reason⟩
  · rw [Attempt.expire_of_isActive_eq_false (by simpa using hact)]
    exact h

theorem markCompleted (now : Timestamp) : (c.markCompleted now).Explains slot :=
  ⟨h.slot, fun hs => nomatch hs⟩

theorem withAttempts (left : UInt32) : (c.withAttempts left).Explains slot :=
  ⟨h.slot, h.reason⟩

theorem fail (hact : c.isActive = true) (a : Address) (now : Timestamp) :
    (Attempt.fail ⟨c, a⟩ now).2.challenge.Explains slot := by
  rcases Attempt.fail_cases ⟨c, a⟩ now hact with hfail | ⟨left, hfail⟩ | hfail
  · rw [hfail]
    exact h
  · rw [hfail]
    exact h.withAttempts left
  · rw [hfail]
    exact (h.withAttempts 0).expire _

end Challenge.Explains

theorem Challenge.explains_issue (f : FlowId) (a : Address) (token code : String)
    (policy : Policy) (now : Timestamp) :
    (Challenge.issue f a token code policy now).Explains a.slot :=
  ⟨rfl, fun hs => nomatch hs⟩

namespace Account.Explained

variable {acc : Account} (h : acc.Explained)

include h

theorem amend {p : Attempt} (hc : p.challenge.Explains acc.record.slot)
    (hslot : p.address.slot = acc.record.slot) : (acc.amend p).Explained := by
  intro d hd
  obtain ⟨d', hd', rfl⟩ := List.mem_map.mp hd
  show Challenge.Explains _ p.address.slot
  rw [hslot]
  split
  · exact hc
  · exact h d' hd'

theorem issue {c : Challenge} (hc : c.Explains acc.record.slot) : (acc.issue c).Explained := by
  intro d hd
  rcases List.mem_append.mp hd with hd | hd
  · obtain ⟨d', hd', rfl⟩ := List.mem_map.mp hd
    exact (h d' hd').expire _
  · rw [List.mem_singleton.mp hd]
    exact hc

end Account.Explained

/-! ## Every operation -/

namespace MemoryStore.Explained

variable {m m' : MemoryStore} {id : AddressId} {acc : Account} {flow : FlowId} {c : Challenge}
  {now : Timestamp}

theorem sets (h : m.Explained) (hsets : m.Sets id acc m') (hacc : acc.Explained) :
    m'.Explained := by
  intro j acc' hacc'
  rw [hsets j] at hacc'
  split at hacc'
  · cases hacc'
    exact hacc
  · exact h _ _ hacc'

theorem of_finds (h : m.Explained) (hi : m.Intact) (hf : Engine.Finds m flow c acc) :
    c.Explains acc.record.slot :=
  h _ _ hf.account c (hf.mem hi)

-- A change of a challenge that explains itself as before.
theorem amend (h : m.Explained) (hf : Engine.Finds m flow c acc) {p : Attempt}
    (hc : p.challenge.Explains acc.record.slot) (hp : acc.record.SameBinding p.address)
    (hsets : m.Sets c.address (acc.amend p) m') : m'.Explained := by
  have hacc : acc.Explained := h _ _ hf.account
  exact h.sets hsets (hacc.amend hc hp.slot)

theorem expire_elapsed (h : m.Explained) (hi : m.Intact) (hf : Engine.Finds m flow c acc)
    (hsets : m.Sets c.address (acc.amend (Attempt.expire ⟨c, acc.record⟩ .elapsed now)) m') :
    m'.Explained := by
  have hamends := Attempt.expire_amends ⟨c, acc.record⟩ now .elapsed
  refine h.amend hf ?_ hamends.address hsets
  rw [Attempt.challenge_expire]
  exact (h.of_finds hi hf).expire _

theorem ensures (h : m.Explained) {e : Engine} {slot : Slot} {value : Contact}
    {outcome : Except VerificationError RequestOutcome}
    (hensures : e.Ensures m slot value now outcome m') : m'.Explained := by
  cases hensures with
  | refused => exact h
  | alreadyVerified => exact h
  | resent => exact h
  | @issued id acc c token code m' haddressed _ _ hc hsets =>
    have hacc : acc.Explained := by
      cases haddressed with
      | known hacc => exact h _ _ hacc
      | fresh => exact fun _ hd => nomatch hd
    have hissue : c.Explains acc.record.slot := by
      rw [hc]
      exact Challenge.explains_issue ..
    exact h.sets hsets (hacc.issue hissue)

theorem opens (h : m.Explained) (hi : m.Intact) {token : String}
    {state : Except VerificationError FlowState}
    (hopens : Engine.Opens m flow token now state m') : m'.Explained := by
  cases hopens with
  | unknown => exact h
  | wrongToken => exact h
  | shown => exact h
  | expired => exact h
  | elapsed hf _ _ _ hsets => exact h.expire_elapsed hi hf hsets

theorem submits (h : m.Explained) (hi : m.Intact) {code : String}
    {outcome : Except VerificationError SubmitOutcome}
    (hsubmits : Engine.Submits m flow code now outcome m') : m'.Explained := by
  cases hsubmits with
  | unknown => exact h
  | exhausted => exact h
  | expired => exact h
  | wrongLate => exact h
  | alreadyVerified hf _ _ _ hsets => exact h.sets hsets (h _ _ hf.account)
  | lapsed hf _ _ _ hsets => exact h.sets hsets (h _ _ hf.account)
  | elapsed hf _ _ hsets => exact h.expire_elapsed hi hf hsets
  | verified hf _ _ _ _ hsets =>
    exact h.amend hf ((h.of_finds hi hf).markCompleted now) (by rfl) hsets
  | changed hf _ _ _ _ hsets => exact h.amend hf ((h.of_finds hi hf).expire _) (by rfl) hsets
  | counted hf hact _ _ _ hsets =>
    exact h.amend hf ((h.of_finds hi hf).fail hact _ now)
      (Attempt.fail_amends ⟨_, _⟩ now).address hsets
  | spent hf hact _ _ _ hsets =>
    exact h.amend hf ((h.of_finds hi hf).fail hact _ now)
      (Attempt.fail_amends ⟨_, _⟩ now).address hsets

theorem sweeps (h : m.Explained) (hi : m.Intact) (hsweeps : Engine.Sweeps now m m') :
    m'.Explained := by
  induction hsweeps with
  | done => exact h
  | ends hf hsets hi₁ _ ih => exact ih (h.expire_elapsed hi hf hsets) hi₁

/-- Every operation leaves challenges in their slots and gives each end a reason. -/
theorem keeps (e : Engine) : e.Keeps Explained := by
  intro m m' now op answer hi _ h hends
  cases hends with
  | refused => exact h
  | declared _ hensures => exact h.ensures hensures
  | resent _ _ _ hensures => exact h.ensures hensures
  | opened hopens => exact h.opens hi hopens
  | submitted hsubmits => exact h.submits hi hsubmits
  | swept hsweeps => exact h.sweeps hi hsweeps

theorem empty : MemoryStore.empty.Explained := fun _ _ h => nomatch h

end MemoryStore.Explained

/-- A challenge and its address as they are found between operations. -/
structure Attempt.Sound (p : Attempt) : Prop where
  address : p.challenge.address = p.address.id
  slot : p.challenge.slot = p.address.slot
  /-- An active challenge is for the value that its address has. -/
  value : p.challenge.isActive = true → p.challenge.value = p.address.value
  reason : p.challenge.state = .expired ↔ p.challenge.expiredReason ≠ none

namespace Engine

variable {σ ι τ : Type} [VerificationStore σ] [IdentityStore ι] [MailTransport τ] [Backend σ]
  {e : Engine} {w : World σ ι τ}

/-- In a reachable world a challenge and its address agree. -/
theorem Reachable.sound (h : e.Reachable w) :
    ∃ m, Backend.Shows w.store m ∧
      ∀ {flow c acc}, Finds m flow c acc → Attempt.Sound ⟨c, acc.record⟩ := by
  obtain ⟨m, hshows, hsettled, hexplained⟩ := h.keeps
    (Keeps.and (MemoryStore.Settled.keeps e) (MemoryStore.Explained.keeps e))
    ⟨MemoryStore.Settled.empty, MemoryStore.Explained.empty⟩
  have hi := Backend.intact hshows
  refine ⟨m, hshows, fun {flow c acc} hf => ?_⟩
  have hc := hexplained.of_finds hi hf
  obtain ⟨earlier, d, hby⟩ := hsettled _ _ hf.account
  refine ⟨(hf.id hi).symm, hc.slot, fun hact => ?_, hc.reason, fun hreason => ?_⟩
  · have hnewest := hby.eq_of_active (hf.mem hi) hact
    exact hnewest ▸ hby.value
  · -- what has not expired has no reason
    cases hs : c.state with
    | expired => rfl
    | active => exact absurd (hby.unexplained c (hf.mem hi) (by rw [hs]; decide)) hreason
    | completed => exact absurd (hby.unexplained c (hf.mem hi) (by rw [hs]; decide)) hreason

end Engine

end Vouch
