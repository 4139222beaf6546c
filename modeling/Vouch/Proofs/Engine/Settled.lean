import Vouch.Proofs.Engine.Run

/-!
# The newest challenge decides

The trust in an address is kept in its record, the state of a challenge in the challenge.  Between
operations the two never disagree: the newest challenge of an address is for its value, and its
state is what the record says.
-/

namespace Vouch

/-- What the newest challenge of an address says about the trust in it. -/
def Challenge.Decides (c : Challenge) (a : Address) : Prop :=
  match c.state with
  | .active => a.status = .pending ∧ a.verified = false
  | .completed => a.status = .completed ∧ a.verified = true
  | .expired =>
    (c.expiredReason = some .elapsed ∨ c.expiredReason = some .attemptsExhausted) ∧
      a.status = .expiredAttempt ∧ a.verified = false

/-- An account as its newest challenge left it. -/
structure Account.SettledBy (acc : Account) (earlier : List Challenge) (c : Challenge) : Prop where
  history : acc.history = earlier ++ [c]
  ended : ∀ d ∈ earlier, d.isActive = false
  value : c.value = acc.record.value
  decides : c.Decides acc.record
  /-- Only what has expired has a reason for it. -/
  unexplained : ∀ d ∈ acc.history, d.state ≠ .expired → d.expiredReason = none

/-- Every account is as its newest challenge left it. -/
def MemoryStore.Settled (m : MemoryStore) : Prop :=
  ∀ id acc, m.account? id = some acc → ∃ earlier c, acc.SettledBy earlier c

namespace Account.SettledBy

variable {acc : Account} {earlier : List Challenge} {c : Challenge}

theorem mem (h : acc.SettledBy earlier c) : c ∈ acc.history := by
  rw [h.history]
  exact List.mem_append_right _ List.mem_cons_self

-- The newest challenge is the only one that can be active.
theorem eq_of_active (h : acc.SettledBy earlier c) {d : Challenge} (hd : d ∈ acc.history)
    (hact : d.isActive = true) : d = c := by
  rw [h.history] at hd
  rcases List.mem_append.mp hd with hd | hd
  · rw [h.ended d hd] at hact
    cases hact
  · exact List.mem_singleton.mp hd

theorem unverified (h : acc.SettledBy earlier c) (hact : c.isActive = true) :
    acc.record.verified = false := by
  have hs := Challenge.isActive_iff.mp hact
  have hdecides := h.decides
  rw [Challenge.Decides, hs] at hdecides
  exact hdecides.2

-- Whether the address is verified can be seen from the newest challenge.
theorem verified_iff (h : acc.SettledBy earlier c) :
    acc.record.verified = true ↔ c.state = .completed := by
  have hdecides := h.decides
  unfold Challenge.Decides at hdecides
  cases hs : c.state with
  | active =>
    rw [hs] at hdecides
    simp [hdecides.2]
  | completed =>
    rw [hs] at hdecides
    simp [hdecides.2]
  | expired =>
    rw [hs] at hdecides
    simp [hdecides.2.2]

-- An account whose newest challenge is replaced by a later state of it.
theorem amend (h : acc.SettledBy earlier c) (hnodup : (acc.history.map fun d => d.id).Nodup)
    {p : Attempt} (hp : Attempt.Amends ⟨c, acc.record⟩ p) (hdecides : p.challenge.Decides p.address)
    (hreason : p.challenge.state ≠ .expired → p.challenge.expiredReason = none) :
    (acc.amend p).SettledBy earlier p.challenge := by
  have hid : p.challenge.id = c.id := hp.challenge.id
  -- the change is to the last of the history alone
  have hother : ∀ d ∈ earlier, d.id ≠ p.challenge.id := by
    rw [h.history, List.map_append, List.nodup_append] at hnodup
    intro d hd he
    exact hnodup.2.2 _ (List.mem_map_of_mem hd) c.id (by simp) (he.trans hid)
  have hhistory : (acc.amend p).history = earlier ++ [p.challenge] := by
    have hsame : ∀ d ∈ earlier, (if d.id = p.challenge.id then p.challenge else d) = d :=
      fun d hd => if_neg (hother d hd)
    rw [Account.amend, h.history, List.map_append, List.map_congr_left hsame, List.map_id',
      List.map_cons, List.map_nil, if_pos hid.symm]
  refine ⟨hhistory, h.ended, ?_, hdecides, ?_⟩
  · exact (hp.challenge.value.trans h.value).trans hp.address.value.symm
  · intro d hd
    rw [hhistory] at hd
    rcases List.mem_append.mp hd with hd | hd
    · refine h.unexplained d ?_
      rw [h.history]
      exact List.mem_append_left _ hd
    · rw [List.mem_singleton.mp hd]
      exact hreason

-- Whatever was there before, an issued challenge decides.
theorem issue (hstate : c.state = .active) (hreason : c.expiredReason = none)
    (hold : ∀ d ∈ acc.history, d.state ≠ .expired → d.expiredReason = none) :
    ∃ earlier, (acc.issue c).SettledBy earlier c := by
  refine ⟨_, rfl, ?_, rfl, ?_, ?_⟩
  · exact fun _ => Challenge.inactive_of_mem_expired
  · rw [Challenge.Decides, hstate]
    exact ⟨rfl, rfl⟩
  · intro d hd hs
    rcases List.mem_append.mp hd with hd | hd
    · obtain ⟨d', hd', rfl⟩ := List.mem_map.mp hd
      by_cases hact : d'.isActive = true
      · rw [Attempt.expire_of_isActive hact] at hs
        exact absurd rfl hs
      · rw [Attempt.expire_of_isActive_eq_false (by simpa using hact)] at hs ⊢
        exact hold d' hd' hs
    · rw [List.mem_singleton.mp hd]
      exact hreason

/-! ## The newest challenge ends -/

variable (h : acc.SettledBy earlier c) (hnodup : (acc.history.map fun d => d.id).Nodup)
  (hact : c.isActive = true) (now : Timestamp)

include h hnodup hact

-- It ends without success, and the address notes that.
theorem amend_expired {d : Challenge} (hsame : c.SameIssue d) (hstate : d.state = .expired)
    (hreason : d.expiredReason = some .elapsed ∨ d.expiredReason = some .attemptsExhausted) :
    (acc.amend ⟨d, acc.record.markAttemptExpired c.value now⟩).SettledBy earlier d := by
  have hverified := h.unverified hact
  have hmark : acc.record.markAttemptExpired c.value now =
      { acc.record with status := .expiredAttempt, updatedAt := now } := by
    rw [Address.markAttemptExpired, if_neg]
    simp [hverified, h.value]
  refine h.amend hnodup (.of_isActive hact hsame
    (acc.record.sameBinding_markAttemptExpired _ _)) ?_ ?_
  · rw [Challenge.Decides, hstate, hmark]
    exact ⟨hreason, rfl, hverified⟩
  · exact fun hs => absurd hstate hs

theorem expire_elapsed :
    (acc.amend (Attempt.expire ⟨c, acc.record⟩ .elapsed now)).SettledBy earlier
      (c.expire .elapsed) := by
  rw [Attempt.expire_elapsed _ _ hact]
  refine h.amend_expired hnodup hact now (c.sameIssue_expire _) ?_ (.inl ?_)
  · rw [Attempt.expire_of_isActive hact]
  · rw [Attempt.expire_of_isActive hact]

theorem complete :
    (acc.amend ⟨c.markCompleted now, acc.record.markVerified now⟩).SettledBy earlier
      (c.markCompleted now) := by
  refine h.amend hnodup (.of_isActive hact rfl rfl) ⟨rfl, rfl⟩ fun _ => ?_
  -- completing a challenge gives it no reason
  refine h.unexplained c h.mem ?_
  rw [Challenge.isActive_iff.mp hact]
  decide

theorem fail : ∃ d, (acc.amend (Attempt.fail ⟨c, acc.record⟩ now).2).SettledBy earlier d := by
  have hs := Challenge.isActive_iff.mp hact
  have hreason : c.expiredReason = none := h.unexplained c h.mem (by rw [hs]; decide)
  have hamends := Attempt.fail_amends ⟨c, acc.record⟩ now
  have hdecides : ∀ left, (c.withAttempts left).Decides acc.record := fun _ => h.decides
  rcases Attempt.fail_cases ⟨c, acc.record⟩ now hact with hfail | ⟨left, hfail⟩ | hfail
  · rw [hfail] at hamends ⊢
    exact ⟨_, h.amend hnodup hamends h.decides fun _ => hreason⟩
  · rw [hfail] at hamends ⊢
    exact ⟨_, h.amend hnodup hamends (hdecides left) fun _ => hreason⟩
  · rw [hfail]
    have hact' : (c.withAttempts 0).isActive = true := hact
    refine ⟨_, h.amend_expired hnodup hact now (d := (c.withAttempts 0).expire .attemptsExhausted)
      ?_ ?_ (.inr ?_)⟩
    · have hcounted : c.SameIssue (c.withAttempts 0) := rfl
      exact hcounted.trans (Challenge.sameIssue_expire _ _)
    · rw [Attempt.expire_of_isActive hact']
    · rw [Attempt.expire_of_isActive hact']

end Account.SettledBy

/-! ## Every operation -/

namespace MemoryStore.Settled

variable {m m' : MemoryStore} {id : AddressId} {acc : Account}

-- A change of one account that leaves it to its newest challenge.
theorem sets (h : m.Settled) (hsets : m.Sets id acc m')
    (hacc : ∃ earlier c, acc.SettledBy earlier c) : m'.Settled := by
  intro j acc' hacc'
  rw [hsets j] at hacc'
  split at hacc'
  · cases hacc'
    exact hacc
  · exact h _ _ hacc'

-- What is found active is the newest challenge.
theorem of_finds (h : m.Settled) (hi : m.Intact) {flow : FlowId} {c : Challenge}
    (hf : Engine.Finds m flow c acc) (hact : c.isActive = true) :
    (∃ earlier, acc.SettledBy earlier c) ∧ (acc.history.map fun d => d.id).Nodup := by
  obtain ⟨earlier, d, hsettled⟩ := h _ _ hf.account
  refine ⟨⟨earlier, ?_⟩, ?_⟩
  · rw [hsettled.eq_of_active (hf.mem hi) hact]
    exact hsettled
  · rw [← history_of_account? hf.account]
    exact hi.nodup_history _

-- Ending a challenge whose time has run out.
theorem expire_elapsed (h : m.Settled) (hi : m.Intact) {flow : FlowId} {c : Challenge}
    (hf : Engine.Finds m flow c acc) {now : Timestamp}
    (hsets : m.Sets c.address (acc.amend (Attempt.expire ⟨c, acc.record⟩ .elapsed now)) m') :
    m'.Settled := by
  refine h.sets hsets ?_
  cases hact : c.isActive with
  | true =>
    obtain ⟨⟨earlier, hsettled⟩, hnodup⟩ := h.of_finds hi hf hact
    exact ⟨earlier, _, hsettled.expire_elapsed hnodup hact now⟩
  | false =>
    rw [(Attempt.expire_amends ⟨c, acc.record⟩ now .elapsed).ended hact, hf.amend_self hi]
    exact h _ _ hf.account

theorem ensures (h : m.Settled) {e : Engine} {slot : Slot} {value : Contact} {now : Timestamp}
    {outcome : Except VerificationError RequestOutcome}
    (hensures : e.Ensures m slot value now outcome m') : m'.Settled := by
  cases hensures with
  | refused => exact h
  | alreadyVerified => exact h
  | resent => exact h
  | @issued id acc c token code m' haddressed _ _ hc hsets =>
    have hold : ∀ d ∈ acc.history, d.state ≠ .expired → d.expiredReason = none := by
      cases haddressed with
      | known hacc =>
        obtain ⟨earlier, d, hsettled⟩ := h _ _ hacc
        exact hsettled.unexplained
      | fresh => exact fun _ hd => nomatch hd
    obtain ⟨earlier, hsettled⟩ :=
      Account.SettledBy.issue (c := c) (by rw [hc]; rfl) (by rw [hc]; rfl) hold
    exact h.sets hsets ⟨earlier, c, hsettled⟩

theorem opens (h : m.Settled) (hi : m.Intact) {flow : FlowId} {token : String} {now : Timestamp}
    {state : Except VerificationError FlowState} (hopens : Engine.Opens m flow token now state m') :
    m'.Settled := by
  cases hopens with
  | unknown => exact h
  | wrongToken => exact h
  | shown => exact h
  | expired => exact h
  | elapsed hf _ _ _ hsets => exact h.expire_elapsed hi hf hsets

theorem submits (h : m.Settled) (hi : m.Intact) {flow : FlowId} {code : String} {now : Timestamp}
    {outcome : Except VerificationError SubmitOutcome}
    (hsubmits : Engine.Submits m flow code now outcome m') : m'.Settled := by
  cases hsubmits with
  | unknown => exact h
  | exhausted => exact h
  | expired => exact h
  | wrongLate => exact h
  | alreadyVerified hf _ _ _ hsets => exact h.sets hsets (h _ _ hf.account)
  | lapsed hf _ _ _ hsets => exact h.sets hsets (h _ _ hf.account)
  | elapsed hf _ _ hsets => exact h.expire_elapsed hi hf hsets
  | verified hf hact _ _ _ hsets =>
    obtain ⟨⟨earlier, hsettled⟩, hnodup⟩ := h.of_finds hi hf hact
    exact h.sets hsets ⟨earlier, _, hsettled.complete hnodup hact now⟩
  | changed hf hact _ _ hvalue _ =>
    -- an active challenge is for the value of its address, so this does not happen
    obtain ⟨⟨earlier, hsettled⟩, -⟩ := h.of_finds hi hf hact
    exact absurd hsettled.value hvalue
  | counted hf hact _ _ _ hsets =>
    obtain ⟨⟨earlier, hsettled⟩, hnodup⟩ := h.of_finds hi hf hact
    exact h.sets hsets ⟨earlier, hsettled.fail hnodup hact now⟩
  | spent hf hact _ _ _ hsets =>
    obtain ⟨⟨earlier, hsettled⟩, hnodup⟩ := h.of_finds hi hf hact
    exact h.sets hsets ⟨earlier, hsettled.fail hnodup hact now⟩

theorem sweeps (h : m.Settled) {now : Timestamp} (hi : m.Intact)
    (hsweeps : Engine.Sweeps now m m') : m'.Settled := by
  induction hsweeps with
  | done => exact h
  | ends hf hsets hi₁ _ ih => exact ih (h.expire_elapsed hi hf hsets) hi₁

/-- Every operation leaves all accounts to their newest challenges. -/
theorem keeps (e : Engine) : e.Keeps Settled := by
  intro m m' now op answer hi _ h hends
  cases hends with
  | refused => exact h
  | declared _ hensures => exact h.ensures hensures
  | resent _ _ _ hensures => exact h.ensures hensures
  | opened hopens => exact h.opens hi hopens
  | submitted hsubmits => exact h.submits hi hsubmits
  | swept hsweeps => exact h.sweeps hi hsweeps

theorem empty : MemoryStore.empty.Settled := fun _ _ h => nomatch h

end MemoryStore.Settled

/-! ## All runs -/

namespace Engine

variable {σ ι τ : Type} [VerificationStore σ] [IdentityStore ι] [MailTransport τ] [Backend σ]
  {e : Engine} {w : World σ ι τ}

/-- The store of a reachable world shows accounts that are as their newest challenges left them. -/
theorem Reachable.settled (h : e.Reachable w) :
    ∃ m, Backend.Shows w.store m ∧ m.Settled :=
  h.keeps (MemoryStore.Settled.keeps e) MemoryStore.Settled.empty

/-- Whatever happened so far, an address has been challenged, the newest of its challenges is for
its value and decides its status, and all before it have ended.  The order of a history is kept as
long as a backend has numbers for it. -/
theorem newest_decides_of_reachable (h : e.Reachable w) {id : AddressId} {a : Address}
    (ha : VerificationStore.address? id w.store = .ok (some a)) :
    ∃ earlier c,
      (Backend.Roomy w.store → VerificationStore.history id w.store = .ok (earlier ++ [c])) ∧
      (∀ d, d ∈ earlier ++ [c] ↔
        VerificationStore.challenge? d.id w.store = .ok (some d) ∧ d.address = id) ∧
      c.value = a.value ∧ c.Decides a ∧ (∀ d ∈ earlier, d.state.isTerminal = true) ∧
      (a.verified = true → VerificationStore.activeFor? id w.store = .ok none) := by
  obtain ⟨m, hshows, hm⟩ := h.settled
  have hi := Backend.intact hshows
  rw [Backend.address?_eq hshows] at ha
  have hacc := MemoryStore.account?_of_get? (Except.ok.inj ha)
  obtain ⟨earlier, c, hsettled⟩ := hm _ _ hacc
  have hhistory : m.history id = earlier ++ [c] := hsettled.history
  refine ⟨earlier, c, fun hroomy => ?_, fun d => ?_, hsettled.value, hsettled.decides, ?_, ?_⟩
  · rw [Backend.history_eq hshows id hroomy, hhistory]
  · rw [← hhistory, hi.mem_history, Backend.challenge?_eq hshows, Except.ok.injEq]
  · intro d hd
    simpa [ChallengeState.isTerminal, Challenge.isActive] using hsettled.ended d hd
  · intro hverified
    rw [Backend.activeFor?_eq hshows]
    cases hp : m.active.get? id with
    | none => rfl
    | some f =>
      -- an active challenge would be the newest, and the address not verified
      obtain ⟨d, hd, haddr, hact⟩ := hi.active_iff.mp hp
      have hmem := hi.mem_history.mpr ⟨by rw [hi.id_of_challenge hd]; exact hd, haddr⟩
      have hnewest := hsettled.unverified
        (by rw [← hsettled.eq_of_active hmem hact]; exact hact)
      rw [hverified] at hnewest
      cases hnewest

end Engine

namespace Sample

-- The world after another address was declared before the first code was entered.
def readdressed : World MemoryStore MemoryIdentities MailRecorder :=
  ((Operation.traitsChanged ann ⟨.email, ⟨"ann@new.example"⟩⟩).perform engine requested).2

theorem readdressed_reachable : engine.Reachable readdressed :=
  requested_reachable.perform ⟨⟨fun _ => rfl, fun _ => rfl⟩, trivial⟩

/-- The address is pending by its second challenge; the first one, for the old value, has ended. -/
theorem readdressed_newest_decides :
    ∃ a first c,
      VerificationStore.address? (drawnAt .address 0) readdressed.store = .ok (some a) ∧
      VerificationStore.history (drawnAt .address 0) readdressed.store = .ok [first, c] ∧
      c.value = a.value ∧ c.Decides a ∧ c.state = .active ∧
      first.state.isTerminal = true ∧ first.value = home.value ∧ a.value ≠ home.value := by
  obtain ⟨a, ha, hvalue⟩ : ∃ a,
      VerificationStore.address? (drawnAt .address 0) readdressed.store = .ok (some a) ∧
      a.value = ⟨"ann@new.example"⟩ := ⟨_, rfl, rfl⟩
  obtain ⟨first, last, hboth, hfirst, hlast⟩ : ∃ first last,
      VerificationStore.history (drawnAt .address 0) readdressed.store = .ok [first, last] ∧
      first.value = home.value ∧ last.state = .active := ⟨_, _, rfl, rfl, rfl⟩
  obtain ⟨earlier, c, hhistory, -, hbound, hdecides, hended, -⟩ :=
    Engine.newest_decides_of_reachable readdressed_reachable ha
  have hsame : earlier ++ [c] = [first] ++ [last] :=
    Except.ok.inj ((hhistory trivial).symm.trans hboth)
  obtain ⟨rfl, hnewest⟩ := List.append_inj' hsame rfl
  rw [List.singleton_inj.mp hnewest] at hbound hdecides
  refine ⟨a, first, last, ha, hboth, hbound, hdecides, hlast, ?_, hfirst, ?_⟩
  · exact hended first (List.mem_singleton_self first)
  · rw [hvalue]
    decide

end Sample

end Vouch
