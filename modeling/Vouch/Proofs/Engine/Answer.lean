import Vouch.Proofs.Engine.Action

/-!
# What an answer does

Opening a link shows a flow that is open or completed, and ends one whose time has run out.  A code
completes the challenge, is counted against it, or comes too late.  A sweep ends whatever has run
out of time.  Apart from that nothing is written.
-/

namespace Vouch

namespace Engine

/-- A challenge, and the account of its address. -/
structure Finds (m : MemoryStore) (flow : FlowId) (c : Challenge) (acc : Account) : Prop where
  challenge : m.challenges.get? flow = some c
  account : m.account? c.address = some acc

def expiredError (p : Attempt) (reason : ExpiredReason) : VerificationError :=
  .expiredFlow (.ofChallenge p.challenge p.address reason)

/-- The ends of opening a link. -/
inductive Opens (m : MemoryStore) (flow : FlowId) (token : String) (now : Timestamp) :
    Except VerificationError FlowState → MemoryStore → Prop where
  | unknown : m.challenges.get? flow = none → Opens m flow token now (.error .notFound) m
  | wrongToken {c : Challenge} {acc : Account} : Finds m flow c acc → c.token ≠ token →
      Opens m flow token now (.error .notFound) m
  | shown {c : Challenge} {acc : Account} : Finds m flow c acc → c.token = token →
      (c.state = .completed ∧ c.vouchesFor acc.record = true ∨ c.isLive now = true) →
      Opens m flow token now (.ok (.ofChallenge c now)) m
  | expired {c : Challenge} {acc : Account} : Finds m flow c acc → c.token = token →
      (c.state = .completed ∧ c.vouchesFor acc.record = false ∨ c.state = .expired) →
      Opens m flow token now
        (.error (expiredError ⟨c, acc.record⟩ (c.expiredReason.getD .addressChanged))) m
  | elapsed {c : Challenge} {acc : Account} {m' : MemoryStore} : Finds m flow c acc →
      c.token = token → c.isActive = true → c.isLive now = false →
      m.Sets c.address (acc.amend (Attempt.expire ⟨c, acc.record⟩ .elapsed now)) m' →
      Opens m flow token now
        (.error (expiredError (Attempt.expire ⟨c, acc.record⟩ .elapsed now) .elapsed)) m'

/-- The ends of entering a code. -/
inductive Submits (m : MemoryStore) (flow : FlowId) (code : String) (now : Timestamp) :
    Except VerificationError SubmitOutcome → MemoryStore → Prop where
  | unknown : m.challenges.get? flow = none → Submits m flow code now (.error .notFound) m
  | exhausted {c : Challenge} {acc : Account} : Finds m flow c acc → c.state = .expired →
      c.expiredReason = some .attemptsExhausted →
      Submits m flow code now (.error .attemptsExhausted) m
  | expired {c : Challenge} {acc : Account} : Finds m flow c acc → c.state = .expired →
      c.expiredReason ≠ some .attemptsExhausted →
      Submits m flow code now
        (.error (expiredError ⟨c, acc.record⟩ (c.expiredReason.getD .addressChanged))) m
  | wrongLate {c : Challenge} {acc : Account} : Finds m flow c acc → c.state = .completed →
      code ≠ c.code → Submits m flow code now (.error (.invalidCode c.attemptsRemaining)) m
  | alreadyVerified {c : Challenge} {acc : Account} {m' : MemoryStore} : Finds m flow c acc →
      c.state = .completed → code = c.code → c.vouchesFor acc.record = true →
      m.Sets c.address acc m' →
      Submits m flow code now (.ok (.alreadyVerified acc.record)) m'
  | lapsed {c : Challenge} {acc : Account} {m' : MemoryStore} : Finds m flow c acc →
      c.state = .completed → code = c.code → c.vouchesFor acc.record = false →
      m.Sets c.address acc m' →
      Submits m flow code now
        (.error (expiredError ⟨c, acc.record⟩ (c.expiredReason.getD .addressChanged))) m'
  | elapsed {c : Challenge} {acc : Account} {m' : MemoryStore} : Finds m flow c acc →
      c.isActive = true → c.isLive now = false →
      m.Sets c.address (acc.amend (Attempt.expire ⟨c, acc.record⟩ .elapsed now)) m' →
      Submits m flow code now
        (.error (expiredError (Attempt.expire ⟨c, acc.record⟩ .elapsed now) .elapsed)) m'
  | verified {c : Challenge} {acc : Account} {m' : MemoryStore} : Finds m flow c acc →
      c.isActive = true → c.isLive now = true → code = c.code → c.value = acc.record.value →
      m.Sets c.address (acc.amend ⟨c.markCompleted now, acc.record.markVerified now⟩) m' →
      Submits m flow code now (.ok (.verified (acc.record.markVerified now))) m'
  | changed {c : Challenge} {acc : Account} {m' : MemoryStore} : Finds m flow c acc →
      c.isActive = true → c.isLive now = true → code = c.code → c.value ≠ acc.record.value →
      m.Sets c.address (acc.amend ⟨c.expire .addressChanged, acc.record⟩) m' →
      Submits m flow code now
        (.error (expiredError ⟨c.expire .addressChanged, acc.record⟩ .addressChanged)) m'
  | counted {c : Challenge} {acc : Account} {left : Option UInt32} {m' : MemoryStore} :
      Finds m flow c acc → c.isActive = true → c.isLive now = true → code ≠ c.code →
      (Attempt.fail ⟨c, acc.record⟩ now).1 = .remaining left →
      m.Sets c.address (acc.amend (Attempt.fail ⟨c, acc.record⟩ now).2) m' →
      Submits m flow code now (.error (.invalidCode left)) m'
  | spent {c : Challenge} {acc : Account} {m' : MemoryStore} :
      Finds m flow c acc → c.isActive = true → c.isLive now = true → code ≠ c.code →
      (Attempt.fail ⟨c, acc.record⟩ now).1 = .exhausted →
      m.Sets c.address (acc.amend (Attempt.fail ⟨c, acc.record⟩ now).2) m' →
      Submits m flow code now (.error .attemptsExhausted) m'

/-- A sweep ends one challenge after another. -/
inductive Sweeps (now : Timestamp) : MemoryStore → MemoryStore → Prop where
  | done {m : MemoryStore} : Sweeps now m m
  | ends {m m₁ m' : MemoryStore} {flow : FlowId} {c : Challenge} {acc : Account} :
    Finds m flow c acc →
      m.Sets c.address (acc.amend (Attempt.expire ⟨c, acc.record⟩ .elapsed now)) m₁ →
      m₁.Intact → Sweeps now m₁ m' → Sweeps now m m'

open Vouch.Action

variable {σ ι τ α : Type} [VerificationStore σ] [Backend σ] {w : World σ ι τ} {m : MemoryStore}
  {flow : FlowId} {c : Challenge} {acc : Account}

theorem Finds.of_intact (h : m.Intact) (hc : m.challenges.get? flow = some c) :
    ∃ acc, Finds m flow c acc := by
  obtain ⟨acc, hacc, -⟩ := h.account_of_challenge hc
  exact ⟨acc, hc, hacc⟩

theorem Finds.address (h : Finds m flow c acc) :
    m.addresses.get? c.address = some acc.record :=
  MemoryStore.get?_of_account? h.account

theorem Finds.mem (h : Finds m flow c acc) (hi : m.Intact) : c ∈ acc.history := by
  rw [← MemoryStore.history_of_account? h.account]
  refine hi.mem_history.mpr ⟨?_, rfl⟩
  rw [hi.id_of_challenge h.challenge]
  exact h.challenge

-- A history names every challenge once.
theorem Finds.eq_of_id (h : Finds m flow c acc) (hi : m.Intact) {d : Challenge}
    (hd : d ∈ acc.history) (hid : d.id = c.id) : d = c := by
  rw [← MemoryStore.history_of_account? h.account] at hd
  have hget := (hi.mem_history.mp hd).1
  rw [hid, hi.id_of_challenge h.challenge, h.challenge] at hget
  exact (Option.some.inj hget).symm

theorem expiredFlow_finds (h : Backend.Shows w.store m) (hf : Finds m flow c acc) :
    (expiredFlow c : Action σ ι τ α) w =
      .error (expiredError ⟨c, acc.record⟩ (c.expiredReason.getD .addressChanged)) w :=
  expiredFlow_run h hf.address

-- An active challenge that has run out of time is ended, and answered for as such.
theorem expireElapsed_finds (h : Backend.Shows w.store m) (hf : Finds m flow c acc)
    (hact : c.isActive = true) :
    ∃ w' m', (expireElapsed c : Action σ ι τ α) w =
        .error (expiredError (Attempt.expire ⟨c, acc.record⟩ .elapsed w.now) .elapsed) w' ∧
      Backend.Shows w'.store m' ∧
      m.Sets c.address (acc.amend (Attempt.expire ⟨c, acc.record⟩ .elapsed w.now)) m' := by
  have hid := (Backend.intact h).id_of_challenge hf.challenge
  obtain ⟨s, m', hexpire, hshows, hsets⟩ :=
    Backend.expire_known (f := c.id) h (by rw [hid]; exact hf.challenge) hf.account .elapsed w.now
  refine ⟨{ w with store := s }, m', ?_, hshows, hsets⟩
  rw [expireElapsed, bind_of_ok now_run, bind_of_ok (changeStore_of_ok hexpire)]
  have hq := Attempt.expire_amends ⟨c, acc.record⟩ w.now .elapsed
  have hget := MemoryStore.get?_of_account? hsets.get?
  rw [← hq.challenge.address] at hget
  have hreason : (Attempt.expire ⟨c, acc.record⟩ .elapsed w.now).challenge.expiredReason =
      some .elapsed := by
    rw [Attempt.expire_elapsed _ _ hact, Attempt.expire_of_isActive hact]
  refine (expiredFlow_run (w := { w with store := s }) hshows hget).trans ?_
  rw [hreason]
  rfl

theorem openLink_unknown (h : Backend.Shows w.store m) (hc : m.challenges.get? flow = none)
    (token : String) : (openLink flow token : Action σ ι τ FlowState) w = .error .notFound w := by
  rw [openLink, bind_of_error (challenge_of_unknown h hc)]

theorem openLink_wrongToken (h : Backend.Shows w.store m) (hf : Finds m flow c acc)
    {token : String} (htoken : c.token ≠ token) :
    (openLink flow token : Action σ ι τ FlowState) w = .error .notFound w := by
  have hverify : Secret.verify c.token token = false := by
    cases hv : Secret.verify c.token token with
    | false => rfl
    | true => exact absurd ((Secret.verify_iff _ _).mp hv).symm htoken
  rw [openLink, bind_of_ok (challenge_of_known h hf.challenge)]
  simp only [hverify, Bool.not_false, if_true]
  rfl

-- What follows once the token is found to be right.
theorem openLink_rightToken (h : Backend.Shows w.store m) (hf : Finds m flow c acc) :
    (openLink flow c.token : Action σ ι τ FlowState) w =
      (match c.state with
      | .completed =>
        if c.vouchesFor acc.record then return .ofChallenge c w.now else expiredFlow c
      | .active => if c.isLive w.now then return .ofChallenge c w.now else expireElapsed c
      | .expired => expiredFlow c : Action σ ι τ FlowState) w := by
  have hverify : Secret.verify c.token c.token = true := (Secret.verify_iff _ _).mpr rfl
  rw [openLink, bind_of_ok (challenge_of_known h hf.challenge)]
  simp only [hverify, Bool.not_true]
  rw [if_neg Bool.false_ne_true, bind_of_ok now_run]
  cases c.state with
  | completed => exact bind_of_ok (addressOf_run h hf.address)
  | active => rfl
  | expired => rfl

/-- Opening a link ends in one of these ways. -/
theorem openLink_opens (h : Backend.Shows w.store m) (flow : FlowId) (token : String) :
    ∃ m', Backend.Shows ((openLink flow token : Action σ ι τ FlowState).perform w).2.store m' ∧
      Opens m flow token w.now ((openLink flow token : Action σ ι τ FlowState).perform w).1 m' := by
  cases hc : m.challenges.get? flow with
  | none =>
    rw [perform_of_error (openLink_unknown h hc token)]
    exact ⟨m, h, .unknown hc⟩
  | some c =>
    obtain ⟨acc, hf⟩ := Finds.of_intact (Backend.intact h) hc
    by_cases htoken : c.token = token
    · subst htoken
      rw [perform_congr (openLink_rightToken h hf)]
      cases hs : c.state with
      | completed =>
        -- a completed flow is shown as long as it speaks for its address
        cases hvouches : c.vouchesFor acc.record with
        | true => exact ⟨m, h, .shown hf rfl (.inl ⟨hs, hvouches⟩)⟩
        | false =>
          simp only [Bool.false_eq_true, if_false]
          rw [perform_of_error (expiredFlow_finds h hf)]
          exact ⟨m, h, .expired hf rfl (.inl ⟨hs, hvouches⟩)⟩
      | active =>
        have hact := Challenge.isActive_iff.mpr hs
        cases hlive : c.isLive w.now with
        | true => exact ⟨m, h, .shown hf rfl (.inr hlive)⟩
        | false =>
          obtain ⟨w', m', hrun, hshows, hsets⟩ := expireElapsed_finds (ι := ι) (τ := τ)
            (α := FlowState) h hf hact
          simp only [Bool.false_eq_true, if_false]
          rw [perform_of_error hrun]
          exact ⟨m', hshows, .elapsed hf rfl hact hlive hsets⟩
      | expired =>
        simp only
        rw [perform_of_error (expiredFlow_finds h hf)]
        exact ⟨m, h, .expired hf rfl (.inr hs)⟩
    · rw [perform_of_error (openLink_wrongToken h hf htoken)]
      exact ⟨m, h, .wrongToken hf htoken⟩

/-! ## Codes -/

theorem Finds.amend_self (hi : m.Intact) (hf : Finds m flow c acc) :
    acc.amend ⟨c, acc.record⟩ = acc := by
  have hsame : ∀ d ∈ acc.history, (if d.id = c.id then c else d) = d := by
    intro d hd
    split
    · rename_i hid
      rw [hf.eq_of_id hi hd hid]
    · rfl
  rw [Account.amend, List.map_congr_left hsame, List.map_id']

theorem Finds.id (hi : m.Intact) (hf : Finds m flow c acc) : acc.record.id = c.address :=
  hi.id_of_account hf.account

-- A right code for a challenge that was completed before.
theorem acceptCode_completed (h : Backend.Shows w.store m) (hf : Finds m flow c acc)
    (hs : c.state = .completed) :
    ∃ w' m', (acceptCode flow : Action σ ι τ SubmitOutcome) w =
        (if c.vouchesFor acc.record then .ok (.alreadyVerified acc.record) w'
          else .error (expiredError ⟨c, acc.record⟩ (c.expiredReason.getD .addressChanged)) w') ∧
      Backend.Shows w'.store m' ∧ m.Sets c.address acc m' := by
  obtain ⟨s, m', hcomplete, hshows, hsets⟩ :=
    Backend.complete_known h hf.challenge hf.account w.now
  have hq : (Attempt.complete ⟨c, acc.record⟩ w.now) =
      if c.vouchesFor acc.record then (.alreadyCompleted acc.record, ⟨c, acc.record⟩)
      else (.expired c, ⟨c, acc.record⟩) := by
    simp only [Attempt.complete, hs]
  have hsets' : m.Sets c.address acc m' := by
    rw [hq] at hsets
    rw [← hf.amend_self (Backend.intact h)]
    cases hvouches : c.vouchesFor acc.record with
    | true =>
      rw [hvouches] at hsets
      exact hsets
    | false =>
      rw [hvouches] at hsets
      exact hsets
  refine ⟨{ w with store := s }, m', ?_, hshows, hsets'⟩
  rw [acceptCode, bind_of_ok now_run, bind_of_ok (changeStore_of_ok hcomplete), hq]
  cases hvouches : c.vouchesFor acc.record with
  | true => rfl
  | false =>
    have hget := MemoryStore.get?_of_account? hsets'.get?
    exact expiredFlow_run (w := { w with store := s }) hshows hget

-- A right code for a challenge that is still live.
theorem acceptCode_live (h : Backend.Shows w.store m) (hf : Finds m flow c acc)
    (hact : c.isActive = true) (hlive : c.isLive w.now = true) :
    ∃ m', Backend.Shows ((acceptCode flow : Action σ ι τ SubmitOutcome).perform w).2.store m' ∧
      Submits m flow c.code w.now
        ((acceptCode flow : Action σ ι τ SubmitOutcome).perform w).1 m' := by
  obtain ⟨s, m', hcomplete, hshows, hsets⟩ :=
    Backend.complete_known h hf.challenge hf.account w.now
  have hs := Challenge.isActive_iff.mp hact
  have helapsed : (c.tokenElapsed w.now || c.flowElapsed w.now) = false := by
    simp only [Challenge.isLive, Bool.and_eq_true, Bool.not_eq_true'] at hlive
    rw [hlive.1.2, hlive.2]
    rfl
  have hid : c.address = acc.record.id := (hf.id (Backend.intact h)).symm
  rw [acceptCode, perform_congr (bind_of_ok now_run),
    perform_congr (bind_of_ok (changeStore_of_ok hcomplete))]
  by_cases hvalue : c.value = acc.record.value
  · have hq : Attempt.complete ⟨c, acc.record⟩ w.now =
        (.completed (acc.record.markVerified w.now),
          ⟨c.markCompleted w.now, acc.record.markVerified w.now⟩) := by
      simp [Attempt.complete, hs, helapsed, hid, hvalue]
    rw [hq] at hsets ⊢
    exact ⟨m', hshows, .verified hf hact hlive rfl hvalue hsets⟩
  · have hq : Attempt.complete ⟨c, acc.record⟩ w.now =
        (.expired (c.expire .addressChanged), ⟨c.expire .addressChanged, acc.record⟩) := by
      simp [Attempt.complete, hs, helapsed, hvalue]
    rw [hq] at hsets ⊢
    have hget := MemoryStore.get?_of_account? hsets.get?
    rw [← c.address_expire .addressChanged] at hget
    have hrun := expiredFlow_run (w := { w with store := s }) (α := SubmitOutcome) hshows hget
    rw [Attempt.expire_of_isActive hact] at hrun hsets ⊢
    have hend : Submits m flow c.code w.now (.error
        (expiredError ⟨c.expire .addressChanged, acc.record⟩ .addressChanged)) m' :=
      .changed hf hact hlive rfl hvalue (by rw [Attempt.expire_of_isActive hact]; exact hsets)
    rw [perform_of_error hrun]
    rw [Attempt.expire_of_isActive hact] at hend
    exact ⟨m', hshows, hend⟩

-- A wrong code for a challenge that is still live.
theorem rejectCode_live (h : Backend.Shows w.store m) (hf : Finds m flow c acc)
    (hact : c.isActive = true) (hlive : c.isLive w.now = true) {code : String}
    (hcode : code ≠ c.code) :
    ∃ m', Backend.Shows ((rejectCode flow : Action σ ι τ SubmitOutcome).perform w).2.store m' ∧
      Submits m flow code w.now
        ((rejectCode flow : Action σ ι τ SubmitOutcome).perform w).1 m' := by
  obtain ⟨s, m', hfail, hshows, hsets⟩ :=
    Backend.failAttempt_known h hf.challenge hf.account w.now
  rw [rejectCode, perform_congr (bind_of_ok now_run),
    perform_congr (bind_of_ok (changeStore_of_ok hfail))]
  cases hout : (Attempt.fail ⟨c, acc.record⟩ w.now).1 with
  | remaining left => exact ⟨m', hshows, .counted hf hact hlive hcode hout hsets⟩
  | exhausted => exact ⟨m', hshows, .spent hf hact hlive hcode hout hsets⟩
  | notActive state =>
    -- only a challenge that has ended is answered for so
    rcases Attempt.fail_cases ⟨c, acc.record⟩ w.now hact with hfail | ⟨left, hfail⟩ | hfail
    all_goals
      rw [hfail] at hout
      cases hout

/-- Entering a code ends in one of these ways. -/
theorem submit_submits (h : Backend.Shows w.store m) (flow : FlowId) (code : String) :
    ∃ m', Backend.Shows ((submit flow code : Action σ ι τ SubmitOutcome).perform w).2.store m' ∧
      Submits m flow code w.now
        ((submit flow code : Action σ ι τ SubmitOutcome).perform w).1 m' := by
  cases hc : m.challenges.get? flow with
  | none =>
    have hrun : (submit flow code : Action σ ι τ SubmitOutcome) w = .error .notFound w := by
      rw [submit, bind_of_error (challenge_of_unknown h hc)]
    rw [perform_of_error hrun]
    exact ⟨m, h, .unknown hc⟩
  | some c =>
    obtain ⟨acc, hf⟩ := Finds.of_intact (Backend.intact h) hc
    rw [submit, perform_congr (bind_of_ok (challenge_of_known h hc))]
    simp only [Secret.verify_eq]
    cases hs : c.state with
    | expired =>
      simp only
      by_cases hreason : c.expiredReason = some .attemptsExhausted
      · rw [if_pos hreason]
        exact ⟨m, h, .exhausted hf hs hreason⟩
      · rw [if_neg hreason, perform_of_error (expiredFlow_finds h hf)]
        exact ⟨m, h, .expired hf hs hreason⟩
    | completed =>
      -- nothing is counted any more, so a wrong code changes nothing
      simp only
      by_cases hcode : code = c.code
      · simp only [hcode, decide_true, if_true]
        obtain ⟨w', m', hrun, hshows, hsets⟩ := acceptCode_completed (ι := ι) (τ := τ) h hf hs
        cases hvouches : c.vouchesFor acc.record with
        | true =>
          rw [hvouches, if_pos rfl] at hrun
          rw [perform_of_ok hrun]
          exact ⟨m', hshows, .alreadyVerified hf hs rfl hvouches hsets⟩
        | false =>
          rw [hvouches, if_neg Bool.false_ne_true] at hrun
          rw [perform_of_error hrun]
          exact ⟨m', hshows, .lapsed hf hs rfl hvouches hsets⟩
      · simp only [hcode, decide_false, Bool.false_eq_true, if_false]
        exact ⟨m, h, .wrongLate hf hs hcode⟩
    | active =>
      have hact := Challenge.isActive_iff.mpr hs
      simp only
      rw [perform_congr (bind_of_ok now_run)]
      -- whether there is time left is asked before the code is looked at
      cases hlive : c.isLive w.now with
      | false =>
        obtain ⟨w', m', hrun, hshows, hsets⟩ := expireElapsed_finds (ι := ι) (τ := τ)
          (α := SubmitOutcome) h hf hact
        simp only [Bool.not_false, if_true]
        rw [perform_of_error hrun]
        exact ⟨m', hshows, .elapsed hf hact hlive hsets⟩
      | true =>
        simp only [Bool.not_true, Bool.false_eq_true, if_false]
        by_cases hcode : code = c.code
        · simp only [hcode, decide_true, if_true]
          exact acceptCode_live h hf hact hlive
        · simp only [hcode, decide_false, Bool.false_eq_true, if_false]
          exact rejectCode_live h hf hact hlive hcode

/-! ## Sweeping -/

theorem mapM_expire_sweeps (now : Timestamp) {l : List Challenge}
    (h : Backend.Shows w.store m) (hl : ∀ c ∈ l, m.challenges.get? c.id ≠ none) :
    ∃ ended w' m', (l.mapM fun c =>
        (changeStore (VerificationStore.expire c.id .elapsed now) : Action σ ι τ Challenge)) w =
          .ok ended w' ∧
      Backend.Shows w'.store m' ∧ Sweeps now m m' := by
  induction l generalizing w m with
  | nil => exact ⟨[], w, m, rfl, h, .done⟩
  | cons c l ih =>
    have hi := Backend.intact h
    obtain ⟨c₀, hc₀⟩ := Option.ne_none_iff_exists'.mp (hl c List.mem_cons_self)
    obtain ⟨acc, hf⟩ := Finds.of_intact hi hc₀
    obtain ⟨s, m₁, hexpire, hshows₁, hsets₁⟩ :=
      Backend.expire_known h hf.challenge hf.account .elapsed now
    have hflows : ∀ id, m₁.flows id = m.flows id := by
      refine MemoryStore.flows_of_sets hi (Backend.intact hshows₁) hsets₁ ?_
      rw [MemoryStore.flows_amend, MemoryStore.flows,
        MemoryStore.history_of_account? hf.account]
    -- the rest of the list is still known
    have hl₁ : ∀ d ∈ l, m₁.challenges.get? d.id ≠ none := fun d hd hn =>
      hl d (List.mem_cons_of_mem _ hd)
        ((MemoryStore.unknown_iff_of_flows hi (Backend.intact hshows₁) hflows _).mp hn)
    obtain ⟨ended, w', m', hrun, hshows, hsweeps⟩ := ih (w := { w with store := s }) hshows₁ hl₁
    refine ⟨(Attempt.expire ⟨c₀, acc.record⟩ .elapsed now).challenge :: ended, w', m', ?_, hshows,
      .ends hf hsets₁ (Backend.intact hshows₁) hsweeps⟩
    rw [List.mapM_cons, bind_of_ok (changeStore_of_ok hexpire), bind_of_ok hrun]
    rfl

-- A sweep always comes to its end.
theorem sweep_sweeps (h : Backend.Shows w.store m) :
    ∃ n m', ((sweep : Action σ ι τ Nat).perform w).1 = .ok n ∧
      Backend.Shows ((sweep : Action σ ι τ Nat).perform w).2.store m' ∧
      Sweeps w.now m m' := by
  obtain ⟨all, hall, -, hmem⟩ := Backend.active_eq h
  have hl : ∀ c ∈ all.filter fun c => !c.isLive w.now, m.challenges.get? c.id ≠ none := by
    intro c hc
    rw [((hmem c).mp (List.mem_filter.mp hc).1).1]
    exact Option.some_ne_none c
  obtain ⟨ended, w', m', hrun, hshows, hsweeps⟩ := mapM_expire_sweeps w.now h hl
  refine ⟨(ended.filter fun c => c.state = .expired).length, m', ?_⟩
  have hsweep : (sweep : Action σ ι τ Nat) w =
      .ok (ended.filter fun c => c.state = .expired).length w' := by
    rw [sweep, bind_of_ok now_run, bind_of_ok (readStore_of_ok hall), bind_of_ok hrun]
    rfl
  rw [perform_of_ok hsweep]
  exact ⟨rfl, hshows, hsweeps⟩

end Engine

end Vouch
