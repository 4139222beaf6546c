import Vouch.Proofs.Engine.Answer

/-!
# What an answer depends on

Opening a link and entering a code look at one challenge and its address, and change no more than
these two.  What they answer and what they leave behind is a function of the two and of the time,
given here; the lemmas say that the engine computes it.
-/

namespace Vouch

namespace Challenge

variable {c : Challenge}

theorem active_of_isLive {now : Timestamp} (h : c.isLive now = true) : c.state = .active := by
  simp only [isLive, Bool.and_eq_true] at h
  exact isActive_iff.mp h.1.1

-- A challenge that speaks for an address has been completed.
theorem completed_of_vouchesFor {a : Address} (h : c.vouchesFor a = true) :
    c.state = .completed := by
  simp only [vouchesFor, Bool.and_eq_true, decide_eq_true_eq] at h
  exact h.1.1.1

end Challenge

namespace Attempt

variable {α : Type}

/-- The answer for a challenge that has expired, or does not speak for its address any more. -/
def lapsed (p : Attempt) : Except VerificationError α × Attempt :=
  (.error (Engine.expiredError p (p.challenge.expiredReason.getD .addressChanged)), p)

/-- What opening the link comes to. -/
def opened (p : Attempt) (now : Timestamp) : Except VerificationError FlowState × Attempt :=
  match p.challenge.state with
  | .completed =>
    if p.challenge.vouchesFor p.address then (.ok (.ofChallenge p.challenge now), p) else p.lapsed
  | .active =>
    if p.challenge.isLive now then (.ok (.ofChallenge p.challenge now), p)
    else (p.expire .elapsed now).lapsed
  | .expired => p.lapsed

/-- What a right code comes to. -/
def accepted (p : Attempt) (now : Timestamp) : Except VerificationError SubmitOutcome × Attempt :=
  match p.complete now with
  | (.completed a, q) => (.ok (.verified a), q)
  | (.alreadyCompleted a, q) => (.ok (.alreadyVerified a), q)
  | (.expired _, q) => q.lapsed

/-- What a wrong code comes to. -/
def rejected (p : Attempt) (now : Timestamp) : Except VerificationError SubmitOutcome × Attempt :=
  match p.fail now with
  | (.remaining left, q) => (.error (.invalidCode left), q)
  | (.exhausted, q) => (.error .attemptsExhausted, q)
  | (.notActive _, q) => q.lapsed

/-- What entering a code comes to. -/
def submitted (p : Attempt) (code : String) (now : Timestamp) :
    Except VerificationError SubmitOutcome × Attempt :=
  match p.challenge.state with
  | .expired =>
    if p.challenge.expiredReason = some .attemptsExhausted then (.error .attemptsExhausted, p)
    else p.lapsed
  | .completed =>
    if code = p.challenge.code then p.accepted now
    else (.error (.invalidCode p.challenge.attemptsRemaining), p)
  | .active =>
    if !p.challenge.isLive now then (p.expire .elapsed now).lapsed
    else if code = p.challenge.code then p.accepted now
    else p.rejected now

variable {p : Attempt} {now : Timestamp}

/-! ## Neither function writes more than attempts do -/

theorem accepted_amends (p : Attempt) (now : Timestamp) : p.Amends (p.accepted now).2 := by
  have hq := p.complete_amends now
  rw [accepted]
  generalize p.complete now = result at hq
  obtain ⟨completion, q⟩ := result
  cases completion <;> exact hq

theorem rejected_amends (p : Attempt) (now : Timestamp) : p.Amends (p.rejected now).2 := by
  have hq := p.fail_amends now
  rw [rejected]
  generalize p.fail now = result at hq
  obtain ⟨failure, q⟩ := result
  cases failure <;> exact hq

theorem opened_amends (p : Attempt) (now : Timestamp) : p.Amends (p.opened now).2 := by
  rw [opened]
  cases p.challenge.state with
  | completed =>
    dsimp only
    split <;> exact .refl p
  | active =>
    dsimp only
    split
    · exact .refl p
    · exact p.expire_amends now .elapsed
  | expired => exact .refl p

theorem submitted_amends (p : Attempt) (code : String) (now : Timestamp) :
    p.Amends (p.submitted code now).2 := by
  rw [submitted]
  cases p.challenge.state with
  | expired =>
    dsimp only
    split <;> exact .refl p
  | completed =>
    dsimp only
    split
    · exact p.accepted_amends now
    · exact .refl p
  | active =>
    dsimp only
    split
    · exact p.expire_amends now .elapsed
    split
    · exact p.accepted_amends now
    · exact p.rejected_amends now

/-! ## The two functions case by case -/

theorem opened_of_live (h : p.challenge.isLive now = true) :
    p.opened now = (.ok (.ofChallenge p.challenge now), p) := by
  simp only [opened, Challenge.active_of_isLive h, h, if_true]

-- What has run out of time is answered for so, whatever was asked.
theorem lapsed_of_elapsed {α : Type} (hact : p.challenge.isActive = true) :
    (p.expire .elapsed now).lapsed (α := α) =
      (.error (Engine.expiredError (p.expire .elapsed now) .elapsed), p.expire .elapsed now) := by
  rw [lapsed, expire_elapsed p now hact, expire_of_isActive hact]
  rfl

-- Once the time has run out, the link and every code have one answer.
theorem opened_of_elapsed (hact : p.challenge.isActive = true)
    (h : p.challenge.isLive now = false) : p.opened now = (p.expire .elapsed now).lapsed := by
  simp only [opened, Challenge.isActive_iff.mp hact, h, Bool.false_eq_true, if_false]

theorem submitted_of_elapsed (hact : p.challenge.isActive = true)
    (h : p.challenge.isLive now = false) (code : String) :
    p.submitted code now = (p.expire .elapsed now).lapsed := by
  simp only [submitted, Challenge.isActive_iff.mp hact, h, Bool.not_false, if_true]

theorem complete_of_vouches (h : p.challenge.vouchesFor p.address = true) :
    p.complete now = (.alreadyCompleted p.address, p) := by
  simp only [complete, Challenge.completed_of_vouchesFor h, h, if_true]

theorem complete_of_not_vouches (hs : p.challenge.state = .completed)
    (h : p.challenge.vouchesFor p.address = false) :
    p.complete now = (.expired p.challenge, p) := by
  simp only [complete, hs, h, Bool.false_eq_true, if_false]

theorem complete_of_live (h : p.challenge.isLive now = true)
    (haddress : p.challenge.address = p.address.id) (hvalue : p.challenge.value = p.address.value) :
    p.complete now = (.completed (p.address.markVerified now),
      ⟨p.challenge.markCompleted now, p.address.markVerified now⟩) := by
  simp only [Challenge.isLive, Bool.and_eq_true, Bool.not_eq_true'] at h
  simp [complete, Challenge.isActive_iff.mp h.1.1, h.1.2, h.2, haddress, hvalue]

end Attempt

namespace Engine

open Vouch.Action

variable {σ ι τ α : Type} [VerificationStore σ] [Backend σ] {w : World σ ι τ} {m : MemoryStore}
  {flow : FlowId} {c : Challenge} {acc : Account}

/-- The action answers so, and leaves a challenge and its address behind so. -/
def Yields (x : Action σ ι τ α) (w : World σ ι τ) (m : MemoryStore) (c : Challenge) (acc : Account)
    (out : Except VerificationError α × Attempt) : Prop :=
  ∃ s m', x.perform w = (out.1, { w with store := s }) ∧ Backend.Shows s m' ∧
    m.Sets c.address (acc.amend out.2) m'

-- An action that changes nothing.
theorem yields_of_unchanged (h : Backend.Shows w.store m) (hf : Finds m flow c acc)
    {x : Action σ ι τ α} {answer : Except VerificationError α} (hrun : x.perform w = (answer, w)) :
    Yields x w m c acc (answer, ⟨c, acc.record⟩) := by
  refine ⟨w.store, m, hrun, h, ?_⟩
  rw [hf.amend_self (Backend.intact h)]
  exact MemoryStore.sets_self hf.account

theorem expiredFlow_run_lapsed (h : Backend.Shows w.store m) (hf : Finds m flow c acc) :
    (expiredFlow c : Action σ ι τ α).perform w = ((Attempt.mk c acc.record).lapsed.1, w) :=
  perform_of_error (expiredFlow_finds h hf)

-- What is answered for a challenge that was changed before.
theorem expiredFlow_changed {s : σ} {m' : MemoryStore} {q : Attempt} (h : Backend.Shows s m')
    (hq : q.challenge.address = c.address) (hsets : m.Sets c.address (acc.amend q) m') :
    (expiredFlow q.challenge : Action σ ι τ α).perform { w with store := s } =
      (q.lapsed.1, { w with store := s }) := by
  have hget := MemoryStore.get?_of_account? hsets.get?
  rw [← hq] at hget
  exact perform_of_error (expiredFlow_run (w := { w with store := s }) h hget)

theorem expireElapsed_yields (h : Backend.Shows w.store m) (hf : Finds m flow c acc) :
    Yields (expireElapsed c : Action σ ι τ α) w m c acc
      (Attempt.expire ⟨c, acc.record⟩ .elapsed w.now).lapsed := by
  have hid := (Backend.intact h).id_of_challenge hf.challenge
  obtain ⟨s, m', hexpire, hshows, hsets⟩ :=
    Backend.expire_known (f := c.id) h (by rw [hid]; exact hf.challenge) hf.account .elapsed w.now
  have hq := Attempt.expire_amends ⟨c, acc.record⟩ w.now .elapsed
  refine ⟨s, m', ?_, hshows, hsets⟩
  rw [expireElapsed, perform_congr (bind_of_ok now_run),
    perform_congr (bind_of_ok (changeStore_of_ok hexpire))]
  exact expiredFlow_changed hshows hq.challenge.address hsets

/-! ## Links -/

/-- Opening a link with its token. -/
theorem openLink_yields (h : Backend.Shows w.store m) (hf : Finds m flow c acc) :
    Yields (openLink flow c.token : Action σ ι τ FlowState) w m c acc
      (Attempt.opened ⟨c, acc.record⟩ w.now) := by
  simp only [Yields, perform_congr (openLink_rightToken h hf), Attempt.opened]
  cases c.state with
  | completed =>
    simp only
    split
    · exact yields_of_unchanged h hf rfl
    · exact yields_of_unchanged h hf (expiredFlow_run_lapsed h hf)
  | active =>
    simp only
    split
    · exact yields_of_unchanged h hf rfl
    · exact expireElapsed_yields h hf
  | expired => exact yields_of_unchanged h hf (expiredFlow_run_lapsed h hf)

-- A link that is shown is only looked at.
theorem openLink_of_ok (h : Backend.Shows w.store m) (hf : Finds m flow c acc) {state : FlowState}
    (hok : (Attempt.opened ⟨c, acc.record⟩ w.now).1 = .ok state) :
    (openLink flow c.token : Action σ ι τ FlowState).perform w = (.ok state, w) := by
  rw [← hok, perform_congr (openLink_rightToken h hf)]
  simp only [Attempt.opened] at hok ⊢
  cases hs : c.state with
  | completed =>
    simp only [hs] at hok ⊢
    split at hok
    · rename_i hv
      rw [if_pos hv, if_pos hv]
      rfl
    · cases hok
  | active =>
    simp only [hs] at hok ⊢
    split at hok
    · rename_i hl
      rw [if_pos hl, if_pos hl]
      rfl
    · cases hok
  | expired =>
    simp only [hs] at hok
    cases hok

/-! ## Codes -/

theorem acceptCode_yields (h : Backend.Shows w.store m) (hf : Finds m flow c acc) :
    Yields (acceptCode flow : Action σ ι τ SubmitOutcome) w m c acc
      (Attempt.accepted ⟨c, acc.record⟩ w.now) := by
  obtain ⟨s, m', hcomplete, hshows, hsets⟩ :=
    Backend.complete_known h hf.challenge hf.account w.now
  have hq := Attempt.complete_amends ⟨c, acc.record⟩ w.now
  have hended : ∀ d q, Attempt.complete ⟨c, acc.record⟩ w.now = (.expired d, q) →
      d = q.challenge := by
    intro d q he
    simp only [Attempt.complete] at he
    split at he
    · split at he <;> cases he
      rfl
    · cases he
      rfl
    · split at he
      · cases he
        rfl
      · split at he <;> cases he
        rfl
  simp only [Yields, acceptCode, perform_congr (bind_of_ok now_run),
    perform_congr (bind_of_ok (changeStore_of_ok hcomplete)), Attempt.accepted]
  generalize Attempt.complete ⟨c, acc.record⟩ w.now = result at hsets hq hended
  obtain ⟨out, q⟩ := result
  cases out with
  | completed a => exact ⟨s, m', rfl, hshows, hsets⟩
  | alreadyCompleted a => exact ⟨s, m', rfl, hshows, hsets⟩
  | expired d =>
    rw [hended d q rfl]
    exact ⟨s, m', expiredFlow_changed hshows hq.challenge.address hsets, hshows, hsets⟩

theorem rejectCode_yields (h : Backend.Shows w.store m) (hf : Finds m flow c acc)
    (hact : c.isActive = true) :
    Yields (rejectCode flow : Action σ ι τ SubmitOutcome) w m c acc
      (Attempt.rejected ⟨c, acc.record⟩ w.now) := by
  obtain ⟨s, m', hfail, hshows, hsets⟩ :=
    Backend.failAttempt_known h hf.challenge hf.account w.now
  simp only [Yields, rejectCode, perform_congr (bind_of_ok now_run),
    perform_congr (bind_of_ok (changeStore_of_ok hfail)), Attempt.rejected]
  rcases Attempt.fail_cases ⟨c, acc.record⟩ w.now hact with he | ⟨left, he⟩ | he
  all_goals
    rw [he] at hsets ⊢
    exact ⟨s, m', rfl, hshows, hsets⟩

/-- Entering a code. -/
theorem submit_yields (h : Backend.Shows w.store m) (hf : Finds m flow c acc) (code : String) :
    Yields (submit flow code : Action σ ι τ SubmitOutcome) w m c acc
      (Attempt.submitted ⟨c, acc.record⟩ code w.now) := by
  simp only [Yields, submit, perform_congr (bind_of_ok (challenge_of_known h hf.challenge)),
    Secret.verify_eq, decide_eq_true_eq, Attempt.submitted]
  cases hs : c.state with
  | expired =>
    simp only
    split
    · exact yields_of_unchanged h hf rfl
    · exact yields_of_unchanged h hf (expiredFlow_run_lapsed h hf)
  | completed =>
    simp only
    split
    · exact acceptCode_yields h hf
    · exact yields_of_unchanged h hf rfl
  | active =>
    -- whether there is time left is asked before the code is looked at
    simp only [perform_congr (bind_of_ok now_run)]
    split
    · exact expireElapsed_yields h hf
    · split
      · exact acceptCode_yields h hf
      · exact rejectCode_yields h hf (Challenge.isActive_iff.mpr hs)

/-! ## Looking at a flow -/

theorem resume_run (h : Backend.Shows w.store m) (hf : Finds m flow c acc) :
    (resume flow : Action σ ι τ FlowState).perform w =
      (.ok (.againstAddress c acc.record w.now), w) := by
  rw [resume, perform_congr (bind_of_ok (challenge_of_known h hf.challenge)),
    perform_congr (bind_of_ok (addressOf_run h hf.address)), perform_congr (bind_of_ok now_run)]
  rfl

theorem expiredContext_run (h : Backend.Shows w.store m) (hf : Finds m flow c acc)
    {reason : ExpiredReason} (hphase : c.phaseFor acc.record w.now = .expired reason) :
    (expiredContext flow : Action σ ι τ ExpiredContext).perform w =
      (.ok (.ofChallenge c acc.record reason), w) := by
  rw [expiredContext, perform_congr (bind_of_ok (challenge_of_known h hf.challenge)),
    perform_congr (bind_of_ok (addressOf_run h hf.address)), perform_congr (bind_of_ok now_run),
    hphase]
  rfl

end Engine

end Vouch
