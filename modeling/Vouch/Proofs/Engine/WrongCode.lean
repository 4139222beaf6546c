import Vouch.Proofs.Engine.Agreement
import Vouch.Proofs.Engine.Attempts
import Vouch.Proofs.Engine.Trust

/-!
# Wrong codes for flows that have expired

A flow can have expired in three ways: it was ended and the reason was written down, its time has
run out and nobody has written that down, or it was completed and its slot has lost the value
since.  In the first two a wrong code is answered like the right one, with the reason.  In the third
it is answered as a wrong code, although the right code, the link and whoever resumes the flow are
told that the address has changed.  It is never counted.
-/

namespace Vouch

-- Nothing is completed by ending it.
theorem Challenge.completed_of_expire {c : Challenge} {reason : ExpiredReason}
    (h : (c.expire reason).state = .completed) : c.state = .completed := by
  rw [expire] at h
  split at h
  · cases h
  · exact h

namespace Attempt

variable {p : Attempt} {now : Timestamp} {reason : ExpiredReason}

-- Nothing is left to do for what has ended.
theorem expire_of_ended (h : p.challenge.isActive = false) (reason : ExpiredReason)
    (now : Timestamp) : p.expire reason now = p :=
  (p.expire_amends now reason).ended h

-- Whatever way the flow has expired, to end it again gives the same reason.
theorem Stands.expire (h : p.Stands now (.expired reason)) :
    (p.expire .elapsed now).Stands now (.expired reason) := by
  cases h with
  | elapsed hact _ =>
    rw [expire_elapsed p now hact, expire_of_isActive hact]
    exact .ended rfl rfl
  | rebound hs hvouches hnone =>
    rw [expire_of_ended (by simp [Challenge.isActive, hs])]
    exact .rebound hs hvouches hnone
  | ended hs hreason =>
    rw [expire_of_ended (by simp [Challenge.isActive, hs])]
    exact .ended hs hreason

-- An expired flow that was completed has lost its address.
theorem Stands.rebound_of_completed (h : p.Stands now (.expired reason))
    (hs : p.challenge.state = .completed) : reason = .addressChanged := by
  cases h with
  | elapsed hact =>
    rw [Challenge.isActive_iff.mp hact] at hs
    cases hs
  | rebound => rfl
  | ended hexpired =>
    rw [hexpired] at hs
    cases hs

/-- What a wrong code is answered where a flow has expired. -/
def refused (p : Attempt) (reason : ExpiredReason) : VerificationError :=
  if p.challenge.state = .completed then .invalidCode p.challenge.attemptsRemaining
  else if reason = .attemptsExhausted then .attemptsExhausted
  else Engine.expiredError p reason

-- Only where a flow was completed the code is looked at before it is seen to have expired.
theorem Stands.submitted_wrong (h : p.Stands now (.expired reason)) {code : String}
    (hcode : code ≠ p.challenge.code) :
    p.submitted code now =
      (.error ((p.expire .elapsed now).refused reason), p.expire .elapsed now) := by
  cases h with
  | elapsed hact hlive =>
    have hstate : (p.expire .elapsed now).challenge.state = .expired := by
      rw [challenge_expire, expire_of_isActive hact]
    rw [submitted_of_elapsed hact hlive, lapsed_of_elapsed hact, refused]
    simp [hstate]
  | rebound hs hvouches hnone =>
    rw [expire_of_ended (by simp [Challenge.isActive, hs])]
    simp only [submitted, hs, if_neg hcode, refused, if_true]
  | ended hs hreason =>
    rw [expire_of_ended (by simp [Challenge.isActive, hs])]
    by_cases hexhausted : reason = .attemptsExhausted
    · subst hexhausted
      simp [submitted, hs, hreason, refused]
    · simp [submitted, hs, hreason, refused, hexhausted, lapsed]

end Attempt

-- What is found after a change of one challenge.
theorem MemoryStore.get?_amended {m m' : MemoryStore} {flow : FlowId} {c : Challenge}
    {acc : Account} (hi : m.Intact) (hi' : m'.Intact) (hf : Engine.Finds m flow c acc) {p : Attempt}
    (hp : c.SameIssue p.challenge) (hsets : m.Sets c.address (acc.amend p) m') (f : FlowId) :
    m'.challenges.get? f = if f = flow then some p.challenge else m.challenges.get? f := by
  cases hd : m.challenges.get? f with
  | none =>
    have hother : f ≠ flow := by
      rintro rfl
      rw [hf.challenge] at hd
      cases hd
    rw [if_neg hother, unknown_of_amend hi hi' hf hsets]
    exact hd
  | some d =>
    rw [get?_of_amend hi hi' hf hp hsets hd]
    split <;> rfl

/-- What is left of the bound on wrong codes for a flow, if the flow is known. -/
def World.attempts? {σ ι τ : Type} [VerificationStore σ] (w : World σ ι τ) (flow : FlowId) :
    Except StoreError (Option (Option UInt32)) :=
  (VerificationStore.challenge? flow w.store).map (Option.map fun c => c.attemptsRemaining)

namespace Engine

open Vouch.Action

variable {σ ι τ : Type} [VerificationStore σ] [Backend σ] {e : Engine} {w : World σ ι τ}
  {m m' : MemoryStore} {flow : FlowId} {c : Challenge} {acc : Account}

-- A code for what has ended is only compared.
theorem submit_ended (h : Backend.Shows w.store m) (hf : Finds m flow c acc)
    (hended : c.isActive = false) {code : String} (hcode : code ≠ c.code) :
    ((submit flow code : Action σ ι τ SubmitOutcome).perform w).2 = w := by
  rw [submit, perform_congr (bind_of_ok (challenge_of_known h hf.challenge))]
  simp only [Secret.verify_eq, decide_eq_true_eq]
  cases hs : c.state with
  | active =>
    rw [Challenge.isActive_iff.mpr hs] at hended
    cases hended
  | completed =>
    simp only [if_neg hcode]
    rfl
  | expired =>
    simp only
    split
    · rfl
    · rw [expiredFlow_run_lapsed h hf]

/-- A wrong code for a flow that has expired is answered with the reason that resuming the flow
names, and with the context that is given for it afterwards; but if the flow was completed, it is
answered as a wrong code.  It is not counted, and no address gains or loses trust: an end that was
not written down yet is written down, and nothing else changes. -/
theorem submit_wrong_of_expired [IdentityStore ι] [MailTransport τ] (h : e.Reachable w)
    (hc : VerificationStore.challenge? flow w.store = .ok (some c)) {state : FlowState}
    {reason : ExpiredReason}
    (hresume : (resume flow : Action σ ι τ FlowState).perform w = (.ok state, w))
    (hphase : state.phase = .expired reason) {code : String} (hcode : code ≠ c.code) :
    ∃ error s, (submit flow code : Action σ ι τ SubmitOutcome).perform w =
        (.error error, { w with store := s }) ∧
      (c.state = .completed → reason = .addressChanged ∧
        error = .invalidCode c.attemptsRemaining) ∧
      (c.state ≠ .completed → reason = .attemptsExhausted → error = .attemptsExhausted) ∧
      (c.state ≠ .completed → reason ≠ .attemptsExhausted → ∃ context,
        error = .expiredFlow context ∧ context.reason = reason ∧
        (expiredContext flow : Action σ ι τ ExpiredContext).perform { w with store := s } =
          (.ok context, { w with store := s })) ∧
      (∀ f, World.attempts? { w with store := s } f = w.attempts? f) ∧
      (∀ id, World.Trusts { w with store := s } id ↔ w.Trusts id) ∧
      (∀ f, VerificationStore.challenge? f s =
        if f = flow then .ok (some (c.expire .elapsed))
        else VerificationStore.challenge? f w.store) ∧
      (c.isActive = false → s = w.store) := by
  obtain ⟨m, hshows, hsound⟩ := h.sound
  rw [Backend.challenge?_eq hshows] at hc
  have hget := Except.ok.inj hc
  obtain ⟨acc, hf⟩ := Finds.of_intact (Backend.intact hshows) hget
  obtain ⟨phase, hstands⟩ := (hsound hf).stands w.now
  -- where the attempt stands is what resuming the flow shows
  have hexpired : phase = .expired reason := by
    rw [resume_run hshows hf] at hresume
    cases hresume
    exact hstands.phaseFor.symm.trans hphase
  subst hexpired
  let p : Attempt := ⟨c, acc.record⟩
  obtain ⟨s, m', hperform, hshows', hsets⟩ := submit_yields (ι := ι) (τ := τ) hshows hf code
  rw [hstands.submitted_wrong hcode] at hperform hsets
  have hamends : p.Amends (p.expire .elapsed w.now) := p.expire_amends w.now .elapsed
  have hchallenge : (p.expire .elapsed w.now).challenge = c.expire .elapsed :=
    p.challenge_expire w.now .elapsed
  have hstate : c.state ≠ .completed → (p.expire .elapsed w.now).challenge.state ≠ .completed :=
    fun hs => hchallenge ▸ mt Challenge.completed_of_expire hs
  have hfound : ∀ f, VerificationStore.challenge? f s =
      if f = flow then .ok (some (c.expire .elapsed))
      else VerificationStore.challenge? f w.store := by
    intro f
    rw [Backend.challenge?_eq hshows, Backend.challenge?_eq hshows',
      MemoryStore.get?_amended (Backend.intact hshows) (Backend.intact hshows') hf
        hamends.challenge hsets, hchallenge]
    split <;> rfl
  refine ⟨_, s, hperform, fun hs => ?_, fun hs hreason => ?_, fun hs hreason => ?_, fun f => ?_,
    fun id => ?_, hfound, fun hended => ?_⟩
  · have hp : p.expire .elapsed w.now = p :=
      Attempt.expire_of_ended (by simp [p, Challenge.isActive, hs]) .elapsed w.now
    refine ⟨hstands.rebound_of_completed hs, ?_⟩
    rw [hp, Attempt.refused, if_pos hs]
  · rw [Attempt.refused, if_neg (hstate hs), if_pos hreason]
  · have hf' := hf.after (Backend.intact hshows) (Backend.intact hshows') hamends hsets
    refine ⟨.ofChallenge _ _ reason, ?_, rfl,
      expiredContext_run (w := { w with store := s }) hshows' hf' hstands.expire.phaseFor⟩
    rw [Attempt.refused, if_neg (hstate hs), if_neg hreason]
    rfl
  · simp only [World.attempts?, hfound f]
    split
    · rename_i hflow
      rw [hflow, Backend.challenge?_eq hshows, hget]
      simp only [Except.map, Option.map_some, Challenge.attemptsRemaining_expire]
    · rfl
  · rw [trusts_iff hshows, trusts_iff (w := { w with store := s }) hshows']
    exact trusts_of_expire hf hsets id
  · have hsame := submit_ended (w := w) (ι := ι) (τ := τ) hshows hf hended hcode
    rw [hperform] at hsame
    exact congrArg World.store hsame

end Engine

namespace Sample

/-- A flow whose time has run out answers a wrong code with that, and one that was completed before
the address was edited answers it as a wrong code, although it reads as expired. -/
theorem wrongCode_for_expired :
    (∃ context s, (Engine.submit (drawnAt .flow 16) "no").perform overdue =
        (.error (.expiredFlow context), { overdue with store := s }) ∧
      context.reason = .elapsed) ∧
    ∃ left s, (Engine.submit (drawnAt .flow 16) "no").perform moved =
        (.error (.invalidCode left), { moved with store := s }) ∧
      ∀ f, World.attempts? { moved with store := s } f = moved.attempts? f := by
  constructor
  · obtain ⟨c, hc, hcode, hs⟩ : ∃ c,
        VerificationStore.challenge? (drawnAt .flow 16) overdue.store = .ok (some c) ∧
        "no" ≠ c.code ∧ c.state ≠ .completed := ⟨_, rfl, by decide, by decide⟩
    obtain ⟨state, hresume, hphase⟩ : ∃ state,
        (Engine.resume (drawnAt .flow 16)).perform overdue = (.ok state, overdue) ∧
        state.phase = .expired .elapsed := ⟨_, rfl, rfl⟩
    obtain ⟨error, s, hperform, -, -, hexpired, -⟩ :=
      Engine.submit_wrong_of_expired overdue_reachable hc hresume hphase hcode
    obtain ⟨context, rfl, hreason, -⟩ := hexpired hs (by decide)
    exact ⟨context, s, hperform, hreason⟩
  · obtain ⟨c, hc, hcode, hs⟩ : ∃ c,
        VerificationStore.challenge? (drawnAt .flow 16) moved.store = .ok (some c) ∧
        "no" ≠ c.code ∧ c.state = .completed := ⟨_, rfl, by decide, rfl⟩
    obtain ⟨state, hresume, hphase⟩ : ∃ state,
        (Engine.resume (drawnAt .flow 16)).perform moved = (.ok state, moved) ∧
        state.phase = .expired .addressChanged := ⟨_, rfl, rfl⟩
    obtain ⟨error, s, hperform, hcompleted, -, -, hleft, -⟩ :=
      Engine.submit_wrong_of_expired (verified_reachable.run moved_run) hc hresume hphase hcode
    obtain ⟨-, rfl⟩ := hcompleted hs
    exact ⟨_, s, hperform, hleft⟩

end Sample

end Vouch
