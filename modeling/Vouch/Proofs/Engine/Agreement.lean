import Vouch.Proofs.Engine.Explained
import Vouch.Proofs.Engine.Outcome
import Vouch.Proofs.Store.Steady

/-!
# Looking and acting agree

Where a flow stands is read without changing anything; a link and a code come to their answers by
other ways, and may write something down.  In a reachable world they say the same.
-/

namespace Vouch

namespace Attempt

/-- Where an attempt stands, and why. -/
inductive Stands (p : Attempt) (now : Timestamp) : FlowPhase → Prop where
  | live : p.challenge.isLive now = true → Stands p now .awaitingCode
  | elapsed : p.challenge.isActive = true → p.challenge.isLive now = false →
    Stands p now (.expired .elapsed)
  | vouching : p.challenge.vouchesFor p.address = true → Stands p now .completed
  -- Completed, but the slot has lost the value or the trust in it.
  | rebound : p.challenge.state = .completed → p.challenge.vouchesFor p.address = false →
    p.challenge.expiredReason = none → Stands p now (.expired .addressChanged)
  | ended {reason : ExpiredReason} : p.challenge.state = .expired →
    p.challenge.expiredReason = some reason → Stands p now (.expired reason)

variable {p : Attempt} {now : Timestamp} {phase : FlowPhase} {reason : ExpiredReason}

theorem Sound.stands (h : p.Sound) (now : Timestamp) : ∃ phase, p.Stands now phase := by
  cases hs : p.challenge.state with
  | active =>
    cases hlive : p.challenge.isLive now with
    | true => exact ⟨_, .live hlive⟩
    | false => exact ⟨_, .elapsed (Challenge.isActive_iff.mpr hs) hlive⟩
  | completed =>
    cases hvouches : p.challenge.vouchesFor p.address with
    | true => exact ⟨_, .vouching hvouches⟩
    | false =>
      refine ⟨_, .rebound hs hvouches (Classical.not_not.mp fun hreason => ?_)⟩
      rw [h.reason.mpr hreason] at hs
      cases hs
  | expired =>
    obtain ⟨reason, hreason⟩ := Option.ne_none_iff_exists'.mp (h.reason.mp hs)
    exact ⟨_, .ended hs hreason⟩

/-- Where an attempt stands is what is seen of it. -/
theorem Stands.phaseFor (h : p.Stands now phase) :
    p.challenge.phaseFor p.address now = phase := by
  cases h with
  | live h => simp [Challenge.phaseFor, Challenge.phase, Challenge.active_of_isLive h, h]
  | elapsed hact h => simp [Challenge.phaseFor, Challenge.phase, Challenge.isActive_iff.mp hact, h]
  | vouching h => simp [Challenge.phaseFor, Challenge.phase, Challenge.completed_of_vouchesFor h, h]
  | rebound hs h => simp [Challenge.phaseFor, Challenge.phase, hs, h]
  | ended hs h => simp [Challenge.phaseFor, Challenge.phase, hs, h]

theorem Stands.active (h : p.Stands now .awaitingCode) : p.challenge.isActive = true := by
  cases h with
  | live hlive => exact Challenge.isActive_iff.mpr (Challenge.active_of_isLive hlive)

/-! ## What is done where the attempt stands -/

theorem Stands.opened_live (h : p.Stands now .awaitingCode) :
    p.opened now = (.ok (.againstAddress p.challenge p.address now), p) := by
  have hphase := h.phaseFor
  cases h with
  | live h =>
    rw [opened_of_live h, FlowState.againstAddress, hphase, FlowState.ofChallenge]
    simp [Challenge.phase, Challenge.active_of_isLive h, h]

theorem Stands.opened_completed (h : p.Stands now .completed) :
    p.opened now = (.ok (.againstAddress p.challenge p.address now), p) := by
  have hphase := h.phaseFor
  cases h with
  | vouching h =>
    have hs := Challenge.completed_of_vouchesFor h
    rw [FlowState.againstAddress, hphase]
    simp only [opened, hs, h, if_true, FlowState.ofChallenge, Challenge.phase]

-- The answer names the reason, and what was written down gives the same one.
theorem Stands.opened_expired (h : p.Stands now (.expired reason)) :
    ∃ q, p.opened now = (.error (Engine.expiredError q reason), q) ∧ p.Amends q ∧
      q.Stands now (.expired reason) := by
  cases h with
  | elapsed hact hlive =>
    refine ⟨p.expire .elapsed now, ?_, p.expire_amends now .elapsed, ?_⟩
    · rw [opened_of_elapsed hact hlive, lapsed_of_elapsed hact]
    · rw [expire_elapsed p now hact, expire_of_isActive hact]
      exact .ended rfl rfl
  | rebound hs hvouches hreason =>
    refine ⟨p, ?_, .refl p, .rebound hs hvouches hreason⟩
    simp only [opened, hs, hvouches, Bool.false_eq_true, if_false, lapsed, hreason,
      Option.getD_none]
  | ended hs hreason =>
    refine ⟨p, ?_, .refl p, .ended hs hreason⟩
    simp only [opened, hs, lapsed, hreason, Option.getD_some]

-- The right code is taken, since a live challenge is for the value of its address.
theorem Stands.submitted_live (h : p.Stands now .awaitingCode) (hp : p.Sound) :
    p.submitted p.challenge.code now =
      (.ok (.verified (p.address.markVerified now)),
        ⟨p.challenge.markCompleted now, p.address.markVerified now⟩) := by
  cases h with
  | live h =>
    have hs := Challenge.active_of_isLive h
    have hcomplete := complete_of_live h hp.address (hp.value (Challenge.isActive_iff.mpr hs))
    simp only [submitted, hs, h, Bool.not_true, Bool.false_eq_true, if_false, if_true, accepted,
      hcomplete]

theorem Stands.submitted_completed (h : p.Stands now .completed) :
    p.submitted p.challenge.code now = (.ok (.alreadyVerified p.address), p) := by
  cases h with
  | vouching h =>
    simp only [submitted, Challenge.completed_of_vouchesFor h, if_true, accepted,
      complete_of_vouches h]

theorem Stands.submitted_exhausted (h : p.Stands now (.expired .attemptsExhausted)) :
    p.submitted p.challenge.code now = (.error .attemptsExhausted, p) := by
  cases h with
  | ended hs hreason => simp only [submitted, hs, hreason, if_true]

theorem Stands.submitted_expired (h : p.Stands now (.expired reason))
    (hreason : reason ≠ .attemptsExhausted) :
    ∃ q, p.submitted p.challenge.code now = (.error (Engine.expiredError q reason), q) := by
  cases h with
  | elapsed hact hlive =>
    refine ⟨p.expire .elapsed now, ?_⟩
    rw [submitted_of_elapsed hact hlive, lapsed_of_elapsed hact]
  | rebound hs hvouches hnone =>
    refine ⟨p, ?_⟩
    simp only [submitted, hs, if_true, accepted, complete_of_not_vouches hs hvouches, lapsed,
      hnone, Option.getD_none]
  | ended hs hsome =>
    refine ⟨p, ?_⟩
    have hother : some reason ≠ some .attemptsExhausted := fun he => hreason (Option.some.inj he)
    simp only [submitted, hs, hsome, if_neg hother, lapsed, Option.getD_some]

end Attempt

namespace Sample

/-- The world after the first challenge has run out of time. -/
def overdue : World MemoryStore MemoryIdentities MailRecorder :=
  { requested with now := ⟨5000⟩ }

theorem overdue_reachable : engine.Reachable overdue :=
  requested_reachable.run (.single (.step (.outside rfl)))

end Sample

namespace Engine

open Vouch.Action

variable {σ ι τ : Type} [VerificationStore σ] [Backend σ] {e : Engine} {w : World σ ι τ}
  {m m' : MemoryStore} {flow : FlowId} {c : Challenge} {acc : Account}

-- A challenge and its address are found as they were written.
theorem Finds.after (hf : Finds m flow c acc) (hi : m.Intact) (hi' : m'.Intact) {q : Attempt}
    (hq : Attempt.Amends ⟨c, acc.record⟩ q) (hsets : m.Sets c.address (acc.amend q) m') :
    Finds m' flow q.challenge (acc.amend q) := by
  have hid : q.challenge.id = c.id := hq.challenge.id
  have haccount : m'.account? q.challenge.address = some (acc.amend q) := by
    rw [hq.challenge.address]
    exact hsets.get?
  have hmem : q.challenge ∈ m'.history q.challenge.address := by
    rw [MemoryStore.history_of_account? haccount]
    exact List.mem_map.mpr ⟨c, hf.mem hi, if_pos hid.symm⟩
  have hget := (hi'.mem_history.mp hmem).1
  rw [hid, hi.id_of_challenge hf.challenge] at hget
  exact ⟨hget, haccount⟩

theorem Finds.addressIn (hf : Finds m flow c acc) (h : Backend.Shows w.store m)
    (hp : Attempt.Sound ⟨c, acc.record⟩) :
    VerificationStore.addressIn? c.slot w.store = .ok (some acc.record) := by
  have hslot := (Backend.intact h).slot_iff.mpr ⟨acc.record, hf.address, hp.slot.symm⟩
  rw [Backend.addressIn?_eq h, hslot, Option.bind_some, hf.address]

/-- The link of a flow that is open or completed shows what resuming the flow shows, and nothing
is written.  The link of one that has expired is answered with the reason that resuming names, and
afterwards resuming names it still and gives the same context. -/
theorem openLink_agrees_with_resume [IdentityStore ι] [MailTransport τ]
    (h : e.Reachable w)
    (hc : VerificationStore.challenge? flow w.store = .ok (some c)) :
    ∃ state, (resume flow : Action σ ι τ FlowState).perform w = (.ok state, w) ∧
      (state.phase = .awaitingCode ∨ state.phase = .completed →
        (openLink flow c.token : Action σ ι τ FlowState).perform w = (.ok state, w)) ∧
      ∀ reason, state.phase = .expired reason →
        ∃ context w', (openLink flow c.token : Action σ ι τ FlowState).perform w =
            (.error (.expiredFlow context), w') ∧ context.reason = reason ∧
          (∃ later, (resume flow : Action σ ι τ FlowState).perform w' = (.ok later, w') ∧
            later.phase = .expired reason) ∧
          (expiredContext flow : Action σ ι τ ExpiredContext).perform w' = (.ok context, w') := by
  obtain ⟨m, hshows, hsound⟩ := h.sound
  rw [Backend.challenge?_eq hshows] at hc
  obtain ⟨acc, hf⟩ := Finds.of_intact (Backend.intact hshows) (Except.ok.inj hc)
  obtain ⟨phase, hstands⟩ := (hsound hf).stands w.now
  have hphase : c.phaseFor acc.record w.now = phase := hstands.phaseFor
  refine ⟨_, resume_run hshows hf, fun hopen => ?_, fun reason hexpired => ?_⟩
  · simp only [FlowState.againstAddress, FlowState.ofPhase, hphase] at hopen
    have hopened : Attempt.opened ⟨c, acc.record⟩ w.now =
        (.ok (.againstAddress c acc.record w.now), ⟨c, acc.record⟩) := by
      rcases hopen with rfl | rfl
      · exact hstands.opened_live
      · exact hstands.opened_completed
    exact openLink_of_ok hshows hf (congrArg Prod.fst hopened)
  · simp only [FlowState.againstAddress, FlowState.ofPhase, hphase] at hexpired
    subst hexpired
    obtain ⟨q, hopened, hq, hlater⟩ := hstands.opened_expired
    obtain ⟨s, m', hperform, hshows', hsets⟩ := openLink_yields (ι := ι) (τ := τ) hshows hf
    rw [hopened] at hperform hsets
    have hf' := hf.after (Backend.intact hshows) (Backend.intact hshows') hq hsets
    have hphase' : q.challenge.phaseFor q.address w.now = .expired reason := hlater.phaseFor
    refine ⟨_, _, hperform, rfl, ⟨_, resume_run hshows' hf', hphase'⟩, ?_⟩
    exact expiredContext_run (w := { w with store := s }) hshows' hf' hphase'

open Sample in
theorem overdue_link_agrees :
    ∃ c state context w',
      VerificationStore.challenge? (drawnAt .flow 16) overdue.store = .ok (some c) ∧
      (resume (drawnAt .flow 16)).perform overdue = (.ok state, overdue) ∧
      state.phase = .expired .elapsed ∧
      (openLink (drawnAt .flow 16) c.token).perform overdue =
        (.error (.expiredFlow context), w') ∧ context.reason = .elapsed ∧
      (expiredContext (drawnAt .flow 16)).perform w' = (.ok context, w') := by
  obtain ⟨c, hc⟩ : ∃ c, VerificationStore.challenge? (drawnAt .flow 16) overdue.store =
      .ok (some c) := ⟨_, rfl⟩
  obtain ⟨state, hresume, -, hexpired⟩ := openLink_agrees_with_resume overdue_reachable hc
  have hphase : ((resume (drawnAt .flow 16)).perform overdue).1.map (fun state => state.phase) =
      .ok (.expired .elapsed) := rfl
  rw [hresume] at hphase
  have hphase' := Except.ok.inj hphase
  obtain ⟨context, w', hopen, hreason, -, hcontext⟩ := hexpired _ hphase'
  exact ⟨c, state, context, w', hc, hresume, hphase', hopen, hreason, hcontext⟩

/-! ## The right code -/

/-- What the right code is answered where a flow stands. -/
inductive Answers : FlowPhase → Except VerificationError SubmitOutcome → Prop where
  | verified (a : Address) : Answers .awaitingCode (.ok (.verified a))
  | alreadyVerified (a : Address) : Answers .completed (.ok (.alreadyVerified a))
  | exhausted : Answers (.expired .attemptsExhausted) (.error .attemptsExhausted)
  | expired {context : ExpiredContext} : context.reason ≠ .attemptsExhausted →
    Answers (.expired context.reason) (.error (.expiredFlow context))

namespace Answers

variable {phase : FlowPhase} {answer : Except VerificationError SubmitOutcome}
  (h : Answers phase answer)

include h

theorem verified_iff : (∃ a, answer = .ok (.verified a)) ↔ phase = .awaitingCode := by
  cases h <;> simp

theorem alreadyVerified_iff : (∃ a, answer = .ok (.alreadyVerified a)) ↔ phase = .completed := by
  cases h <;> simp

theorem exhausted_iff :
    answer = .error .attemptsExhausted ↔ phase = .expired .attemptsExhausted := by
  cases h with
  | expired hother => simpa using hother
  | _ => simp

theorem expired_iff {reason : ExpiredReason} (hreason : reason ≠ .attemptsExhausted) :
    (∃ context, answer = .error (.expiredFlow context) ∧ context.reason = reason) ↔
      phase = .expired reason := by
  cases h with
  | exhausted => simpa using hreason.symm
  | _ => simp

end Answers

theorem submit_answers (h : Backend.Shows w.store m) (hf : Finds m flow c acc)
    (hp : Attempt.Sound ⟨c, acc.record⟩) {phase : FlowPhase}
    (hstands : Attempt.Stands ⟨c, acc.record⟩ w.now phase) :
    Answers phase ((submit flow c.code : Action σ ι τ SubmitOutcome).perform w).1 := by
  obtain ⟨s, m', hperform, -⟩ := submit_yields (ι := ι) (τ := τ) h hf c.code
  rw [hperform]
  cases phase with
  | awaitingCode =>
    rw [hstands.submitted_live hp]
    exact .verified _
  | completed =>
    rw [hstands.submitted_completed]
    exact .alreadyVerified _
  | expired reason =>
    by_cases hreason : reason = .attemptsExhausted
    · subst hreason
      rw [hstands.submitted_exhausted]
      exact .exhausted
    · obtain ⟨q, hsubmitted⟩ := hstands.submitted_expired hreason
      rw [hsubmitted]
      let context : ExpiredContext := .ofChallenge q.challenge q.address reason
      exact .expired (show context.reason ≠ .attemptsExhausted from hreason)

-- A live flow is completed by its code.
theorem submit_live (h : Backend.Shows w.store m) (hf : Finds m flow c acc)
    (hp : Attempt.Sound ⟨c, acc.record⟩)
    (hstands : Attempt.Stands ⟨c, acc.record⟩ w.now .awaitingCode) :
    ∃ w', (submit flow c.code : Action σ ι τ SubmitOutcome).perform w =
        (.ok (.verified (acc.record.markVerified w.now)), w') ∧
      VerificationStore.addressIn? c.slot w'.store = .ok (some (acc.record.markVerified w.now)) ∧
      ∃ later, (resume flow : Action σ ι τ FlowState).perform w' = (.ok later, w') ∧
        later.phase = .completed := by
  obtain ⟨s, m', hperform, hshows', hsets⟩ := submit_yields (ι := ι) (τ := τ) h hf c.code
  rw [hstands.submitted_live hp] at hperform hsets
  have hact : c.isActive = true := hstands.active
  have hamends : Attempt.Amends ⟨c, acc.record⟩
      ⟨c.markCompleted w.now, acc.record.markVerified w.now⟩ := .of_isActive hact rfl rfl
  have hf' := hf.after (Backend.intact h) (Backend.intact hshows') hamends hsets
  have haddress : c.address = acc.record.id := hp.address
  have hvalue : c.value = acc.record.value := hp.value hact
  have hvouches : (c.markCompleted w.now).vouchesFor (acc.record.markVerified w.now) = true := by
    simp [Challenge.vouchesFor, Challenge.markCompleted, Address.markVerified, haddress, hvalue]
  have hlater : Attempt.Stands ⟨c.markCompleted w.now, acc.record.markVerified w.now⟩ w.now
    .completed := .vouching hvouches
  refine ⟨_, hperform, ?_, _, resume_run (w := { w with store := s }) hshows' hf', hlater.phaseFor⟩
  have hslot := (Backend.intact hshows').slot_iff.mpr ⟨_, hf'.address, hp.slot.symm⟩
  rw [Backend.addressIn?_eq hshows', hslot]
  exact congrArg Except.ok hf'.address

-- The code of a completed flow writes nothing.
theorem submit_again [SteadyBackend σ] (h : Backend.Shows w.store m) (hf : Finds m flow c acc)
    (hstands : Attempt.Stands ⟨c, acc.record⟩ w.now .completed) :
    (submit flow c.code : Action σ ι τ SubmitOutcome).perform w =
      (.ok (.alreadyVerified acc.record), w) := by
  cases hstands with
  | vouching hvouches =>
    have hs : c.state = .completed := Challenge.completed_of_vouchesFor hvouches
    have hq : Attempt.complete ⟨c, acc.record⟩ w.now =
        (.alreadyCompleted acc.record, ⟨c, acc.record⟩) :=
      Attempt.complete_of_vouches hvouches
    have hcomplete := SteadyBackend.complete_same h w.now hf.challenge hf.account
      (congrArg Prod.snd hq)
    rw [submit, perform_congr (bind_of_ok (challenge_of_known h hf.challenge))]
    simp only [hs, Secret.verify_eq, decide_true, if_true, acceptCode]
    rw [perform_congr (bind_of_ok now_run),
      perform_congr (bind_of_ok (changeStore_of_ok hcomplete)), hq]
    rfl

/-- The right code verifies exactly the flows that await it, is known to have been entered before
exactly where the flow reads as completed, and is answered with an end and its reason exactly where
resuming the flow names them. -/
theorem submit_agrees_with_resume [IdentityStore ι] [MailTransport τ] [SteadyBackend σ]
    (h : e.Reachable w)
    (hc : VerificationStore.challenge? flow w.store = .ok (some c)) :
    ∃ state answer w', (resume flow : Action σ ι τ FlowState).perform w = (.ok state, w) ∧
      (submit flow c.code : Action σ ι τ SubmitOutcome).perform w = (answer, w') ∧
      ((∃ a, answer = .ok (.verified a)) ↔ state.phase = .awaitingCode) ∧
      ((∃ a, answer = .ok (.alreadyVerified a)) ↔ state.phase = .completed) ∧
      (answer = .error .attemptsExhausted ↔ state.phase = .expired .attemptsExhausted) ∧
      (∀ reason, reason ≠ .attemptsExhausted →
        ((∃ context, answer = .error (.expiredFlow context) ∧ context.reason = reason) ↔
          state.phase = .expired reason)) ∧
      (∀ a, answer = .ok (.verified a) →
        VerificationStore.addressIn? c.slot w'.store = .ok (some a) ∧ a.value = c.value ∧
          a.verified = true ∧
          ∃ later, (resume flow : Action σ ι τ FlowState).perform w' = (.ok later, w') ∧
            later.phase = .completed) ∧
      ∀ a, answer = .ok (.alreadyVerified a) →
        VerificationStore.addressIn? c.slot w.store = .ok (some a) ∧ w' = w := by
  obtain ⟨m, hshows, hsound⟩ := h.sound
  rw [Backend.challenge?_eq hshows] at hc
  obtain ⟨acc, hf⟩ := Finds.of_intact (Backend.intact hshows) (Except.ok.inj hc)
  obtain ⟨phase, hstands⟩ := (hsound hf).stands w.now
  have hphase : c.phaseFor acc.record w.now = phase := hstands.phaseFor
  have hanswers := submit_answers (ι := ι) (τ := τ) hshows hf (hsound hf) hstands
  obtain ⟨answer, w', hperform⟩ : ∃ answer w',
      (submit flow c.code : Action σ ι τ SubmitOutcome).perform w = (answer, w') := ⟨_, _, rfl⟩
  rw [hperform] at hanswers
  refine ⟨_, answer, w', resume_run hshows hf, hperform, ?_⟩
  simp only [FlowState.againstAddress, FlowState.ofPhase, hphase]
  refine ⟨hanswers.verified_iff, hanswers.alreadyVerified_iff, hanswers.exhausted_iff,
    fun reason hreason => hanswers.expired_iff hreason, fun a ha => ?_, fun a ha => ?_⟩
  · have hlive := hanswers.verified_iff.mp ⟨a, ha⟩
    subst hlive
    have hvalue := (hsound hf).value (hstands.active)
    obtain ⟨w₁, hlives, haddress, hlater⟩ := submit_live (ι := ι) (τ := τ) hshows hf (hsound hf)
      hstands
    rw [hlives] at hperform
    cases hperform
    cases ha
    exact ⟨haddress, hvalue.symm, rfl, hlater⟩
  · have hcompleted := hanswers.alreadyVerified_iff.mp ⟨a, ha⟩
    subst hcompleted
    rw [submit_again hshows hf hstands] at hperform
    cases hperform
    cases ha
    exact ⟨hf.addressIn hshows (hsound hf), rfl⟩

open Sample in
theorem firstCode_agrees :
    ∃ c state a w', VerificationStore.challenge? (drawnAt .flow 16) requested.store = .ok (some c) ∧
      (resume (drawnAt .flow 16)).perform requested = (.ok state, requested) ∧
      state.phase = .awaitingCode ∧
      (submit (drawnAt .flow 16) c.code).perform requested = (.ok (.verified a), w') ∧
      a.value = c.value ∧ a.verified = true ∧
      ∃ later, (resume (drawnAt .flow 16)).perform w' = (.ok later, w') ∧
        later.phase = .completed := by
  obtain ⟨c, hc⟩ : ∃ c, VerificationStore.challenge? (drawnAt .flow 16) requested.store =
      .ok (some c) := ⟨_, rfl⟩
  obtain ⟨state, answer, w', hresume, hsubmit, hverified, -, -, -, hafter, -⟩ :=
    submit_agrees_with_resume requested_reachable hc
  have hphase : ((resume (drawnAt .flow 16)).perform requested).1.map (fun state => state.phase) =
      .ok .awaitingCode := rfl
  rw [hresume] at hphase
  have hphase' := Except.ok.inj hphase
  obtain ⟨a, rfl⟩ := hverified.mpr hphase'
  obtain ⟨-, hvalue, htrust, hlater⟩ := hafter a rfl
  exact ⟨c, state, a, w', hc, hresume, hphase', hsubmit, hvalue, htrust, hlater⟩

end Engine

end Vouch
