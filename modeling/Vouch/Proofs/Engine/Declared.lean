import Vouch.Proofs.Engine.Failures
import Vouch.Proofs.Engine.Requested

/-!
# Requests of declared addresses

A request of the address that an identity declares makes sure of a challenge for it, and a request
of any other value is refused.  From what the slot holds it follows what a declared address is
answered, and from the policy until when the code of an issued challenge is taken.  A backend that
writes to disk has no room for very long addresses, and refuses these.
-/

namespace Vouch

/-! ## Declared values -/

section Declared

open Vouch.Action

variable {σ ι τ : Type} [VerificationStore σ] [IdentityStore ι] [MailTransport τ]
  {w : World σ ι τ} {slot : Slot} {value : Contact}

omit [VerificationStore σ] [MailTransport τ] in
theorem World.declared?_eq_some_iff : w.declared? slot = some value ↔
    ∃ i, IdentityStore.identity? slot.identity w.identities = .ok (some i) ∧
      i.traits.address? slot.channel = some value := by
  rw [World.declared?]
  rcases IdentityStore.identity? slot.identity w.identities with error | (_ | i) <;> simp

-- What an identity declares is requested.
theorem Engine.request_declared (e : Engine) (h : w.declared? slot = some value) :
    (e.request slot.identity ⟨slot.channel, value⟩ : Action σ ι τ _) w =
      e.ensureChallenge slot value w := by
  obtain ⟨i, hread, haddress⟩ := World.declared?_eq_some_iff.mp h
  rw [request, bind_of_ok (identity_of_stored hread), if_pos haddress]

-- Nothing else is.
theorem Engine.request_undeclared (e : Engine) (h : w.declared? slot ≠ some value) :
    ∃ error, (e.request slot.identity ⟨slot.channel, value⟩ : Action σ ι τ _).perform w =
        (.error error, w) ∧
      ∀ i, IdentityStore.identity? slot.identity w.identities = .ok (some i) →
        error = .undeclaredAddress slot.identity value := by
  rw [request]
  rcases identity_run (w := w) slot.identity with ⟨i, hread, hi⟩ | ⟨error, hi⟩
  · have haddress : i.traits.address? slot.channel ≠ some value := fun haddress =>
      h (World.declared?_eq_some_iff.mpr ⟨i, hread, haddress⟩)
    rw [perform_congr (bind_of_ok hi), if_neg haddress]
    exact ⟨_, rfl, fun _ _ => rfl⟩
  · rw [perform_of_error (bind_of_error hi)]
    refine ⟨error, rfl, fun i hread => ?_⟩
    have hrun := identity_perform (w := w) (τ := τ) slot.identity
    rw [perform_of_error hi, hread] at hrun
    cases hrun

end Declared

/-! ## Deadlines -/

/-- The end of the shorter one of two spans that begin now, or the last representable time. -/
def Policy.deadline (p : Policy) (now : Timestamp) : Nat :=
  min (now.secs.toNat + min p.challengeLifespan.toNat p.flowLifespan.toNat) (UInt64.size - 1)

namespace Engine

open Vouch.Action

variable {σ ι τ : Type} [VerificationStore σ] [MailTransport τ] {e : Engine}
  {w w' : World σ ι τ} {slot : Slot} {value : Contact} {c : Challenge}

/-- An issued challenge is live until the first of its deadlines. -/
theorem Issues.isLive_iff (h : e.Issues w slot value c w') (now : Timestamp) :
    c.isLive now = true ↔ now.secs.toNat < e.policy.deadline w.now := by
  rw [Challenge.isLive, Challenge.isActive_iff.mpr h.active, Challenge.tokenElapsed,
    Challenge.flowElapsed, h.expiresAt, h.flowExpiresAt, Bool.true_and, Bool.and_eq_true,
    Bool.not_eq_true', Bool.not_eq_true', ← Bool.not_eq_true, ← Bool.not_eq_true,
    Timestamp.isReached_iff, Timestamp.isReached_iff, Timestamp.toNat_plus, Timestamp.toNat_plus,
    Policy.deadline]
  omega

-- Whoever is given time has some left when the challenge is issued.
theorem Issues.isLive (h : e.Issues w slot value c w') (hnow : w.now.secs < 0xFFFFFFFFFFFFFFFF)
    (hchallenge : 0 < e.policy.challengeLifespan) (hflow : 0 < e.policy.flowLifespan) :
    c.isLive w.now = true := by
  rw [h.isLive_iff, Policy.deadline]
  simp only [UInt64.lt_iff_toNat_lt, UInt64.reduceToNat, UInt64.size] at *
  omega

variable [IdentityStore ι] [Backend σ]

-- The code of a challenge is taken as long as the challenge is live.
theorem submit_verified_iff (h : e.Reachable w)
    (hc : VerificationStore.challenge? c.id w.store = .ok (some c)) :
    (∃ a, ((submit c.id c.code : Action σ ι τ SubmitOutcome).perform w).1 = .ok (.verified a)) ↔
      c.isLive w.now = true := by
  obtain ⟨m, hshows, hsound⟩ := h.sound
  rw [Backend.challenge?_eq hshows] at hc
  obtain ⟨acc, hf⟩ := Finds.of_intact (Backend.intact hshows) (Except.ok.inj hc)
  obtain ⟨phase, hstands⟩ := (hsound hf).stands w.now
  rw [(submit_answers (ι := ι) (τ := τ) hshows hf (hsound hf) hstands).verified_iff]
  constructor
  · rintro rfl
    cases hstands with
    | live hlive => exact hlive
  · intro hlive
    rw [← hstands.phaseFor]
    exact (Attempt.Stands.live (p := ⟨c, acc.record⟩) hlive).phaseFor

/-- A request of a declared value in a reachable world.  If the backend has no room for the record,
that is what is answered, and no store is written.  Otherwise the slot is verified already if it
holds the value and is verified, and its challenge is mailed again if the slot holds the value and
the challenge is live.  In every other case a challenge is issued.  It is the only active one of
its slot, live if it was given any time at all, and its code is taken until the first of its two
deadlines, provided that nothing has been done to the challenge. -/
theorem request_of_reachable [FirmBackend σ] [ThriftyBackend σ] (h : e.Reachable w)
    (hdeclared : w.declared? slot = some value)
    (hop : (Operation.request slot.identity ⟨slot.channel, value⟩).Possible e w) :
    (¬ FirmBackend.Fits σ slot value →
      (e.request slot.identity ⟨slot.channel, value⟩ : Action σ ι τ _).perform w =
        (.error (.store .badKeySize), { w with entropy := (w.entropy.drawId .address).2 })) ∧
    (FirmBackend.Fits σ slot value →
      ∃ outcome w', (e.request slot.identity ⟨slot.channel, value⟩ : Action σ ι τ _).perform w =
          (.ok outcome, w') ∧
        e.Requested w slot value outcome w' ∧
        (outcome = .alreadyVerified ↔ ∃ a,
          VerificationStore.addressIn? slot w.store = .ok (some a) ∧ a.value = value ∧
            a.verified = true) ∧
        (∀ flow, outcome = .resent flow ↔ ∃ a c,
          VerificationStore.addressIn? slot w.store = .ok (some a) ∧ a.value = value ∧
            a.verified = false ∧ VerificationStore.activeFor? a.id w.store = .ok (some c) ∧
            c.isLive w.now = true ∧ c.id = flow) ∧
        ∀ flow, outcome = .issued flow → ∃ c, c.id = flow ∧ e.Issues w slot value c w' ∧
          (∀ f d, VerificationStore.challenge? f w'.store = .ok (some d) → d.slot = slot →
            d.isActive = true → d = c) ∧
          (w.now.secs < 0xFFFFFFFFFFFFFFFF → 0 < e.policy.challengeLifespan →
            0 < e.policy.flowLifespan → c.isLive w.now = true) ∧
          ∀ w₂, e.Run w' w₂ → VerificationStore.challenge? flow w₂.store = .ok (some c) →
            ((∃ a, ((submit flow c.code : Action σ ι τ SubmitOutcome).perform w₂).1 =
                .ok (.verified a)) ↔
              w₂.now.secs.toNat < e.policy.deadline w.now)) := by
  have hrun := e.request_declared (τ := τ) hdeclared
  obtain ⟨m, hshows, hsound⟩ := h.sound
  rw [perform_congr hrun]
  refine ⟨ensureChallenge_no_room e hshows, fun hfits => ?_⟩
  have hdraws := hop.draws
  have hafter : e.Reachable _ := h.perform hop
  rw [Operation.perform, perform_congr hrun] at hdraws hafter
  obtain ⟨outcome, w', hperform, hrequested⟩ :=
    ensureChallenge_requested hshows hsound hdraws hfits
  rw [hperform] at hafter
  refine ⟨outcome, w', hperform, hrequested, hrequested.alreadyVerified_iff,
    fun flow => hrequested.resent_iff, ?_⟩
  rintro flow rfl
  cases hrequested with
  | @issued c _ _ hissues =>
    refine ⟨c, rfl, hissues, fun f d => hissues.alone, hissues.isLive, fun w₂ hlater hc => ?_⟩
    rw [submit_verified_iff (hafter.run hlater) hc, hissues.isLive_iff]

end Engine

namespace Sample

/-- The first request of an address issues a challenge, whose code is taken for an hour. -/
theorem first_request_issues :
    ∃ c, engine.Issues start ⟨ann, .email⟩ home.value c requested ∧ c.isLive start.now = true ∧
      ∀ now : Timestamp, VerificationStore.challenge? c.id requested.store = .ok (some c) ∧
        ((∃ a, ((Engine.submit c.id c.code).perform { requested with now }).1 =
            .ok (.verified a)) ↔ now.secs.toNat < 3700) := by
  have hstart : engine.Reachable start := ⟨start, rfl, .refl⟩
  have hpossible : (Operation.request ann home).Possible engine start :=
    ⟨⟨fun _ => rfl, fun _ => rfl⟩, trivial⟩
  have hdeclared : start.declared? ⟨ann, .email⟩ = some home.value := rfl
  obtain ⟨outcome, w', hperform, -, -, -, hissued⟩ :=
    (Engine.request_of_reachable hstart hdeclared hpossible).2 trivial
  have hanswer : (engine.request ann home).perform start =
      (.ok (.issued (drawnAt .flow 16)), requested) := rfl
  obtain ⟨houtcome, rfl⟩ := Prod.mk.inj (hperform.symm.trans hanswer)
  obtain ⟨c, hid, hissues, -, hlive, htaken⟩ := hissued _ (Except.ok.inj houtcome)
  rw [← hid] at htaken
  have hc : VerificationStore.challenge? c.id requested.store = .ok (some c) := by
    rw [hissues.challenges, if_pos rfl]
  refine ⟨c, hissues, hlive (by decide) (by decide) (by decide), fun now => ⟨hc, ?_⟩⟩
  have hrun : engine.Run requested { requested with now } := .single (.step (.outside rfl))
  exact htaken _ hrun hc

/-- An address under a long name. -/
def verbose : DeclaredAddress :=
  ⟨.email, ⟨String.ofList ('"' :: List.replicate 480 'x' ++ '"' :: " <ann@new.example>".toList)⟩⟩

/-- An identity that declares it, in a file. -/
def wordy : World Durable.Ledger Durable.IdentityFile MailRecorder :=
  { blank with
    identities :=
      ⟨blank.identities.identities.insert ann.bytes (Identity.codec.encode ⟨ann, ⟨[verbose]⟩⟩)⟩ }

theorem verbose_not_fits :
    ¬ FirmBackend.Fits Durable.Ledger ⟨ann, verbose.channel⟩ verbose.value := by
  intro hfits
  have hkeys := hfits (.fresh (drawnAt .address 0) ⟨ann, verbose.channel⟩ verbose.value ⟨0⟩) rfl rfl
  have hvalue := hkeys.value
  rw [Durable.length_valueKey] at hvalue
  revert hvalue
  decide +kernel

theorem wordy_declares : wordy.declared? ⟨ann, .email⟩ = some verbose.value := by
  have hfits : Identity.Fits ⟨ann, ⟨[verbose]⟩⟩ :=
    ⟨by decide, by decide, by decide, by unfold TextFits; decide +kernel⟩
  have hget : wordy.identities.identities.get? ann.bytes =
      some (Identity.codec.encode ⟨ann, ⟨[verbose]⟩⟩) :=
    (ByteMap.get?_insert ..).trans (if_pos rfl)
  have hread := Durable.IdentityFile.identity?_of_stored (s := wordy.identities) hfits hget
  exact World.declared?_eq_some_iff.mpr ⟨_, hread, rfl⟩

/-- There is no room on disk for an address under a long name. -/
theorem verbose_request_refused :
    engine.Reachable wordy ∧ wordy.declared? ⟨ann, .email⟩ = some verbose.value ∧
      (Operation.request ann verbose).Possible engine wordy ∧
      0 < engine.policy.challengeLifespan ∧ 0 < engine.policy.flowLifespan ∧
      wordy.now.secs < 0xFFFFFFFFFFFFFFFF ∧
      ((engine.request ann verbose).perform wordy).1 = .error (.store .badKeySize) := by
  have hrefused : (engine.request ann verbose).perform wordy =
      (.error (.store .badKeySize),
        { wordy with entropy := (wordy.entropy.drawId .address).2 }) := by
    rw [Action.perform_congr (engine.request_declared wordy_declares)]
    exact Engine.ensureChallenge_no_room engine Backend.shows_empty verbose_not_fits
  have hreachable : engine.Reachable wordy := ⟨wordy, rfl, .refl⟩
  have hpossible : (Operation.request ann verbose).Possible engine wordy :=
    ⟨⟨fun _ => rfl, fun _ => rfl⟩, trivial⟩
  have hnow : wordy.now.secs < 0xFFFFFFFFFFFFFFFF := by decide
  have hrefuse := congrArg Prod.fst hrefused
  exact ⟨hreachable, wordy_declares, hpossible, by decide, by decide, hnow, hrefuse⟩

end Sample

end Vouch
