import Vouch.Proofs.Engine.Declared
import Vouch.Proofs.Engine.Interleaving

/-!
# Requests by value

A request by value goes through the addresses that have the value and makes sure of a challenge for
each.  An identity that still declares the value is answered like a request of its own.  The
identity itself is not looked at, though: where another value is declared by now, a request would be
refused, and the old value is sent a challenge all the same.
-/

namespace Vouch

namespace Engine

open Vouch.Action

/-! ## One address after another -/

section Links

variable {σ ι τ : Type} [VerificationStore σ] [IdentityStore ι] [MailTransport τ]

/-- What is done for an address that has a value, beside what a request of its identity for the
value would come to. -/
structure Resends (e : Engine) (w : World σ ι τ) (slot : Slot) (value : Contact)
    (outcome : RequestOutcome) (w' : World σ ι τ) : Prop where
  /-- The value is still the one that the slot holds. -/
  bound : w.bound? slot = some value
  requested : e.Requested w slot value outcome w'
  identities : w'.identities = w.identities
  agrees : (e.request slot.identity ⟨slot.channel, value⟩ : Action σ ι τ _).perform w =
    (.ok outcome, w') ↔ w.declared? slot = some value
  refused : w.declared? slot ≠ some value → ∃ error,
    (e.request slot.identity ⟨slot.channel, value⟩ : Action σ ι τ _).perform w = (.error error, w) ∧
      ∀ i, IdentityStore.identity? slot.identity w.identities = .ok (some i) →
        error = .undeclaredAddress slot.identity value

/-- What is done for addresses that have a value, one after another. -/
inductive ResendsAll (e : Engine) (channel : Channel) (value : Contact) :
    List Address → World σ ι τ → List RequestOutcome → World σ ι τ → Prop where
  | done {w : World σ ι τ} : ResendsAll e channel value [] w [] w
  | next {w w₁ w' : World σ ι τ} {owner : Address} {owners : List Address}
      {outcome : RequestOutcome} {outcomes : List RequestOutcome} :
    e.Resends w ⟨owner.identity, channel⟩ value outcome w₁ →
      ResendsAll e channel value owners w₁ outcomes w' →
      ResendsAll e channel value (owner :: owners) w (outcome :: outcomes) w'

variable {e : Engine} {channel : Channel} {value : Contact} {w w' : World σ ι τ}
  {owners : List Address} {outcomes : List RequestOutcome}

-- Nobody's declarations change meanwhile.
theorem ResendsAll.identities (h : e.ResendsAll channel value owners w outcomes w') :
    w'.identities = w.identities := by
  induction h with
  | done => rfl
  | next hfirst _ ih => exact ih.trans hfirst.identities

end Links

variable {σ ι τ : Type} [VerificationStore σ] [IdentityStore ι] [MailTransport τ] [Backend σ]
  [FirmBackend σ] [ThriftyBackend σ] {e : Engine} {w w' : World σ ι τ} {channel : Channel}
  {value : Contact}

/-- Whoever has an address with a value is answered as if the value was declared. -/
theorem resend_resends (h : e.Reachable w) {owner : IdentityId}
    (hop : (Operation.resend owner channel value).Possible e w) :
    ∃ outcome w', (e.ensureChallenge ⟨owner, channel⟩ value : Action σ ι τ _).perform w =
        (.ok outcome, w') ∧ e.Resends w ⟨owner, channel⟩ value outcome w' := by
  obtain ⟨m, hshows, hsound⟩ := h.sound
  have hfits : FirmBackend.Fits σ ⟨owner, channel⟩ value := fits_of_aimed hshows hop.aimed
  obtain ⟨outcome, w', hperform, hrequested⟩ :=
    ensureChallenge_requested (e := e) hshows hsound hop.draws hfits
  obtain ⟨a, ha, hvalue⟩ := hop.aimed
  have hidentities := sparesIdentities_ensureChallenge e ⟨owner, channel⟩ value w
  rw [hperform] at hidentities
  refine ⟨outcome, w', hperform,
    { bound := by rw [World.bound?, ha, ← hvalue]; rfl
      requested := hrequested
      identities := hidentities
      agrees := ⟨fun hagrees => ?_, fun hdeclared => ?_⟩
      refused := e.request_undeclared }⟩
  · -- a request that is refused gives no such answer
    by_contra hundeclared
    obtain ⟨error, hrefused, -⟩ := e.request_undeclared (w := w) hundeclared
    rw [hrefused] at hagrees
    cases hagrees
  · rw [perform_congr (e.request_declared hdeclared)]
    exact hperform

/-- The addresses are answered for one after another. -/
theorem mapM_resends {owners : List Address} (h : e.Reachable w)
    (hpossible : e.AllPossible (owners.map fun a => .resend a.identity channel value) w) :
    ∃ outcomes w', ((owners.mapM fun a => e.ensureChallenge ⟨a.identity, channel⟩ value :
        Action σ ι τ _).perform w) = (.ok outcomes, w') ∧
      e.ResendsAll channel value owners w outcomes w' := by
  induction owners generalizing w with
  | nil => exact ⟨[], w, rfl, .done⟩
  | cons owner owners ih =>
    obtain ⟨hop, hrest⟩ := hpossible
    obtain ⟨outcome, w₁, hperform, hresends⟩ := resend_resends h hop
    have hafter := h.perform hop
    rw [Operation.perform, hperform] at hafter hrest
    obtain ⟨outcomes, w', hperforms, hall⟩ := ih (w := w₁) hafter (hrest outcome rfl)
    refine ⟨outcome :: outcomes, w', ?_, .next hresends hall⟩
    rw [List.mapM_cons, perform_congr (bind_of_ok (of_perform_ok hperform))]
    exact perform_of_ok (bind_of_ok (of_perform_ok hperforms))

/-- A request by value in a reachable world, where somebody has an address with the value.  The
addresses that have it are answered for in the order in which the store lists them, each as if its
identity declared the value.  That is what a request of the identity itself would come to at that
point, with the same random bytes, if the identity declares the value, and only then: otherwise that
request is refused, and changes nothing. -/
theorem requestByValue_of_reachable (h : e.Reachable w) {raw : String} {owners : List Address}
    (hparse : Contact.parse channel raw = .ok value)
    (hread : VerificationStore.addressesWith channel value w.store = .ok owners)
    (hsome : owners ≠ [])
    (hdraws : e.DrawUnknown (owners.map fun a => .resend a.identity channel value) w) :
    ∃ outcomes w', (e.requestByValue channel raw : Action σ ι τ _).perform w =
        (.ok outcomes, w') ∧ w'.identities = w.identities ∧
      e.ResendsAll channel value owners w outcomes w' := by
  obtain ⟨m, hshows, -⟩ := h.sound
  obtain ⟨owners', hread', -, howners⟩ := Backend.addressesWith_eq hshows channel value
  obtain rfl : owners = owners' := Except.ok.inj (hread.symm.trans hread')
  have hpossible := resends_possible (fun a ha => (howners a).mp ha) hshows hdraws
  obtain ⟨outcomes, w', hperform, hall⟩ := mapM_resends h hpossible
  have hrun := e.requestByValue_run (w := w) hparse hread
  have hnonempty : ¬ owners.isEmpty = true := mt List.isEmpty_iff.mp hsome
  rw [if_neg hnonempty] at hrun
  rw [← perform_congr hrun] at hperform
  exact ⟨outcomes, w', hperform, hall.identities, hall⟩

end Engine

namespace Sample

/-- The world after somebody else has edited the address. -/
def edited : World MemoryStore MemoryIdentities MailRecorder :=
  { requested with identities := MemoryIdentities.empty.register ann work }

/-- The old address is sent its challenge again, although the identity declares another one and
would be refused if it asked for it. -/
theorem edited_resends :
    ∃ c w', (engine.requestByValue .email home.value.text).perform edited =
        (.ok [.resent c.id], w') ∧ c.value = home.value ∧
      w'.mailer = MailTransport.deliver edited.now (engine.letters c) edited.mailer ∧
      edited.declared? ⟨ann, .email⟩ = some work.value ∧
      (engine.request ann home).perform edited =
        (.error (.undeclaredAddress ann home.value), edited) := by
  have hreachable : engine.Reachable edited :=
    requested_reachable.run (.single (.step (.outside rfl)))
  have hparse : Contact.parse .email home.value.text = .ok home.value := rfl
  obtain ⟨owner, howner, hann⟩ : ∃ owner, edited.store.addresses.values.filter
      (fun a => a.channel = .email ∧ a.value = home.value) = [owner] ∧ owner.identity = ann :=
    ⟨_, rfl, rfl⟩
  have hread : VerificationStore.addressesWith .email home.value edited.store = .ok [owner] := by
    show Except.ok (List.mergeSort _ _) = _
    rw [howner, List.mergeSort_singleton]
  have hdraws : engine.DrawUnknown ([owner].map fun a => .resend a.identity .email home.value)
      edited := ⟨⟨fun _ => rfl, fun _ => rfl⟩, fun _ _ => trivial⟩
  obtain ⟨outcomes, w', hperform, -, hall⟩ :=
    Engine.requestByValue_of_reachable hreachable hparse hread (List.cons_ne_nil _ _) hdraws
  cases hall with
  | next hresends hdone =>
    cases hdone
    rw [hann] at hresends
    have houtcome := hresends.requested.resent_iff.mpr
      ⟨_, _, rfl, rfl, rfl, rfl, rfl, (rfl : _ = drawnAt .flow 16)⟩
    subst houtcome
    obtain ⟨error, hrefused, hundeclared⟩ := hresends.refused (by decide)
    rw [hundeclared _ rfl] at hrefused
    obtain ⟨a, c, ha, hc, hid, hw'⟩ := hresends.requested.of_resent
    obtain rfl := Engine.eq_of_found ha rfl
    have hvalue : c.value = home.value := by
      rw [Engine.eq_of_found hc rfl]
      rfl
    rw [← hid] at hperform
    exact ⟨c, w', hperform, hvalue, congrArg World.mailer hw', rfl, hrefused⟩

end Sample

end Vouch
