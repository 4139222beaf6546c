import Vouch.Engine.Answer
import Vouch.Engine.Request
import Vouch.Proofs.Secret
import Vouch.Proofs.Store.Backend

/-!
# Running actions

What each building block of the engine's operations does to a world whose store shows a store in
memory.
-/

namespace Vouch

/-- A transport after messages were handed to it one after another.  Those that it does not take
are lost. -/
def MailTransport.deliver {τ : Type} [MailTransport τ] (now : Timestamp) (mails : List Mail)
    (transport : τ) : τ :=
  mails.foldl (fun transport mail =>
    match send mail now transport with
    | .ok transport => transport
    | .error _ => transport) transport

/-- The message with the link of a challenge, if the public address admits links. -/
def Engine.letters (e : Engine) (c : Challenge) : List Mail :=
  match e.publicUrl.link c.id c.token with
  | .ok url => [.verification c.value url.render c.code]
  | .error _ => []

namespace Action

variable {σ ι τ α β : Type} {w w' : World σ ι τ}

/-- The answer of an action, and the world it leaves behind. -/
def perform (x : Action σ ι τ α) (w : World σ ι τ) :
    Except VerificationError α × World σ ι τ :=
  match x w with
  | .ok a w' => (.ok a, w')
  | .error e w' => (.error e, w')

theorem perform_of_ok {x : Action σ ι τ α} {a : α} (h : x w = .ok a w') :
    x.perform w = (.ok a, w') := by
  rw [perform, h]

theorem perform_of_error {x : Action σ ι τ α} {e : VerificationError} (h : x w = .error e w') :
    x.perform w = (.error e, w') := by
  rw [perform, h]

theorem of_perform_ok {x : Action σ ι τ α} {a : α} (h : x.perform w = (.ok a, w')) :
    x w = .ok a w' := by
  rw [perform] at h
  split at h <;> cases h
  assumption

theorem of_perform_error {x : Action σ ι τ α} {e : VerificationError}
    (h : x.perform w = (.error e, w')) : x w = .error e w' := by
  rw [perform] at h
  split at h <;> cases h
  assumption

theorem perform_congr {x y : Action σ ι τ α} (h : x w = y w') : x.perform w = y.perform w' := by
  rw [perform, perform, h]

/-! ## Steps -/

theorem bind_of_ok {x : Action σ ι τ α} {f : α → Action σ ι τ β} {a : α} (h : x w = .ok a w') :
    (x >>= f) w = f a w' := by
  show EStateM.bind x f w = _
  rw [EStateM.bind, h]

theorem bind_of_error {x : Action σ ι τ α} {f : α → Action σ ι τ β} {e : VerificationError}
    (h : x w = .error e w') : (x >>= f) w = .error e w' := by
  show EStateM.bind x f w = _
  rw [EStateM.bind, h]

-- What is made of an answer does not matter for the world.
theorem perform_return (x : Action σ ι τ α) (f : α → β) :
    ((do return f (← x) : Action σ ι τ β).perform w).2 = (x.perform w).2 := by
  cases h : x w with
  | ok a w' => rw [perform_congr (bind_of_ok h), perform_of_ok h]; rfl
  | error e w' => rw [perform_of_error (bind_of_error h), perform_of_error h]

theorem now_run : now w = .ok w.now w := rfl

theorem readStore_of_ok {read : σ → Except StoreError α} {a : α} (h : read w.store = .ok a) :
    readStore read w = .ok a w := by
  show (ofExcept ((read w.store).mapError .store) : Action σ ι τ α) w = _
  rw [h]
  rfl

theorem readStore_of_error {read : σ → Except StoreError α} {e : StoreError}
    (h : read w.store = .error e) : readStore read w = .error (.store e) w := by
  show (ofExcept ((read w.store).mapError .store) : Action σ ι τ α) w = _
  rw [h]
  rfl

theorem changeStore_of_ok {change : σ → Except StoreError (α × σ)} {a : α} {s : σ}
    (h : change w.store = .ok (a, s)) :
    changeStore change w = .ok a { w with store := s } := by
  show (ofExcept ((change w.store).mapError .store) >>= fun result => do
    set { w with store := result.2 }
    return result.1 : Action σ ι τ α) w = _
  rw [h]
  rfl

theorem changeStore_of_error {change : σ → Except StoreError (α × σ)} {e : StoreError}
    (h : change w.store = .error e) : changeStore change w = .error (.store e) w := by
  show (ofExcept ((change w.store).mapError .store) >>= fun result => do
    set { w with store := result.2 }
    return result.1 : Action σ ι τ α) w = _
  rw [h]
  rfl

theorem send_run [MailTransport τ] (mail : Mail) : (send mail : Action σ ι τ Unit) w =
    .ok () { w with mailer := MailTransport.deliver w.now [mail] w.mailer } := by
  have hmodify : ∀ f, (modify f : Action σ ι τ Unit) w = .ok () (f w) := fun _ => rfl
  rw [send, hmodify, MailTransport.deliver, List.foldl_cons, List.foldl_nil]
  cases MailTransport.send mail w.now w.mailer <;> rfl

theorem mailLink_run [MailTransport τ] (e : Engine) (c : Challenge) :
    (e.mailLink c : Action σ ι τ Unit) w =
      .ok () { w with mailer := MailTransport.deliver w.now (e.letters c) w.mailer } := by
  rw [Engine.mailLink, Engine.letters]
  cases e.publicUrl.link c.id c.token with
  | ok url => exact send_run _
  | error _ => rfl

-- Looking for an identity changes nothing.
theorem identity_perform [IdentityStore ι] (id : IdentityId) :
    (identity id : Action σ ι τ Identity).perform w =
      (match IdentityStore.identity? id w.identities with
        | .ok (some i) => .ok i
        | .ok none => .error (.identityNotFound id)
        | .error e => .error (.store e), w) := by
  have hget : (get : Action σ ι τ (World σ ι τ)) w = .ok w w := rfl
  rw [identity, perform_congr (bind_of_ok hget)]
  rcases IdentityStore.identity? id w.identities with e | (_ | i) <;> rfl

theorem identity_run [IdentityStore ι] (id : IdentityId) :
    (∃ i, IdentityStore.identity? id w.identities = .ok (some i) ∧
        (identity id : Action σ ι τ Identity) w = .ok i w) ∨
      ∃ e, (identity id : Action σ ι τ Identity) w = .error e w := by
  have hrun := identity_perform (w := w) (τ := τ) id
  rcases hread : IdentityStore.identity? id w.identities with e | (_ | i)
  · rw [hread] at hrun
    exact .inr ⟨.store e, of_perform_error hrun⟩
  · rw [hread] at hrun
    exact .inr ⟨.identityNotFound id, of_perform_error hrun⟩
  · rw [hread] at hrun
    exact .inl ⟨i, rfl, of_perform_ok hrun⟩

theorem identity_of_stored [IdentityStore ι] {id : IdentityId} {i : Identity}
    (h : IdentityStore.identity? id w.identities = .ok (some i)) :
    (identity id : Action σ ι τ Identity) w = .ok i w :=
  of_perform_ok ((identity_perform id).trans (by rw [h]))

-- Traits are written to the store of identities alone.
theorem updateTraits_perform [IdentityStore ι] (id : IdentityId) (traits : Traits) :
    (updateTraits id traits : Action σ ι τ Unit).perform w =
      match IdentityStore.updateTraits id traits w.identities with
      | .ok identities => (.ok (), { w with identities })
      | .error e => (.error (.store e), w) := by
  have hget : (get : Action σ ι τ (World σ ι τ)) w = .ok w w := rfl
  rw [updateTraits, perform_congr (bind_of_ok hget)]
  cases IdentityStore.updateTraits id traits w.identities <;> rfl

theorem updateTraits_run [IdentityStore ι] (id : IdentityId) (traits : Traits) :
    (∃ identities, IdentityStore.updateTraits id traits w.identities = .ok identities ∧
        (updateTraits id traits : Action σ ι τ Unit) w = .ok () { w with identities }) ∨
      ∃ e, (updateTraits id traits : Action σ ι τ Unit) w = .error e w := by
  have hrun := updateTraits_perform (w := w) (τ := τ) id traits
  cases hwrite : IdentityStore.updateTraits id traits w.identities with
  | error e =>
    rw [hwrite] at hrun
    exact .inr ⟨.store e, of_perform_error hrun⟩
  | ok identities =>
    rw [hwrite] at hrun
    exact .inl ⟨identities, rfl, of_perform_ok hrun⟩

/-! ## Drawing -/

/-- The action takes back nothing that was drawn. -/
def Forward (x : Action σ ι τ α) : Prop :=
  ∀ w, w.entropy.drawn ≤ (x.perform w).2.entropy.drawn

theorem forward_pure (a : α) : (pure a : Action σ ι τ α).Forward := fun _ => Nat.le_refl _

theorem Forward.bind {x : Action σ ι τ α} {f : α → Action σ ι τ β} (hx : x.Forward)
    (hf : ∀ a, (f a).Forward) : (x >>= f).Forward := by
  intro w
  have hw := hx w
  cases h : x w with
  | ok a w' =>
    rw [perform_of_ok h] at hw
    rw [perform_congr (bind_of_ok h)]
    exact Nat.le_trans hw (hf a w')
  | error e w' =>
    rw [perform_of_error h] at hw
    rw [perform_of_error (bind_of_error h)]
    exact hw

theorem forward_readStore (read : σ → Except StoreError α) :
    (readStore read : Action σ ι τ α).Forward := by
  intro w
  cases h : read w.store with
  | ok a =>
    refine Nat.le_of_eq ?_
    rw [perform_of_ok (readStore_of_ok h)]
  | error e =>
    refine Nat.le_of_eq ?_
    rw [perform_of_error (readStore_of_error h)]

theorem forward_changeStore (change : σ → Except StoreError (α × σ)) :
    (changeStore change : Action σ ι τ α).Forward := by
  intro w
  cases h : change w.store with
  | ok result =>
    refine Nat.le_of_eq ?_
    rw [perform_of_ok (changeStore_of_ok h)]
  | error e =>
    refine Nat.le_of_eq ?_
    rw [perform_of_error (changeStore_of_error h)]

theorem forward_mailLink [MailTransport τ] (e : Engine) (c : Challenge) :
    (e.mailLink c : Action σ ι τ Unit).Forward := by
  intro w
  refine Nat.le_of_eq ?_
  rw [perform_of_ok (mailLink_run e c)]

/-! ## Reading what a store shows -/

variable [VerificationStore σ] [Backend σ] {m : MemoryStore}

theorem challenge_of_known (h : Backend.Shows w.store m) {f : FlowId} {c : Challenge}
    (hc : m.challenges.get? f = some c) : challenge f w = .ok c w := by
  rw [challenge, bind_of_ok (readStore_of_ok (Backend.challenge?_eq h f)), hc]
  rfl

theorem challenge_of_unknown (h : Backend.Shows w.store m) {f : FlowId}
    (hc : m.challenges.get? f = none) : challenge f w = .error .notFound w := by
  rw [challenge, bind_of_ok (readStore_of_ok (Backend.challenge?_eq h f)), hc]
  rfl

theorem addressOf_run (h : Backend.Shows w.store m) {c : Challenge} {a : Address}
    (ha : m.addresses.get? c.address = some a) : addressOf c w = .ok a w := by
  rw [addressOf, bind_of_ok (readStore_of_ok (Backend.address?_eq h c.address)), ha]
  rfl

theorem expiredFlow_run (h : Backend.Shows w.store m) {c : Challenge} {a : Address}
    (ha : m.addresses.get? c.address = some a) :
    (expiredFlow c : Action σ ι τ α) w =
      .error (.expiredFlow (.ofChallenge c a (c.expiredReason.getD .addressChanged))) w := by
  rw [expiredFlow, bind_of_ok (addressOf_run h ha)]
  rfl

end Action

end Vouch
