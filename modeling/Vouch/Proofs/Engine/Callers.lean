import Vouch.Proofs.Engine.Run

/-!
# Callers

What a caller asks for is not one step.  The engine first looks something up: what an identity
declares, or who has an address with a value.  Only then does it enter the slots concerned, one
after another, and each of these sections is a step of its own.  Other callers may come in between;
if none does, the steps of a caller make up exactly the operation that was asked for.
-/

namespace Vouch

open Vouch.Action

namespace Engine

variable {σ ι τ : Type}

/-- What a request looks up before it enters the slot: whether the identity declares the address. -/
def checkDeclared [IdentityStore ι] (id : IdentityId) (declared : DeclaredAddress) :
    Action σ ι τ Unit := do
  let identity ← identity id
  if identity.traits.address? declared.channel ≠ some declared.value then
    throw (.undeclaredAddress id declared.value)

/-- What a request by value looks up before it enters any slot: who has an address with the value.
If nobody has, the value is sent a notice. -/
def findOwners [VerificationStore σ] [MailTransport τ] (channel : Channel) (raw : String) :
    Action σ ι τ (Contact × List Address) := do
  let value ← ofExcept ((Contact.parse channel raw).mapError .invalidAddress)
  let owners ← readStore (VerificationStore.addressesWith channel value)
  if owners.isEmpty then
    send (.unknownAddress value)
  return (value, owners)

variable [VerificationStore σ] [MailTransport τ]

theorem request_eq [IdentityStore ι] (e : Engine) (id : IdentityId) (declared : DeclaredAddress) :
    (e.request id declared : Action σ ι τ RequestOutcome) =
      (do
        checkDeclared id declared
        e.ensureChallenge ⟨id, declared.channel⟩ declared.value) := by
  rw [request, checkDeclared, bind_assoc]
  refine bind_congr fun identity => ?_
  by_cases hdeclared : identity.traits.address? declared.channel = some declared.value
  · rw [if_pos hdeclared, if_neg (not_not_intro hdeclared), pure_bind]
  · rw [if_neg hdeclared, if_pos hdeclared]
    rfl

theorem requestByValue_eq (e : Engine) (channel : Channel) (raw : String) :
    (e.requestByValue channel raw : Action σ ι τ (List RequestOutcome)) =
      (do
        let found ← findOwners channel raw
        found.2.mapM fun owner => e.ensureChallenge ⟨owner.identity, channel⟩ found.1) := by
  rw [requestByValue, findOwners, bind_assoc]
  refine bind_congr fun value => ?_
  rw [bind_assoc]
  refine bind_congr fun owners => ?_
  cases owners with
  | nil => simp
  | cons owner owners => simp

end Engine

/-- How far a caller has come. -/
inductive Caller where
  /-- There is nothing left to do, or something has failed. -/
  | done
  /-- About to look up whether an identity declares an address, and to request its verification. -/
  | request (id : IdentityId) (declared : DeclaredAddress) (next : Caller)
  /-- About to enter a slot and make sure that it holds a value, whatever was found before. -/
  | ensure (slot : Slot) (value : Contact) (next : Caller)
  /-- About to enter a slot and take note there that its identity declares an address. -/
  | edit (byHook : Bool) (id : IdentityId) (declared : DeclaredAddress) (next : Caller)
  /-- About to look up who has an address with a value. -/
  | byValue (channel : Channel) (raw : String)
  /-- About to look up what an identity declares, after it was registered. -/
  | registered (id : IdentityId)
  /-- About to look up what an identity declares, after its settings were edited. -/
  | settled (id : IdentityId)

/-- A caller that is about to begin with a batch. -/
def Batch.caller : Batch → Caller
  | .requestByValue channel raw => .byValue channel raw
  | .afterRegistration id => .registered id
  | .afterSettings id => .settled id

namespace Caller

variable {σ ι τ α : Type}

/-- A caller goes on with what an action answers, unless it fails. -/
def follow (x : Action σ ι τ α) (next : α → Caller) (w : World σ ι τ) : Caller × World σ ι τ :=
  match x w with
  | .ok a w' => (next a, w')
  | .error _ w' => (.done, w')

theorem follow_of_ok {x : Action σ ι τ α} {next : α → Caller} {w w' : World σ ι τ} {a : α}
    (h : x w = .ok a w') : follow x next w = (next a, w') := by
  rw [follow, h]

theorem follow_of_error {x : Action σ ι τ α} {next : α → Caller} {w w' : World σ ι τ}
    {e : VerificationError} (h : x w = .error e w') : follow x next w = (.done, w') := by
  rw [follow, h]

-- Whatever a caller does next, its action changes the world as it does when performed.
theorem follow_world (x : Action σ ι τ α) (next : α → Caller) (w : World σ ι τ) :
    (follow x next w).2 = (x.perform w).2 := by
  cases h : x w with
  | ok a w' => rw [follow_of_ok h, perform_of_ok h]
  | error e w' => rw [follow_of_error h, perform_of_error h]

-- What holds of a caller with nothing left to do, and of one that goes on with an answer.
theorem follow_caller {P : Caller → Prop} {x : Action σ ι τ α} {next : α → Caller}
    {w : World σ ι τ} (hdone : P .done) (hnext : ∀ a w', x w = .ok a w' → P (next a)) :
    P (follow x next w).1 := by
  cases h : x w with
  | ok a w' =>
    rw [follow_of_ok h]
    exact hnext a w' h
  | error e w' =>
    rw [follow_of_error h]
    exact hdone

theorem follow_done (x : Action σ ι τ α) (w : World σ ι τ) :
    follow x (fun _ => .done) w = (.done, (x.perform w).2) := by
  cases h : x w with
  | ok a w' => rw [follow_of_ok h, perform_of_ok h]
  | error e w' => rw [follow_of_error h, perform_of_error h]

variable [VerificationStore σ] [IdentityStore ι] [MailTransport τ]

/-- The next step of a caller: it looks something up, or it passes through a section. -/
def step (e : Engine) (w : World σ ι τ) : Caller → Caller × World σ ι τ
  | .done => (.done, w)
  | .request id declared next => follow (Engine.checkDeclared id declared)
      (fun _ => .ensure ⟨id, declared.channel⟩ declared.value next) w
  | .ensure slot value next => follow (e.ensureChallenge slot value) (fun _ => next) w
  | .edit _ id declared next => follow (e.traitsChanged id declared) (fun _ => next) w
  | .byValue channel raw => follow (Engine.findOwners channel raw)
      (fun found => found.2.foldr (fun owner => .ensure ⟨owner.identity, channel⟩ found.1) .done) w
  | .registered id => follow (Engine.declaredAddresses id) (·.foldr (.request id) .done) w
  | .settled id => follow (Engine.declaredAddresses id) (·.foldr (.edit true id) .done) w

/-- The next step of a caller while nobody else is at work. -/
def Alone (e : Engine) (p q : Caller × World σ ι τ) : Prop := q = p.1.step e p.2

/-- The world that a caller leaves behind if nobody else is at work. -/
def Finishes (e : Engine) (c : Caller) (w w' : World σ ι τ) : Prop :=
  Relation.ReflTransGen (Alone e) (c, w) (.done, w')

variable {e : Engine} {w : World σ ι τ}

theorem ensure_alone (slot : Slot) (value : Contact) (next : Caller) :
    Relation.ReflTransGen (Alone e) (.ensure slot value next, w)
      (follow (e.ensureChallenge slot value) (fun _ => next) w) :=
  .single (by rw [Alone, step])

theorem edit_alone (byHook : Bool) (id : IdentityId) (declared : DeclaredAddress) (next : Caller) :
    Relation.ReflTransGen (Alone e) (.edit byHook id declared next, w)
      (follow (e.traitsChanged id declared) (fun _ => next) w) :=
  .single (by rw [Alone, step])

-- The two steps of a request.
theorem request_alone (id : IdentityId) (declared : DeclaredAddress) (next : Caller) :
    Relation.ReflTransGen (Alone e) (.request id declared next, w)
      (follow (e.request id declared) (fun _ => next) w) := by
  rw [e.request_eq id declared]
  cases hcheck : (Engine.checkDeclared id declared : Action σ ι τ Unit) w with
  | ok _ w' =>
    have hfirst : Alone e (.request id declared next, w)
        (.ensure ⟨id, declared.channel⟩ declared.value next, w') := by
      rw [Alone, step, follow_of_ok hcheck]
    refine .head hfirst (.single ?_)
    rw [Alone, step, follow, bind_of_ok hcheck, follow]
  | error error w' =>
    refine .single ?_
    rw [Alone, step, follow_of_error hcheck, follow_of_error (bind_of_error hcheck)]

-- A caller that goes through a list performs the actions on it one after another.
theorem mapM_finishes {f : α → Action σ ι τ RequestOutcome} {enter : α → Caller → Caller}
    (henter : ∀ a next (w : World σ ι τ),
      Relation.ReflTransGen (Alone e) (enter a next, w) (follow (f a) (fun _ => next) w))
    (l : List α) (w : World σ ι τ) :
    (l.foldr enter .done).Finishes e w ((l.mapM f).perform w).2 := by
  induction l generalizing w with
  | nil => exact .refl
  | cons a l ih =>
    have hstep := henter a (l.foldr enter .done) w
    rw [List.mapM_cons]
    cases hrun : f a w with
    | error error w' =>
      rw [follow_of_error hrun] at hstep
      rw [perform_of_error (bind_of_error hrun)]
      exact hstep
    | ok outcome w' =>
      rw [follow_of_ok hrun] at hstep
      rw [perform_congr (bind_of_ok hrun), perform_return]
      exact hstep.trans (ih w')

-- What a caller looks up first decides how it goes on.
theorem finishes_of_follow {β : Type} {x : Action σ ι τ α} {next : α → Caller}
    {f : α → Action σ ι τ β} {c : Caller} (hstep : c.step e w = follow x next w)
    (hnext : ∀ a w', (next a).Finishes e w' ((f a).perform w').2) :
    c.Finishes e w ((x >>= f).perform w).2 := by
  have hfirst : Alone e (c, w) (follow x next w) := hstep.symm
  cases hrun : x w with
  | error error w' =>
    rw [follow_of_error hrun] at hfirst
    rw [perform_of_error (bind_of_error hrun)]
    exact .single hfirst
  | ok a w' =>
    rw [follow_of_ok hrun] at hfirst
    rw [perform_congr (bind_of_ok hrun)]
    exact .head hfirst (hnext a w')

/-! ## The operations that callers ask for -/

theorem request_finishes (id : IdentityId) (declared : DeclaredAddress) :
    (request id declared .done).Finishes e w ((e.request id declared).perform w).2 := by
  rw [Finishes, ← follow_done]
  exact request_alone id declared .done

theorem edit_finishes (byHook : Bool) (id : IdentityId) (declared : DeclaredAddress) :
    (edit byHook id declared .done).Finishes e w ((e.traitsChanged id declared).perform w).2 := by
  rw [Finishes, ← follow_done]
  exact edit_alone byHook id declared .done

/-- The steps of a batch make up the batch. -/
theorem batch_finishes (b : Batch) : b.caller.Finishes e w (b.perform e w).2 := by
  cases b with
  | requestByValue channel raw =>
    have hstep : (byValue channel raw).step e w = follow (Engine.findOwners channel raw)
        (fun found => found.2.foldr (fun owner => .ensure ⟨owner.identity, channel⟩ found.1) .done)
        w := by rw [step]
    rw [Batch.perform, e.requestByValue_eq]
    refine finishes_of_follow hstep fun found w' => ?_
    exact mapM_finishes (fun owner next _ =>
      ensure_alone ⟨owner.identity, channel⟩ found.1 next) found.2 w'
  | afterRegistration id =>
    have hstep : (registered id).step e w =
        follow (Engine.declaredAddresses id) (·.foldr (.request id) .done) w := by rw [step]
    rw [Batch.perform, Engine.afterRegistration]
    exact finishes_of_follow hstep (mapM_finishes fun a next _ => request_alone id a next)
  | afterSettings id =>
    have hstep : (settled id).step e w =
        follow (Engine.declaredAddresses id) (·.foldr (.edit true id) .done) w := by rw [step]
    rw [Batch.perform, Engine.afterSettings]
    exact finishes_of_follow hstep (mapM_finishes fun a next _ => edit_alone true id a next)

end Caller

end Vouch
