import Vouch.Proofs.Engine.Answer
import Vouch.Proofs.Engine.Request

/-!
# Operations

Whatever the engine is asked for, about one address: requests, changes of traits, resends, links,
codes and sweeps.  In a world whose store shows a store in memory, each has one of the ends that
`Ends` lists, provided that the identifiers it draws are not taken.
-/

namespace Vouch

/-- What the engine can be asked for. -/
inductive Operation where
  | request (id : IdentityId) (declared : DeclaredAddress)
  | traitsChanged (id : IdentityId) (declared : DeclaredAddress)
  /-- What a request by value does for one of those who have an address with it. -/
  | resend (owner : IdentityId) (channel : Channel) (value : Contact)
  | openLink (flow : FlowId) (token : String)
  | submit (flow : FlowId) (code : String)
  | sweep

inductive Answer where
  | requested (outcome : Except VerificationError RequestOutcome)
  | opened (state : Except VerificationError FlowState)
  | submitted (outcome : Except VerificationError SubmitOutcome)
  | swept (ended : Except VerificationError Nat)

/-- The identifiers that are drawn on the way from one world to another are not taken.  An address
has its identifier drawn before the flow has. -/
structure World.DrawsUnknown {σ ι τ : Type} [VerificationStore σ] (w w' : World σ ι τ) : Prop where
  address : w.entropy.drawn < w'.entropy.drawn →
    VerificationStore.address? (w.entropy.drawId .address).1 w.store = .ok none
  flow : w.entropy.drawn + Id.size < w'.entropy.drawn →
    VerificationStore.challenge? ((w.entropy.drawId .address).2.drawId .flow).1 w.store = .ok none

namespace Operation

/-- The operation is about a value that the identity of a slot declares for it. -/
inductive Declares (slot : Slot) (value : Contact) : Operation → Prop where
  | request : Declares slot value (.request slot.identity ⟨slot.channel, value⟩)
  | traitsChanged : Declares slot value (.traitsChanged slot.identity ⟨slot.channel, value⟩)

/-- The ends of an operation. -/
inductive Ends (e : Engine) (m : MemoryStore) (now : Timestamp) :
    Operation → Answer → MemoryStore → Prop where
  | refused {op : Operation} {slot : Slot} {value : Contact} {error : VerificationError} :
    op.Declares slot value → Ends e m now op (.requested (.error error)) m
  | declared {op : Operation} {slot : Slot} {value : Contact}
      {outcome : Except VerificationError RequestOutcome} {m' : MemoryStore} :
    op.Declares slot value → e.Ensures m slot value now outcome m' →
      Ends e m now op (.requested outcome) m'
  | resent {owner : IdentityId} {channel : Channel} {value : Contact} {id : AddressId}
      {acc : Account} {outcome : Except VerificationError RequestOutcome} {m' : MemoryStore} :
    m.account? id = some acc → acc.record.slot = ⟨owner, channel⟩ → acc.record.value = value →
      e.Ensures m ⟨owner, channel⟩ value now outcome m' →
      Ends e m now (.resend owner channel value) (.requested outcome) m'
  | opened {flow : FlowId} {token : String} {state : Except VerificationError FlowState}
      {m' : MemoryStore} :
    Engine.Opens m flow token now state m' →
      Ends e m now (.openLink flow token) (.opened state) m'
  | submitted {flow : FlowId} {code : String} {outcome : Except VerificationError SubmitOutcome}
      {m' : MemoryStore} :
    Engine.Submits m flow code now outcome m' →
      Ends e m now (.submit flow code) (.submitted outcome) m'
  | swept {n : Nat} {m' : MemoryStore} :
    Engine.Sweeps now m m' → Ends e m now .sweep (.swept (.ok n)) m'

variable {σ ι τ : Type} [VerificationStore σ] [IdentityStore ι] [MailTransport τ]

def perform (e : Engine) (w : World σ ι τ) : Operation → Answer × World σ ι τ
  | .request owner declared => ((e.request owner declared).perform w).map .requested id
  | .traitsChanged owner declared => ((e.traitsChanged owner declared).perform w).map .requested id
  | .resend owner channel value =>
    ((e.ensureChallenge ⟨owner, channel⟩ value).perform w).map .requested id
  | .openLink flow token => ((Engine.openLink flow token).perform w).map .opened id
  | .submit flow code => ((Engine.submit flow code).perform w).map .submitted id
  | .sweep => (Engine.sweep.perform w).map .swept id

/-- A resend finds its owner with the value that it is for. -/
def Aimed (w : World σ ι τ) : Operation → Prop
  | .resend owner channel value => ∃ a, VerificationStore.addressIn? ⟨owner, channel⟩ w.store =
      .ok (some a) ∧ a.value = value
  | _ => True

/-- What is required of an operation: no identifier that it draws is taken. -/
structure Possible (e : Engine) (w : World σ ι τ) (op : Operation) : Prop where
  draws : w.DrawsUnknown (op.perform e w).2
  aimed : op.Aimed w

/-! ## What identities have to do with it -/

open Vouch.Action

variable {w : World σ ι τ}

-- A request either is refused or comes to what follows.
theorem request_run (e : Engine) (id : IdentityId) (declared : DeclaredAddress) :
    (∃ error, (e.request id declared : Action σ ι τ RequestOutcome) w = .error error w) ∨
      (e.request id declared : Action σ ι τ RequestOutcome) w =
        e.ensureChallenge ⟨id, declared.channel⟩ declared.value w := by
  rcases identity_run (w := w) id with ⟨i, -, hi⟩ | ⟨error, hi⟩
  · rw [Engine.request, bind_of_ok hi]
    split
    · exact .inr rfl
    · exact .inl ⟨_, rfl⟩
  · exact .inl ⟨error, bind_of_error hi⟩

-- A change of traits either is refused or comes to what follows, once the address is declared.
theorem traitsChanged_declares (e : Engine) (id : IdentityId) (declared : DeclaredAddress) :
    (∃ error, (e.traitsChanged id declared : Action σ ι τ RequestOutcome) w = .error error w) ∨
      ∃ i identities, IdentityStore.identity? id w.identities = .ok (some i) ∧
        (i.traits.address? declared.channel = some declared.value ∧ identities = w.identities ∨
          IdentityStore.updateTraits id (i.traits.setAddress declared.channel declared.value)
            w.identities = .ok identities) ∧
        (e.traitsChanged id declared : Action σ ι τ RequestOutcome) w =
          e.ensureChallenge ⟨id, declared.channel⟩ declared.value { w with identities } := by
  rcases identity_run (w := w) id with ⟨i, hread, hi⟩ | ⟨error, hi⟩
  · by_cases hdeclared : i.traits.address? declared.channel = some declared.value
    · refine .inr ⟨i, w.identities, hread, .inl ⟨hdeclared, rfl⟩, ?_⟩
      rw [Engine.traitsChanged, bind_of_ok hi, if_neg (not_not_intro hdeclared)]
    · rcases updateTraits_run (w := w) id (i.traits.setAddress declared.channel declared.value)
        with ⟨identities, hwrite, hrun⟩ | ⟨error, hrun⟩
      · refine .inr ⟨i, identities, hread, .inr hwrite, ?_⟩
        rw [Engine.traitsChanged, bind_of_ok hi, if_pos hdeclared]
        exact bind_of_ok hrun
      · refine .inl ⟨error, ?_⟩
        rw [Engine.traitsChanged, bind_of_ok hi, if_pos hdeclared]
        exact bind_of_error hrun
  · exact .inl ⟨error, bind_of_error hi⟩

theorem traitsChanged_run (e : Engine) (id : IdentityId) (declared : DeclaredAddress) :
    (∃ error, (e.traitsChanged id declared : Action σ ι τ RequestOutcome) w = .error error w) ∨
      ∃ identities, (e.traitsChanged id declared : Action σ ι τ RequestOutcome) w =
        e.ensureChallenge ⟨id, declared.channel⟩ declared.value { w with identities } := by
  rcases traitsChanged_declares (w := w) e id declared with hrefused | ⟨_, identities, -, -, hrun⟩
  · exact .inl hrefused
  · exact .inr ⟨identities, hrun⟩

/-! ## The ends of operations -/

variable [Backend σ] {m : MemoryStore}

omit [IdentityStore ι] in
-- What follows once the slot and the value are settled.
theorem ensureChallenge_ends (e : Engine) (h : Backend.Shows w.store m) {slot : Slot}
    {value : Contact} (hdraws : w.DrawsUnknown ((e.ensureChallenge slot value).perform w).2) :
    ∃ m', Backend.Shows ((e.ensureChallenge slot value).perform w).2.store m' ∧
      e.Ensures m slot value w.now ((e.ensureChallenge slot value).perform w).1 m' ∧
      ((e.ensureChallenge slot value).perform w).2.mailer = MailTransport.deliver w.now
        (e.mailsFor m' ((e.ensureChallenge slot value).perform w).1) w.mailer := by
  refine e.ensureChallenge_ensures h ?_ fun hflow => ?_
  · have haddress := hdraws.address (e.ensureChallenge_drawn slot value)
    rw [Backend.address?_eq h] at haddress
    exact Except.ok.inj haddress
  · have hunknown := hdraws.flow hflow
    rw [Backend.challenge?_eq h] at hunknown
    exact Except.ok.inj hunknown

/-- Every operation has one of these ends. -/
theorem perform_ends (e : Engine) (h : Backend.Shows w.store m) {op : Operation}
    (hop : op.Possible e w) :
    ∃ m', Backend.Shows (op.perform e w).2.store m' ∧
      Ends e m w.now op (op.perform e w).1 m' := by
  have hdraws := hop.draws
  cases op with
  | request id declared =>
    rcases request_run (w := w) e id declared with ⟨error, hrun⟩ | hrun
    · rw [perform, perform_of_error hrun]
      have hdeclares : (Operation.request id declared).Declares ⟨id, declared.channel⟩
        declared.value := .request
      exact ⟨m, h, .refused hdeclares⟩
    · rw [perform, perform_congr hrun] at hdraws ⊢
      obtain ⟨m', hshows, hensures, -⟩ := ensureChallenge_ends e h hdraws
      exact ⟨m', hshows, .declared .request hensures⟩
  | traitsChanged id declared =>
    rcases traitsChanged_run (w := w) e id declared with ⟨error, hrun⟩ | ⟨identities, hrun⟩
    · rw [perform, perform_of_error hrun]
      have hdeclares : (Operation.traitsChanged id declared).Declares ⟨id, declared.channel⟩
        declared.value := .traitsChanged
      exact ⟨m, h, .refused hdeclares⟩
    · rw [perform, perform_congr hrun] at hdraws ⊢
      obtain ⟨m', hshows, hensures, -⟩ := ensureChallenge_ends (w := { w with identities }) e h
        ⟨hdraws.address, hdraws.flow⟩
      exact ⟨m', hshows, .declared .traitsChanged hensures⟩
  | resend owner channel value =>
    -- the slot of the owner holds an address with the value
    obtain ⟨a, ha, hvalue⟩ := hop.aimed
    obtain ⟨id, hget, hslot⟩ := Backend.stored_of_addressIn? h ha
    obtain ⟨m', hshows, hensures, -⟩ := ensureChallenge_ends e h hdraws
    exact ⟨m', hshows, .resent (MemoryStore.account?_of_get? hget) hslot hvalue hensures⟩
  | openLink flow token =>
    obtain ⟨m', hshows, hopens⟩ := Engine.openLink_opens (ι := ι) (τ := τ) h flow token
    exact ⟨m', hshows, .opened hopens⟩
  | submit flow code =>
    obtain ⟨m', hshows, hsubmits⟩ := Engine.submit_submits (ι := ι) (τ := τ) h flow code
    exact ⟨m', hshows, .submitted hsubmits⟩
  | sweep =>
    obtain ⟨n, m', hanswer, hshows, hsweeps⟩ := Engine.sweep_sweeps (ι := ι) (τ := τ) h
    refine ⟨m', hshows, ?_⟩
    show Ends e m w.now .sweep (.swept ((Engine.sweep : Action σ ι τ Nat).perform w).1) m'
    rw [hanswer]
    exact .swept hsweeps

end Operation

end Vouch
