import Vouch.Proofs.Engine.Run

/-!
# Whatever the transport

An operation ends the same whatever transport carries its messages, and whether or not it takes
them.  So what is handed to a transport can be read off a run with a recorder in its place.
-/

namespace Vouch

variable {σ ι τ α β : Type}

/-- The world with another transport in place of its own. -/
def World.withMailer {τ' : Type} (w : World σ ι τ) (mailer : τ') : World σ ι τ' where
  store := w.store
  identities := w.identities
  mailer
  now := w.now
  entropy := w.entropy

/-- A recorder that takes what it is handed, after the messages that it has taken before. -/
def MailRecorder.of (sent : List Mail) : MailRecorder := ⟨sent, false⟩

theorem MailTransport.deliver_append [MailTransport τ] (now : Timestamp) (mails more : List Mail)
    (transport : τ) :
    deliver now (mails ++ more) transport = deliver now more (deliver now mails transport) :=
  List.foldl_append

theorem MailRecorder.deliver_of (now : Timestamp) (mails sent : List Mail) :
    MailTransport.deliver now mails (MailRecorder.of sent) = .of (sent ++ mails) := by
  induction mails generalizing sent with
  | nil => rw [List.append_nil]; rfl
  | cons mail mails ih =>
    rw [← List.singleton_append, MailTransport.deliver_append, ← List.append_assoc, ← ih]
    rfl

/-- One change of worlds with two transports.  Both times it ends the same, and the messages that
the one transport is handed, which have a property, are those that the recorder notes. -/
def Handed [MailTransport τ] (P : Mail → Prop)
    (x : World σ ι MailRecorder → α × World σ ι MailRecorder)
    (y : World σ ι τ → α × World σ ι τ) : Prop :=
  ∀ (w : World σ ι τ) (sent : List Mail), ∃ mails, (∀ mail ∈ mails, P mail) ∧
    (y w).2.now = w.now ∧ (y w).2.mailer = MailTransport.deliver w.now mails w.mailer ∧
    x (w.withMailer (.of sent)) = ((y w).1, (y w).2.withMailer (.of (sent ++ mails)))

namespace Handed

variable [MailTransport τ] {P : Mail → Prop}
  {x : World σ ι MailRecorder → α × World σ ι MailRecorder}
  {y : World σ ι τ → α × World σ ι τ}

theorem map (h : Handed P x y) (f : α → β) :
    Handed P (fun w => (x w).map f id) (fun w => (y w).map f id) := by
  intro w sent
  obtain ⟨mails, hP, hnow, hmailer, hrun⟩ := h w sent
  exact ⟨mails, hP, hnow, hmailer, congrArg (Prod.map f id) hrun⟩

/-- What the transport is handed is what the recorder has noted in its place. -/
theorem mailer (h : Handed P x y) (w : World σ ι τ) :
    (∀ mail ∈ (x (w.withMailer .empty)).2.mailer.sent, P mail) ∧ (y w).2.now = w.now ∧
      (y w).2.mailer =
        MailTransport.deliver w.now (x (w.withMailer .empty)).2.mailer.sent w.mailer := by
  obtain ⟨mails, hP, hnow, hmailer, hrun⟩ := h w []
  rw [show MailRecorder.empty = .of [] from rfl, hrun]
  exact ⟨hP, hnow, hmailer⟩

/-- Another transport changes nothing but what becomes of the messages. -/
theorem withMailer {τ' : Type} [MailTransport τ'] {P' : Mail → Prop}
    {y' : World σ ι τ' → α × World σ ι τ'} (h : Handed P x y) (h' : Handed P' x y')
    (w : World σ ι τ) (mailer : τ') :
    y' (w.withMailer mailer) = ((y w).1, (y w).2.withMailer
      (MailTransport.deliver w.now (x (w.withMailer .empty)).2.mailer.sent mailer)) := by
  obtain ⟨mails, -, -, -, hrun⟩ := h w []
  obtain ⟨mails', -, -, hmailer, hrun'⟩ := h' (w.withMailer mailer) []
  have hsame : ((y' (w.withMailer mailer)).1,
      (y' (w.withMailer mailer)).2.withMailer (MailRecorder.of ([] ++ mails'))) =
      ((y w).1, (y w).2.withMailer (.of ([] ++ mails))) := hrun'.symm.trans hrun
  obtain ⟨hanswer, hworld⟩ := Prod.mk.inj hsame
  have hmails : mails' = mails := congrArg (fun w : World σ ι MailRecorder => w.mailer.sent) hworld
  have hback : (y' (w.withMailer mailer)).2 =
      (y w).2.withMailer (y' (w.withMailer mailer)).2.mailer :=
    congrArg (World.withMailer · (y' (w.withMailer mailer)).2.mailer) hworld
  rw [show MailRecorder.empty = .of [] from rfl, hrun]
  refine Prod.ext hanswer (hback.trans ?_)
  rw [hmailer, hmails]
  rfl

end Handed

namespace Action

variable [MailTransport τ]

/-- One action with two transports, of which one is a recorder. -/
def Recorded (P : Mail → Prop) (x : Action σ ι MailRecorder α) (y : Action σ ι τ α) : Prop :=
  Handed P x.perform y.perform

section Steps

variable {P : Mail → Prop}

-- A step that has nothing to do with the transport.
theorem recorded_of_spared {x : Action σ ι MailRecorder α} {y : Action σ ι τ α}
    (hy : ∀ w, (y.perform w).2.now = w.now ∧ (y.perform w).2.mailer = w.mailer)
    (hx : ∀ w recorder, x.perform (World.withMailer w recorder) =
      ((y.perform w).1, (y.perform w).2.withMailer recorder)) : Recorded P x y := by
  intro w sent
  refine ⟨[], fun _ hmail => (nomatch hmail), (hy w).1, (hy w).2, ?_⟩
  rw [hx, List.append_nil]

theorem recorded_pure (a : α) : Recorded P (pure a) (pure a : Action σ ι τ α) :=
  recorded_of_spared (fun _ => ⟨rfl, rfl⟩) fun _ _ => rfl

theorem recorded_throw (error : VerificationError) :
    Recorded P (throw error) (throw error : Action σ ι τ α) :=
  recorded_of_spared (fun _ => ⟨rfl, rfl⟩) fun _ _ => rfl

theorem recorded_ofExcept (result : Except VerificationError α) :
    Recorded P (ofExcept result) (ofExcept result : Action σ ι τ α) := by
  cases result with
  | ok a => exact recorded_pure a
  | error error => exact recorded_throw error

theorem recorded_now : Recorded P now (now : Action σ ι τ Timestamp) :=
  recorded_of_spared (fun _ => ⟨rfl, rfl⟩) fun _ _ => rfl

theorem recorded_draw (f : Entropy → α × Entropy) :
    Recorded P (draw f) (draw f : Action σ ι τ α) :=
  recorded_of_spared (fun _ => ⟨rfl, rfl⟩) fun _ _ => rfl

theorem Recorded.bind {x : Action σ ι MailRecorder α} {y : Action σ ι τ α}
    {f : α → Action σ ι MailRecorder β} {g : α → Action σ ι τ β} (h : Recorded P x y)
    (hf : ∀ a, Recorded P (f a) (g a)) : Recorded P (x >>= f) (y >>= g) := by
  intro w sent
  obtain ⟨mails, hP, hnow, hmailer, hrun⟩ := h w sent
  cases hy : y w with
  | error error w₁ =>
    rw [perform_of_error hy] at hnow hmailer hrun
    refine ⟨mails, hP, ?_⟩
    rw [perform_of_error (bind_of_error hy),
      perform_of_error (bind_of_error (of_perform_error hrun))]
    exact ⟨hnow, hmailer, rfl⟩
  | ok a w₁ =>
    rw [perform_of_ok hy] at hnow hmailer hrun
    obtain ⟨more, hP', hnow', hmailer', hrun'⟩ := hf a w₁ (sent ++ mails)
    refine ⟨mails ++ more, fun mail hmail => (List.mem_append.mp hmail).elim (hP mail) (hP' mail),
      ?_⟩
    rw [perform_congr (bind_of_ok hy), perform_congr (bind_of_ok (of_perform_ok hrun)), hrun',
      hnow', hmailer', MailTransport.deliver_append, List.append_assoc]
    dsimp only at hnow hmailer
    rw [hnow, hmailer]
    exact ⟨rfl, rfl, rfl⟩

-- A guard in front of an action.
theorem Recorded.unless {x : Action σ ι MailRecorder α} {y : Action σ ι τ α} (h : Recorded P x y)
    (c : Prop) [Decidable c] (error : VerificationError) :
    Recorded P (if c then do (throw error : Action σ ι MailRecorder PUnit); x else x)
      (if c then do (throw error : Action σ ι τ PUnit); y else y) := by
  split
  · exact (recorded_throw error).bind fun _ => h
  · exact h

theorem recorded_readStore (read : σ → Except StoreError α) :
    Recorded P (readStore read) (readStore read : Action σ ι τ α) := by
  have hrun : ∀ {τ : Type} (w : World σ ι τ),
      (readStore read : Action σ ι τ α).perform w = ((read w.store).mapError .store, w) := by
    intro τ w
    cases h : read w.store with
    | ok a => exact perform_of_ok (readStore_of_ok h)
    | error e => exact perform_of_error (readStore_of_error h)
  refine recorded_of_spared (fun w => ?_) fun w recorder => ?_
  · rw [hrun]
    exact ⟨rfl, rfl⟩
  · rw [hrun, hrun]
    rfl

theorem recorded_changeStore (change : σ → Except StoreError (α × σ)) :
    Recorded P (changeStore change) (changeStore change : Action σ ι τ α) := by
  refine recorded_of_spared (fun w => ?_) fun w recorder => ?_
  · cases h : change w.store with
    | ok result =>
      rw [perform_of_ok (changeStore_of_ok h)]
      exact ⟨rfl, rfl⟩
    | error e =>
      rw [perform_of_error (changeStore_of_error h)]
      exact ⟨rfl, rfl⟩
  · cases h : change w.store with
    | ok result =>
      rw [perform_of_ok (changeStore_of_ok h),
        perform_of_ok (changeStore_of_ok (w := w.withMailer recorder) h)]
      rfl
    | error e =>
      rw [perform_of_error (changeStore_of_error h),
        perform_of_error (changeStore_of_error (w := w.withMailer recorder) h)]

theorem recorded_send {mail : Mail} (hmail : P mail) :
    Recorded P (send mail) (send mail : Action σ ι τ Unit) := by
  intro w sent
  refine ⟨[mail], fun _ h => List.mem_singleton.mp h ▸ hmail, ?_⟩
  rw [perform_of_ok (send_run mail), perform_of_ok (send_run mail)]
  exact ⟨rfl, rfl, rfl⟩

theorem recorded_mapM {γ : Type} {f : γ → Action σ ι MailRecorder α} {g : γ → Action σ ι τ α}
    (h : ∀ c, Recorded P (f c) (g c)) (l : List γ) : Recorded P (l.mapM f) (l.mapM g) := by
  induction l with
  | nil => exact recorded_pure []
  | cons c l ih =>
    rw [List.mapM_cons, List.mapM_cons]
    exact (h c).bind fun a => ih.bind fun as => recorded_pure (a :: as)

theorem recorded_identity [IdentityStore ι] (id : IdentityId) :
    Recorded P (identity id) (identity id : Action σ ι τ Identity) := by
  refine recorded_of_spared (fun w => ?_) fun w recorder => ?_
  · rw [identity_perform]
    exact ⟨rfl, rfl⟩
  · rw [identity_perform, identity_perform]
    rfl

theorem recorded_updateTraits [IdentityStore ι] (id : IdentityId) (traits : Traits) :
    Recorded P (updateTraits id traits) (updateTraits id traits : Action σ ι τ Unit) := by
  refine recorded_of_spared (fun w => ?_) fun w recorder => ?_
  · rw [updateTraits_perform]
    split <;> exact ⟨rfl, rfl⟩
  · rw [updateTraits_perform, updateTraits_perform,
      show (w.withMailer recorder).identities = w.identities from rfl]
    cases IdentityStore.updateTraits id traits w.identities <;> rfl

end Steps

end Action

namespace Engine

open Vouch.Action

variable [VerificationStore σ] [MailTransport τ] {P : Mail → Prop}

/-! ## Requests -/

section Requests

omit [VerificationStore σ] in
theorem recorded_mailLink (e : Engine) (c : Challenge) :
    Recorded (fun _ => True) (e.mailLink c) (e.mailLink c : Action σ ι τ Unit) := by
  unfold mailLink
  cases e.publicUrl.link c.id c.token with
  | ok url => exact recorded_send trivial
  | error _ => exact recorded_pure ()

theorem recorded_issueChallenge (e : Engine) (a : Address) :
    Recorded (fun _ => True) (e.issueChallenge a) (e.issueChallenge a : Action σ ι τ FlowId) := by
  unfold issueChallenge
  refine (recorded_draw _).bind fun flow => ?_
  refine (recorded_draw _).bind fun secret => ?_
  refine recorded_now.bind fun now => ?_
  refine (recorded_changeStore _).bind fun _ => ?_
  exact (recorded_mailLink e _).bind fun _ => recorded_pure flow

theorem recorded_ensureChallenge (e : Engine) (slot : Slot) (value : Contact) :
    Recorded (fun _ => True) (e.ensureChallenge slot value)
      (e.ensureChallenge slot value : Action σ ι τ RequestOutcome) := by
  have hissue (a : Address) : Recorded (fun _ => True) (do return .issued (← e.issueChallenge a))
      (do return .issued (← e.issueChallenge a) : Action σ ι τ RequestOutcome) :=
    (recorded_issueChallenge e a).bind fun flow => recorded_pure (RequestOutcome.issued flow)
  unfold ensureChallenge
  refine recorded_now.bind fun now => ?_
  refine (recorded_draw _).bind fun id => ?_
  refine (recorded_changeStore _).bind fun upserted => ?_
  dsimp only
  split
  · exact recorded_pure _
  refine (recorded_readStore _).bind fun current => ?_
  cases current with
  | none => exact hissue _
  | some c =>
    dsimp only
    split
    · exact (recorded_mailLink e c).bind fun _ => recorded_pure _
    · exact (recorded_changeStore _).bind fun _ => hissue _

theorem recorded_requestByValue (e : Engine) (channel : Channel) (raw : String) :
    Recorded (fun _ => True) (e.requestByValue channel raw)
      (e.requestByValue channel raw : Action σ ι τ (List RequestOutcome)) := by
  unfold requestByValue
  refine (recorded_ofExcept _).bind fun value => ?_
  refine (recorded_readStore _).bind fun owners => ?_
  split
  · exact (recorded_send trivial).bind fun _ => recorded_pure _
  · exact recorded_mapM (fun owner => recorded_ensureChallenge e _ value) owners

variable [IdentityStore ι]

theorem recorded_request (e : Engine) (id : IdentityId) (declared : DeclaredAddress) :
    Recorded (fun _ => True) (e.request id declared)
      (e.request id declared : Action σ ι τ RequestOutcome) := by
  unfold request
  refine (recorded_identity id).bind fun i => ?_
  split
  · exact recorded_ensureChallenge e _ _
  · exact recorded_throw _

theorem recorded_traitsChanged (e : Engine) (id : IdentityId) (declared : DeclaredAddress) :
    Recorded (fun _ => True) (e.traitsChanged id declared)
      (e.traitsChanged id declared : Action σ ι τ RequestOutcome) := by
  unfold traitsChanged
  refine (recorded_identity id).bind fun i => ?_
  dsimp only
  split
  · exact (recorded_updateTraits id _).bind fun _ => recorded_ensureChallenge e _ _
  · exact recorded_ensureChallenge e _ _

omit [VerificationStore σ] in
theorem recorded_declaredAddresses (id : IdentityId) :
    Recorded (fun _ => True) (declaredAddresses id)
      (declaredAddresses id : Action σ ι τ (List DeclaredAddress)) := by
  unfold declaredAddresses
  exact (recorded_identity id).bind fun i => recorded_pure _

theorem recorded_afterRegistration (e : Engine) (id : IdentityId) :
    Recorded (fun _ => True) (e.afterRegistration id)
      (e.afterRegistration id : Action σ ι τ (List RequestOutcome)) := by
  unfold afterRegistration
  refine (recorded_declaredAddresses id).bind fun declared => ?_
  exact recorded_mapM (fun declared => recorded_request e id declared) declared

theorem recorded_afterSettings (e : Engine) (id : IdentityId) :
    Recorded (fun _ => True) (e.afterSettings id)
      (e.afterSettings id : Action σ ι τ (List RequestOutcome)) := by
  unfold afterSettings
  refine (recorded_declaredAddresses id).bind fun declared => ?_
  exact recorded_mapM (fun declared => recorded_traitsChanged e id declared) declared

end Requests

/-! ## Answers -/

section Answers

theorem recorded_challenge (flow : FlowId) :
    Recorded P (challenge flow) (challenge flow : Action σ ι τ Challenge) := by
  unfold challenge
  refine (recorded_readStore _).bind fun found => ?_
  cases found with
  | none => exact recorded_throw _
  | some c => exact recorded_pure c

theorem recorded_addressOf (c : Challenge) :
    Recorded P (addressOf c) (addressOf c : Action σ ι τ Address) := by
  unfold addressOf
  refine (recorded_readStore _).bind fun found => ?_
  cases found with
  | none => exact recorded_throw _
  | some a => exact recorded_pure a

theorem recorded_expiredFlow (c : Challenge) :
    Recorded P (expiredFlow c) (expiredFlow c : Action σ ι τ α) := by
  unfold expiredFlow
  exact (recorded_addressOf c).bind fun a => recorded_throw _

theorem recorded_expireElapsed (c : Challenge) :
    Recorded P (expireElapsed c) (expireElapsed c : Action σ ι τ α) := by
  unfold expireElapsed
  refine recorded_now.bind fun now => ?_
  exact (recorded_changeStore _).bind fun c => recorded_expiredFlow c

theorem recorded_openLink (flow : FlowId) (token : String) :
    Recorded P (openLink flow token) (openLink flow token : Action σ ι τ FlowState) := by
  unfold openLink
  refine (recorded_challenge flow).bind fun c => ?_
  dsimp only
  refine Recorded.unless (recorded_now.bind fun now => ?_) _ _
  cases c.state with
  | completed =>
    refine (recorded_addressOf c).bind fun a => ?_
    split
    · exact recorded_pure _
    · exact recorded_expiredFlow c
  | active =>
    dsimp only
    split
    · exact recorded_pure _
    · exact recorded_expireElapsed c
  | expired => exact recorded_expiredFlow c

theorem recorded_rejectCode (flow : FlowId) :
    Recorded P (rejectCode flow) (rejectCode flow : Action σ ι τ SubmitOutcome) := by
  unfold rejectCode
  refine recorded_now.bind fun now => ?_
  refine (recorded_changeStore _).bind fun outcome => ?_
  cases outcome with
  | remaining attempts => exact recorded_throw _
  | exhausted => exact recorded_throw _
  | notActive _ => exact (recorded_challenge flow).bind fun c => recorded_expiredFlow c

theorem recorded_acceptCode (flow : FlowId) :
    Recorded P (acceptCode flow) (acceptCode flow : Action σ ι τ SubmitOutcome) := by
  unfold acceptCode
  refine recorded_now.bind fun now => ?_
  refine (recorded_changeStore _).bind fun outcome => ?_
  cases outcome with
  | completed a => exact recorded_pure _
  | alreadyCompleted a => exact recorded_pure _
  | expired c => exact recorded_expiredFlow c

theorem recorded_submit (flow : FlowId) (code : String) :
    Recorded P (submit flow code) (submit flow code : Action σ ι τ SubmitOutcome) := by
  unfold submit
  refine (recorded_challenge flow).bind fun c => ?_
  dsimp only
  cases c.state with
  | expired =>
    dsimp only
    split
    · exact recorded_throw _
    · exact recorded_expiredFlow c
  | completed =>
    dsimp only
    split
    · exact recorded_acceptCode flow
    · exact recorded_throw _
  | active =>
    refine recorded_now.bind fun now => ?_
    split
    · exact recorded_expireElapsed c
    split
    · exact recorded_acceptCode flow
    · exact recorded_rejectCode flow

theorem recorded_sweep : Recorded P sweep (sweep : Action σ ι τ Nat) := by
  unfold sweep
  refine recorded_now.bind fun now => ?_
  refine (recorded_readStore _).bind fun active => ?_
  exact (recorded_mapM (fun c => recorded_changeStore _) _).bind fun ended => recorded_pure _

end Answers

end Engine

/-! ## Operations and batches -/

section Performing

variable [VerificationStore σ] [IdentityStore ι] [MailTransport τ] {e : Engine} {w : World σ ι τ}

namespace Operation

/-- The messages that an operation hands to the transport. -/
def mails (e : Engine) (w : World σ ι τ) (op : Operation) : List Mail :=
  (op.perform e (w.withMailer MailRecorder.empty)).2.mailer.sent

theorem handed (e : Engine) (op : Operation) :
    Handed (fun _ => True) (fun w : World σ ι MailRecorder => op.perform e w)
      (fun w : World σ ι τ => op.perform e w) := by
  cases op with
  | request id declared => exact Handed.map (Engine.recorded_request e id declared) _
  | traitsChanged id declared => exact Handed.map (Engine.recorded_traitsChanged e id declared) _
  | resend owner channel value => exact Handed.map (Engine.recorded_ensureChallenge e _ value) _
  | openLink flow token => exact Handed.map (Engine.recorded_openLink flow token) _
  | submit flow code => exact Handed.map (Engine.recorded_submit flow code) _
  | sweep => exact Handed.map Engine.recorded_sweep _

/-- Another transport, or one that fails, changes neither the answer nor anything that is stored. -/
theorem perform_withMailer {τ' : Type} [MailTransport τ'] (e : Engine) (w : World σ ι τ)
    (op : Operation) (mailer : τ') :
    op.perform e (w.withMailer mailer) = ((op.perform e w).1,
      (op.perform e w).2.withMailer (MailTransport.deliver w.now (op.mails e w) mailer)) :=
  Handed.withMailer (op.handed e) (op.handed e) w mailer

end Operation

namespace Batch

/-- The messages that a batch hands to the transport. -/
def mails (e : Engine) (w : World σ ι τ) (b : Batch) : List Mail :=
  (b.perform e (w.withMailer MailRecorder.empty)).2.mailer.sent

theorem handed (e : Engine) (b : Batch) :
    Handed (fun _ => True) (fun w : World σ ι MailRecorder => b.perform e w)
      (fun w : World σ ι τ => b.perform e w) := by
  intro w sent
  cases b with
  | requestByValue channel raw =>
    simp only [perform]
    exact Engine.recorded_requestByValue e channel raw w sent
  | afterRegistration id => exact Engine.recorded_afterRegistration e id w sent
  | afterSettings id => exact Engine.recorded_afterSettings e id w sent

theorem perform_withMailer {τ' : Type} [MailTransport τ'] (e : Engine) (w : World σ ι τ)
    (b : Batch) (mailer : τ') :
    b.perform e (w.withMailer mailer) = ((b.perform e w).1,
      (b.perform e w).2.withMailer (MailTransport.deliver w.now (b.mails e w) mailer)) :=
  Handed.withMailer (b.handed e) (b.handed e) w mailer

omit [MailTransport τ] in
theorem operations_withMailer {τ' : Type} (w : World σ ι τ) (b : Batch) (mailer : τ') :
    b.operations (w.withMailer mailer) = b.operations w := by
  cases b with
  | requestByValue channel raw =>
    rw [operations, operations]
    cases Contact.parse channel raw <;> rfl
  | afterRegistration id => rfl
  | afterSettings id => rfl

omit [IdentityStore ι] [MailTransport τ] in
theorem notices_withMailer {τ' : Type} (w : World σ ι τ) (b : Batch) (mailer : τ') :
    b.notices (w.withMailer mailer) = b.notices w := by
  cases b with
  | requestByValue channel raw =>
    rw [notices, notices]
    cases Contact.parse channel raw <;> rfl
  | afterRegistration id => rfl
  | afterSettings id => rfl

end Batch

/-! ## Runs -/

namespace Engine

variable {τ' : Type} [MailTransport τ'] {w' : World σ ι τ}

theorem possible_withMailer {op : Operation} (hop : op.Possible e w) (mailer : τ') :
    op.Possible e (w.withMailer mailer) := by
  refine ⟨?_, ?_⟩
  · rw [op.perform_withMailer]
    exact ⟨hop.draws.address, hop.draws.flow⟩
  · have haimed := hop.aimed
    cases op with
    | resend owner channel value => exact haimed
    | request | traitsChanged | openLink | submit | sweep => trivial

theorem drawUnknown_withMailer {ops : List Operation} (hdraws : e.DrawUnknown ops w)
    (mailer : τ') : e.DrawUnknown ops (w.withMailer mailer) := by
  induction ops generalizing w mailer with
  | nil => trivial
  | cons op ops ih =>
    rw [DrawUnknown, op.perform_withMailer]
    exact ⟨⟨hdraws.1.address, hdraws.1.flow⟩,
      fun outcome houtcome => ih (hdraws.2 outcome houtcome) _⟩

-- What happens to a world happens to it with any transport.
theorem event_withMailer (hevent : e.Event w w') (mailer : τ') :
    ∃ mailer', e.Event (w.withMailer mailer) (w'.withMailer mailer') := by
  cases hevent with
  | step hstep =>
    cases hstep with
    | @operation op hop =>
      have hstep := Step.operation (possible_withMailer hop mailer)
      rw [op.perform_withMailer] at hstep
      exact ⟨_, .step hstep⟩
    | outside hstore => exact ⟨mailer, .step (.outside hstore)⟩
  | @batch b hdraws =>
    have hevent : e.Event (w.withMailer mailer) (b.perform e (w.withMailer mailer)).2 :=
      .batch (by
        rw [b.operations_withMailer]
        exact drawUnknown_withMailer hdraws mailer)
    rw [b.perform_withMailer] at hevent
    exact ⟨_, hevent⟩

/-- Whatever is stored in a run is stored in the same run with any transport. -/
theorem run_withMailer (hrun : e.Run w w') (mailer : τ') :
    ∃ mailer', e.Run (w.withMailer mailer) (w'.withMailer mailer') := by
  induction hrun with
  | refl => exact ⟨mailer, .refl⟩
  | tail _ hevent ih =>
    obtain ⟨mailer', hrun'⟩ := ih
    obtain ⟨mailer'', hevent'⟩ := event_withMailer hevent mailer'
    exact ⟨mailer'', .tail hrun' hevent'⟩

end Engine

end Performing

end Vouch
