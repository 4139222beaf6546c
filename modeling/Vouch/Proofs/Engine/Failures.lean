import Vouch.Proofs.Engine.Course
import Vouch.Proofs.Engine.Outcome
import Vouch.Proofs.Engine.Sections
import Vouch.Proofs.Store.Failures

/-!
# No store fails

The stores have errors for records that point at records that are not there, for identifiers that
are taken and for names that are unknown.  From empty stores none of them can be reached, as long as
drawn identifiers are new and keys are short enough to be written: whatever the engine is asked, it
never answers that a store failed.
-/

namespace Vouch

open Vouch.Action

/-- An answer other than that a store failed. -/
def Proper {α : Type} (answer : Except VerificationError α) : Prop :=
  ∀ cause, answer ≠ .error (.store cause)

def Answer.Proper : Answer → Prop
  | .requested outcome => Vouch.Proper outcome
  | .opened state => Vouch.Proper state
  | .submitted outcome => Vouch.Proper outcome
  | .swept ended => Vouch.Proper ended

/-! ## Runs -/

section Keys

variable (σ ι : Type) [VerificationStore σ] [Backend σ] [FirmBackend σ] [IdentityStore ι]
  [Registry ι]

/-- The keys that an operation asks for can be written. -/
def Operation.Fits : Operation → Prop
  | .request id declared | .traitsChanged id declared =>
    Registry.Storable ι ⟨id, ⟨[declared]⟩⟩ ∧
      FirmBackend.Fits σ ⟨id, declared.channel⟩ declared.value
  | _ => True

variable {σ ι}

/-- The keys that a batch asks for can be written. -/
def Batch.Fits {τ : Type} (w : World σ ι τ) : Batch → Prop
  | .requestByValue _ _ => True
  | .afterRegistration id => Registry.Storable ι ⟨id, ⟨[]⟩⟩ ∧
    ∀ declared ∈ Batch.declared w id, (Operation.request id declared).Fits σ ι
  | .afterSettings id => Registry.Storable ι ⟨id, ⟨[]⟩⟩ ∧
    ∀ declared ∈ Batch.declared w id, (Operation.traitsChanged id declared).Fits σ ι

end Keys

namespace Engine

section Runs

variable {σ ι τ : Type} [VerificationStore σ] [Backend σ] [FirmBackend σ] [IdentityStore ι]
  [Registry ι] [MailTransport τ]

/-- What can happen to a world.  Identities are entered and edited by a system of their own; the
clock, the transport and the random bytes are whatever they are. -/
inductive Happens (e : Engine) : World σ ι τ → World σ ι τ → Prop where
  | operation {w : World σ ι τ} {op : Operation} : op.Possible e w → op.Fits σ ι →
    Happens e w (op.perform e w).2
  | batch {w : World σ ι τ} {b : Batch} : e.DrawUnknown (b.operations w) w → b.Fits w →
    Happens e w (b.perform e w).2
  | entered {w : World σ ι τ} {i : Identity} {identities : ι} : Registry.Storable ι i →
    Registry.enter i w.identities = .ok identities → Happens e w { w with identities }
  | edited {w : World σ ι τ} {id : IdentityId} {traits : Traits} {identities : ι} :
    Registry.Storable ι ⟨id, traits⟩ →
    IdentityStore.updateTraits id traits w.identities = .ok identities →
    Happens e w { w with identities }
  | outside {w w' : World σ ι τ} : w'.store = w.store → w'.identities = w.identities →
    Happens e w w'

/-- What can come of empty stores. -/
def Arises (e : Engine) (w : World σ ι τ) : Prop :=
  ∃ w₀ : World σ ι τ, w₀.store = Backend.empty ∧ w₀.identities = Registry.empty ∧
    Relation.ReflTransGen e.Happens w₀ w

end Runs

/-! ## A code that comes too late -/

section Late

variable {σ ι τ : Type} [VerificationStore σ]

/-- Counting a wrong code, with something else in the branch of a challenge that is not active any
more. -/
def rejectCodeOr (late : Action σ ι τ SubmitOutcome) (flow : FlowId) :
    Action σ ι τ SubmitOutcome := do
  match ← changeStore (VerificationStore.failAttempt flow (← now)) with
  | .remaining attempts => throw (.invalidCode attempts)
  | .exhausted => throw .attemptsExhausted
  | .notActive _ => late

/-- Entering a code, with something else in that branch. -/
def submitOr (late : Action σ ι τ SubmitOutcome) (flow : FlowId) (code : String) :
    Action σ ι τ SubmitOutcome := do
  let c ← challenge flow
  let isRight := Secret.verify c.code code
  match c.state with
  | .expired =>
    if c.expiredReason = some .attemptsExhausted then throw .attemptsExhausted else expiredFlow c
  | .completed => if isRight then acceptCode flow else throw (.invalidCode c.attemptsRemaining)
  | .active =>
    if !c.isLive (← now) then expireElapsed c
    else if isRight then acceptCode flow
    else rejectCodeOr late flow

theorem submit_eq (flow : FlowId) (code : String) :
    (submit flow code : Action σ ι τ SubmitOutcome) =
      submitOr (do expiredFlow (← challenge flow)) flow code :=
  rfl

variable [Backend σ] {w : World σ ι τ} {m : MemoryStore} {flow : FlowId} {c : Challenge}
  {acc : Account}

-- An active challenge is active when the code is counted.
theorem rejectCodeOr_perform (h : Backend.Shows w.store m) (hf : Finds m flow c acc)
    (hact : c.isActive = true) (late late' : Action σ ι τ SubmitOutcome) :
    (rejectCodeOr late flow).perform w = (rejectCodeOr late' flow).perform w := by
  obtain ⟨s, m', hfail, -⟩ := Backend.failAttempt_known h hf.challenge hf.account w.now
  simp only [rejectCodeOr, perform_congr (bind_of_ok now_run),
    perform_congr (bind_of_ok (changeStore_of_ok hfail))]
  rcases Attempt.fail_cases ⟨c, acc.record⟩ w.now hact with he | ⟨left, he⟩ | he
  all_goals rw [he]

/-- What stands in the branch of a challenge that is not active any more does not matter, as nothing
leads there. -/
theorem submitOr_perform (h : Backend.Shows w.store m) (late late' : Action σ ι τ SubmitOutcome)
    (flow : FlowId) (code : String) :
    (submitOr late flow code).perform w = (submitOr late' flow code).perform w := by
  cases hc : m.challenges.get? flow with
  | none =>
    have hunknown := challenge_of_unknown (ι := ι) (τ := τ) h hc
    rw [submitOr, submitOr, perform_of_error (bind_of_error hunknown),
      perform_of_error (bind_of_error hunknown)]
  | some c =>
    obtain ⟨acc, hf⟩ := Finds.of_intact (Backend.intact h) hc
    simp only [submitOr, perform_congr (bind_of_ok (challenge_of_known h hc))]
    cases hs : c.state with
    | expired => rfl
    | completed => rfl
    | active =>
      simp only [perform_congr (bind_of_ok now_run)]
      split
      · rfl
      split
      · rfl
      · exact rejectCodeOr_perform h hf (Challenge.isActive_iff.mpr hs) late late'

end Late

end Engine

/-! ## Proper answers -/

theorem proper_ok {α : Type} (a : α) : Proper (.ok a) := fun _ h => nomatch h

-- Whatever a user can act on is a proper answer.
theorem proper_error {α : Type} {error : VerificationError} (h : error.isRecoverable = true) :
    Proper (.error error : Except VerificationError α) := by
  rintro cause ⟨⟩
  cases h

theorem Engine.Opens.proper {m m' : MemoryStore} {flow : FlowId} {token : String}
    {now : Timestamp} {state : Except VerificationError FlowState}
    (h : Opens m flow token now state m') : Proper state := by
  cases h with
  | shown => exact proper_ok _
  | unknown | wrongToken | expired | elapsed => exact proper_error rfl

theorem Engine.Submits.proper {m m' : MemoryStore} {flow : FlowId} {code : String}
    {now : Timestamp} {outcome : Except VerificationError SubmitOutcome}
    (h : Submits m flow code now outcome m') : Proper outcome := by
  cases h with
  | verified | alreadyVerified => exact proper_ok _
  | unknown | exhausted | expired | wrongLate | lapsed | elapsed | changed | counted | spent =>
    exact proper_error rfl

/-! ## Worlds in order -/

section InOrder

variable {σ ι τ α β : Type} [VerificationStore σ] [Backend σ] [IdentityStore ι] [Registry ι]

/-- Whatever a world has stored can be read. -/
structure World.InOrder (w : World σ ι τ) : Prop where
  store : ∃ m, Backend.Shows w.store m
  identities : Registry.Sound w.identities

/-- What was done has a proper answer, and leaves a world in order. -/
structure Proceeds (result : Except VerificationError α × World σ ι τ) : Prop where
  answer : Proper result.1
  world : result.2.InOrder

variable {w : World σ ι τ} {flow : FlowId}

theorem World.InOrder.proceeds_error (h : w.InOrder) {error : VerificationError}
    (herror : error.isRecoverable = true) :
    Proceeds ((.error error, w) : Except VerificationError α × World σ ι τ) :=
  ⟨proper_error herror, h⟩

theorem Proceeds.bind {x : Action σ ι τ α} {f : α → Action σ ι τ β} (hx : Proceeds (x.perform w))
    (hf : ∀ {a w₁}, x w = .ok a w₁ → w₁.InOrder → Proceeds ((f a).perform w₁)) :
    Proceeds ((x >>= f).perform w) := by
  obtain ⟨hanswer, hworld⟩ := hx
  cases hrun : x w with
  | ok a w₁ =>
    rw [perform_of_ok hrun] at hworld
    rw [perform_congr (bind_of_ok hrun)]
    exact hf hrun hworld
  | error error w₁ =>
    rw [perform_of_error hrun] at hanswer hworld
    rw [perform_of_error (bind_of_error hrun)]
    exact ⟨fun cause he => hanswer cause (congrArg Except.error (Except.error.inj he)), hworld⟩

/-! ## Flows -/

namespace Engine

omit [Registry ι] [IdentityStore ι] in
theorem identities_of_yields {x : Action σ ι τ α} {m : MemoryStore} {c : Challenge} {acc : Account}
    {out : Except VerificationError α × Attempt} (h : Yields x w m c acc out) :
    (x.perform w).2.identities = w.identities := by
  obtain ⟨s, m', hrun, -⟩ := h
  rw [hrun]

omit [Registry ι] [IdentityStore ι] in
theorem openLink_identities {m : MemoryStore} (h : Backend.Shows w.store m) (flow : FlowId)
    (token : String) :
    ((openLink flow token : Action σ ι τ FlowState).perform w).2.identities = w.identities := by
  cases hc : m.challenges.get? flow with
  | none => rw [perform_of_error (openLink_unknown h hc token)]
  | some c =>
    obtain ⟨acc, hf⟩ := Finds.of_intact (Backend.intact h) hc
    by_cases htoken : c.token = token
    · subst htoken
      exact identities_of_yields (openLink_yields h hf)
    · rw [perform_of_error (openLink_wrongToken h hf htoken)]

omit [Registry ι] [IdentityStore ι] in
theorem submit_identities {m : MemoryStore} (h : Backend.Shows w.store m) (flow : FlowId)
    (code : String) :
    ((submit flow code : Action σ ι τ SubmitOutcome).perform w).2.identities = w.identities := by
  cases hc : m.challenges.get? flow with
  | none => rw [submit, perform_of_error (bind_of_error (challenge_of_unknown h hc))]
  | some c =>
    obtain ⟨acc, hf⟩ := Finds.of_intact (Backend.intact h) hc
    exact identities_of_yields (submit_yields h hf code)

theorem openLink_proceeds (h : w.InOrder) (flow : FlowId) (token : String) :
    Proceeds ((openLink flow token : Action σ ι τ FlowState).perform w) := by
  obtain ⟨m, hshows⟩ := h.store
  obtain ⟨m', hshows', hopens⟩ := openLink_opens (ι := ι) (τ := τ) hshows flow token
  refine ⟨hopens.proper, ⟨m', hshows'⟩, ?_⟩
  rw [openLink_identities hshows]
  exact h.identities

theorem submit_proceeds (h : w.InOrder) (flow : FlowId) (code : String) :
    Proceeds ((submit flow code : Action σ ι τ SubmitOutcome).perform w) := by
  obtain ⟨m, hshows⟩ := h.store
  obtain ⟨m', hshows', hsubmits⟩ := submit_submits (ι := ι) (τ := τ) hshows flow code
  refine ⟨hsubmits.proper, ⟨m', hshows'⟩, ?_⟩
  rw [submit_identities hshows]
  exact h.identities

theorem sweep_proceeds (h : w.InOrder) : Proceeds ((sweep : Action σ ι τ Nat).perform w) := by
  obtain ⟨m, hshows⟩ := h.store
  obtain ⟨n, m', hanswer, hshows', -⟩ := sweep_sweeps (ι := ι) (τ := τ) hshows
  refine ⟨?_, ⟨m', hshows'⟩, ?_⟩
  · rw [hanswer]
    exact proper_ok n
  · rw [sparesIdentities_sweep w]
    exact h.identities

theorem resume_proper (h : w.InOrder) (flow : FlowId) :
    Proper ((resume flow : Action σ ι τ FlowState).perform w).1 := by
  obtain ⟨m, hshows⟩ := h.store
  cases hc : m.challenges.get? flow with
  | none =>
    rw [resume, perform_of_error (bind_of_error (challenge_of_unknown hshows hc))]
    exact proper_error rfl
  | some c =>
    obtain ⟨acc, hf⟩ := Finds.of_intact (Backend.intact hshows) hc
    rw [resume_run hshows hf]
    exact proper_ok _

theorem expiredContext_proper (h : w.InOrder) (flow : FlowId) :
    Proper ((expiredContext flow : Action σ ι τ ExpiredContext).perform w).1 := by
  obtain ⟨m, hshows⟩ := h.store
  cases hc : m.challenges.get? flow with
  | none =>
    rw [expiredContext, perform_of_error (bind_of_error (challenge_of_unknown hshows hc))]
    exact proper_error rfl
  | some c =>
    obtain ⟨acc, hf⟩ := Finds.of_intact (Backend.intact hshows) hc
    rw [expiredContext, perform_congr (bind_of_ok (challenge_of_known hshows hc)),
      perform_congr (bind_of_ok (addressOf_run hshows hf.address)),
      perform_congr (bind_of_ok now_run)]
    -- a flow that has not expired has no context
    cases c.phaseFor acc.record w.now with
    | expired reason => exact proper_ok _
    | awaitingCode => exact proper_error rfl
    | completed => exact proper_error rfl

omit [VerificationStore σ] [Backend σ] [IdentityStore ι] [Registry ι] in
theorem readStore_proper {read : σ → Except StoreError α} (h : ∃ a, read w.store = .ok a) :
    Proper ((readStore read : Action σ ι τ α).perform w).1 := by
  obtain ⟨a, ha⟩ := h
  rw [perform_of_ok (readStore_of_ok ha)]
  exact proper_ok a

/-! ## Requests -/

-- An identity is found as it was stored, or there is none.
theorem identity_inOrder (h : w.InOrder) {id : IdentityId} {traits : Traits}
    (hname : Registry.Storable ι ⟨id, traits⟩) :
    (identity id : Action σ ι τ Identity) w = .error (.identityNotFound id) w ∨
      ∃ i, Registry.Storable ι ⟨id, i.traits⟩ ∧
        IdentityStore.identity? id w.identities = .ok (some i) ∧
        (identity id : Action σ ι τ Identity) w = .ok i w := by
  obtain ⟨found, hread, hstorable⟩ := Registry.identity?_ok h.identities hname
  have hrun := identity_perform (w := w) (τ := τ) id
  rw [hread] at hrun
  cases found with
  | none => exact .inl (of_perform_error hrun)
  | some i => exact .inr ⟨i, hstorable i rfl, hread, of_perform_ok hrun⟩

variable [FirmBackend σ] [MailTransport τ] {e : Engine}

/-- A request is not refused, and what it points at is there. -/
theorem ensureChallenge_proceeds (h : w.InOrder) {slot : Slot} {value : Contact}
    (hdraws : w.DrawsUnknown ((e.ensureChallenge slot value : Action σ ι τ _).perform w).2)
    (hfits : FirmBackend.Fits σ slot value) :
    Proceeds ((e.ensureChallenge slot value : Action σ ι τ _).perform w) := by
  obtain ⟨m, hshows⟩ := h.store
  have hnew := candidate_unknown hshows hdraws
  obtain ⟨s, m', hrun, hshows', -⟩ := ensureChallenge_takes e hshows hdraws
    (FirmBackend.upsert_of_fits hshows hnew hfits)
  rw [perform_of_ok hrun]
  exact ⟨proper_ok _, ⟨m', hshows'⟩, h.identities⟩

theorem request_proceeds (h : w.InOrder) {id : IdentityId} {declared : DeclaredAddress}
    (hdraws : w.DrawsUnknown ((e.request id declared : Action σ ι τ _).perform w).2)
    (hfits : (Operation.request id declared).Fits σ ι) :
    Proceeds ((e.request id declared : Action σ ι τ _).perform w) := by
  obtain ⟨hstorable, hkeys⟩ := hfits
  rw [Engine.request] at hdraws ⊢
  rcases identity_inOrder h hstorable with hi | ⟨i, -, -, hi⟩
  · rw [perform_of_error (bind_of_error hi)]
    exact h.proceeds_error rfl
  · rw [perform_congr (bind_of_ok hi)] at hdraws ⊢
    split
    · rename_i hdeclared
      rw [if_pos hdeclared] at hdraws
      exact ensureChallenge_proceeds h hdraws hkeys
    · exact h.proceeds_error rfl

theorem traitsChanged_proceeds (h : w.InOrder) {id : IdentityId} {declared : DeclaredAddress}
    (hdraws : w.DrawsUnknown ((e.traitsChanged id declared : Action σ ι τ _).perform w).2)
    (hfits : (Operation.traitsChanged id declared).Fits σ ι) :
    Proceeds ((e.traitsChanged id declared : Action σ ι τ _).perform w) := by
  obtain ⟨hstorable, hkeys⟩ := hfits
  rw [Engine.traitsChanged] at hdraws ⊢
  rcases identity_inOrder h hstorable with hi | ⟨i, htraits, hread, hi⟩
  · rw [perform_of_error (bind_of_error hi)]
    exact h.proceeds_error rfl
  · rw [perform_congr (bind_of_ok hi)] at hdraws ⊢
    by_cases hdeclared : i.traits.address? declared.channel = some declared.value
    · rw [if_neg (not_not_intro hdeclared)] at hdraws ⊢
      exact ensureChallenge_proceeds h hdraws hkeys
    · -- the declaration is written before anything else is done
      have hchanged := Registry.storable_setAddress htraits hstorable
      obtain ⟨identities, hwrite⟩ := Registry.updateTraits_ok h.identities hchanged hread
      have hrun := updateTraits_perform (w := w) (τ := τ) id
        (i.traits.setAddress declared.channel declared.value)
      rw [hwrite] at hrun
      rw [if_pos hdeclared, perform_congr (bind_of_ok (of_perform_ok hrun))] at hdraws ⊢
      have hinOrder : { w with identities }.InOrder :=
        ⟨h.store, Registry.sound_updateTraits h.identities hchanged hwrite⟩
      exact ensureChallenge_proceeds hinOrder ⟨hdraws.address, hdraws.flow⟩ hkeys

end Engine

/-! ## Operations and batches -/

variable [FirmBackend σ] [MailTransport τ] {e : Engine}

omit [MailTransport τ] [Registry ι] [IdentityStore ι] in
-- Whoever has an address with a value has room for it.
theorem fits_of_aimed {m : MemoryStore} (h : Backend.Shows w.store m) {owner : IdentityId}
    {channel : Channel} {value : Contact}
    (haimed : (Operation.resend owner channel value).Aimed w) :
    FirmBackend.Fits σ ⟨owner, channel⟩ value := by
  obtain ⟨a, ha, rfl⟩ := haimed
  obtain ⟨id, hget, hslot⟩ := Backend.stored_of_addressIn? h ha
  rw [← hslot]
  exact FirmBackend.fits_of_stored h hget

/-- No operation is answered with the failure of a store. -/
theorem Operation.proceeds (h : w.InOrder) {op : Operation} (hop : op.Possible e w)
    (hfits : op.Fits σ ι) : (op.perform e w).1.Proper ∧ (op.perform e w).2.InOrder := by
  have hdraws := hop.draws
  cases op with
  | request id declared =>
    have hrun := Engine.request_proceeds h hdraws hfits
    exact ⟨hrun.answer, hrun.world⟩
  | traitsChanged id declared =>
    have hrun := Engine.traitsChanged_proceeds h hdraws hfits
    exact ⟨hrun.answer, hrun.world⟩
  | resend owner channel value =>
    obtain ⟨m, hshows⟩ := h.store
    have hrun := Engine.ensureChallenge_proceeds h hdraws (fits_of_aimed hshows hop.aimed)
    exact ⟨hrun.answer, hrun.world⟩
  | openLink flow token =>
    have hrun := Engine.openLink_proceeds h flow token
    exact ⟨hrun.answer, hrun.world⟩
  | submit flow code =>
    have hrun := Engine.submit_proceeds h flow code
    exact ⟨hrun.answer, hrun.world⟩
  | sweep =>
    have hrun := Engine.sweep_proceeds h
    exact ⟨hrun.answer, hrun.world⟩

-- Operations one after another, as far as the first one that fails.
theorem mapM_proceeds {γ : Type} {f : γ → Action σ ι τ RequestOutcome} {g : γ → Operation}
    {l : List γ} (hperform : ∀ c w, (g c).perform e w = ((f c).perform w).map .requested id)
    (hfits : ∀ c ∈ l, (g c).Fits σ ι) (h : w.InOrder) (hpossible : e.AllPossible (l.map g) w) :
    Proceeds ((l.mapM f).perform w) := by
  induction l generalizing w with
  | nil => exact ⟨proper_ok [], h⟩
  | cons c l ih =>
    obtain ⟨hfirst, hrest⟩ := hpossible
    obtain ⟨hproper, hworld⟩ := Operation.proceeds h hfirst (hfits c List.mem_cons_self)
    rw [hperform] at hproper hworld hrest
    have hstep : Proceeds ((f c).perform w) := ⟨hproper, hworld⟩
    rw [List.mapM_cons]
    refine hstep.bind fun {outcome w₁} hrun hworld₁ => ?_
    rw [perform_of_ok hrun] at hrest
    exact (ih (fun d hd => hfits d (List.mem_cons_of_mem _ hd)) hworld₁ (hrest outcome rfl)).bind
      fun _ hworld₂ => ⟨proper_ok _, hworld₂⟩

omit [FirmBackend σ] [MailTransport τ] in
-- What an identity declares can be looked up, if it has a name.
theorem declaredAddresses_inOrder (h : w.InOrder) {id : IdentityId}
    (hname : Registry.Storable ι ⟨id, ⟨[]⟩⟩) :
    (Engine.declaredAddresses id : Action σ ι τ _) w = .error (.identityNotFound id) w ∨
      (Engine.declaredAddresses id : Action σ ι τ _) w = .ok (Batch.declared w id) w := by
  rcases Engine.identity_inOrder h hname with hi | ⟨i, -, -, hi⟩
  · exact .inl (bind_of_error hi)
  · rcases Engine.declaredAddresses_run (w := w) id with ⟨⟨error, hrun⟩, -⟩ | hrun
    · rw [Engine.declaredAddresses, bind_of_ok hi] at hrun
      cases hrun
    · exact .inr hrun

-- One operation after another for all that an identity declares.
theorem hook_proceeds {f : DeclaredAddress → Action σ ι τ RequestOutcome}
    {g : DeclaredAddress → Operation} {owner : IdentityId}
    (hperform : ∀ c w, (g c).perform e w = ((f c).perform w).map .requested id)
    (h : w.InOrder) (hname : Registry.Storable ι ⟨owner, ⟨[]⟩⟩)
    (hfits : ∀ declared ∈ Batch.declared w owner, (g declared).Fits σ ι)
    (hpossible : e.AllPossible ((Batch.declared w owner).map g) w) :
    Proceeds ((do (← Engine.declaredAddresses owner).mapM f : Action σ ι τ _).perform w) := by
  rcases declaredAddresses_inOrder h hname with hrun | hrun
  · rw [perform_of_error (bind_of_error hrun)]
    exact h.proceeds_error rfl
  · rw [perform_congr (bind_of_ok hrun)]
    exact mapM_proceeds hperform hfits h hpossible

theorem Batch.proceeds (h : w.InOrder) {b : Batch} (hdraws : e.DrawUnknown (b.operations w) w)
    (hfits : b.Fits w) : Proceeds (b.perform e w) := by
  obtain ⟨m, hshows⟩ := h.store
  have hpossible := Engine.batch_possible hshows hdraws
  cases b with
  | requestByValue channel raw =>
    cases hparse : Contact.parse channel raw with
    | error cause =>
      rw [Batch.perform, perform_of_error (e.requestByValue_unparsed hparse)]
      exact h.proceeds_error rfl
    | ok value =>
      obtain ⟨owners, hread, -, -⟩ := Backend.addressesWith_eq hshows channel value
      rw [Batch.operations, hparse, Batch.resends, hread] at hpossible
      rw [Batch.perform, perform_congr (e.requestByValue_run hparse hread)]
      split
      · -- nobody is found, and a notice is sent instead
        rw [perform_congr (bind_of_ok (send_run _))]
        exact ⟨proper_ok _, h.store, h.identities⟩
      · have hfits : ∀ owner ∈ owners,
            (Operation.resend owner.identity channel value).Fits σ ι := fun _ _ => trivial
        exact mapM_proceeds (fun _ _ => by rw [Operation.perform]) hfits h hpossible
  | afterRegistration id =>
    exact hook_proceeds (fun _ _ => by rw [Operation.perform]) h hfits.1 hfits.2 hpossible
  | afterSettings id =>
    exact hook_proceeds (fun _ _ => by rw [Operation.perform]) h hfits.1 hfits.2 hpossible

/-! ## Whatever arises -/

namespace Engine

/-- A world that arises from empty stores is in order. -/
theorem Arises.inOrder (h : e.Arises w) : w.InOrder := by
  obtain ⟨w₀, hstore, hidentities, hrun⟩ := h
  induction hrun with
  | refl =>
    refine ⟨⟨.empty, ?_⟩, ?_⟩
    · rw [hstore]
      exact Backend.shows_empty
    · rw [hidentities]
      exact Registry.sound_empty
  | tail _ hstep ih =>
    cases hstep with
    | operation hop hfits => exact (Operation.proceeds ih hop hfits).2
    | batch hdraws hfits => exact (Batch.proceeds ih hdraws hfits).world
    | entered hstorable hrun => exact ⟨ih.store, Registry.sound_enter ih.identities hstorable hrun⟩
    | edited hstorable hrun =>
      exact ⟨ih.store, Registry.sound_updateTraits ih.identities hstorable hrun⟩
    | outside hstore' hidentities' =>
      refine ⟨?_, ?_⟩
      · rw [hstore']
        exact ih.store
      · rw [hidentities']
        exact ih.identities

/-- Nothing that the engine is asked for is answered with the failure of a store. -/
structure Unfailing (e : Engine) (w : World σ ι τ) : Prop where
  operation : ∀ op : Operation, op.Possible e w → op.Fits σ ι → (op.perform e w).1.Proper
  batch : ∀ b : Batch, e.DrawUnknown (b.operations w) w → b.Fits w → Proper (b.perform e w).1
  resume : ∀ flow, Proper ((Engine.resume flow : Action σ ι τ _).perform w).1
  expiredContext : ∀ flow, Proper ((Engine.expiredContext flow : Action σ ι τ _).perform w).1
  declaredAddresses : ∀ id, Registry.Storable ι ⟨id, ⟨[]⟩⟩ →
    Proper ((Engine.declaredAddresses id : Action σ ι τ _).perform w).1
  addressIn : ∀ slot, Proper ((Engine.addressIn slot : Action σ ι τ _).perform w).1
  addressesOf : ∀ id, Proper ((Engine.addressesOf id : Action σ ι τ _).perform w).1
  history : ∀ address, Proper ((Engine.history address : Action σ ι τ _).perform w).1
  /-- No wrong code is counted against a challenge that is not active, so it does not matter what
  would be done then. -/
  submit : ∀ late flow code, (submitOr late flow code : Action σ ι τ _).perform w =
    (Engine.submit flow code : Action σ ι τ _).perform w

/-- From empty stores, with identifiers that are new whenever they are drawn and keys that can be
written, no store ever fails. -/
theorem unfailing_of_arises (h : e.Arises w) : e.Unfailing w := by
  have hw := h.inOrder
  obtain ⟨m, hshows⟩ := hw.store
  exact {
    operation := fun op hop hfits => (Operation.proceeds hw hop hfits).1
    batch := fun b hdraws hfits => (Batch.proceeds hw hdraws hfits).answer
    resume := resume_proper hw
    expiredContext := expiredContext_proper hw
    declaredAddresses := fun id hname => by
      rcases declaredAddresses_inOrder hw hname with hrun | hrun
      · rw [perform_of_error hrun]
        exact proper_error rfl
      · rw [perform_of_ok hrun]
        exact proper_ok _
    addressIn := fun slot => readStore_proper ⟨_, Backend.addressIn?_eq hshows slot⟩
    addressesOf := fun id => readStore_proper (FirmBackend.addressesOf_ok hshows id)
    history := fun address => readStore_proper (FirmBackend.history_ok hshows address)
    submit := fun late flow code => by
      rw [submit_eq]
      exact submitOr_perform hshows late _ flow code }

end Engine

end InOrder

/-! ## A world on disk -/

namespace Sample

/-- Nothing is stored yet. -/
def blank : World Durable.Ledger Durable.IdentityFile MailRecorder where
  store := Backend.empty
  identities := Registry.empty
  mailer := .empty
  now := start.now
  entropy := start.entropy

/-- An identity with an address, in a file. -/
def filed : World Durable.Ledger Durable.IdentityFile MailRecorder :=
  { blank with
    identities :=
      ⟨blank.identities.identities.insert ann.bytes (Identity.codec.encode ⟨ann, ⟨[home]⟩⟩)⟩ }

/-- The address was to be verified. -/
def ledgered : World Durable.Ledger Durable.IdentityFile MailRecorder :=
  ((Operation.request ann home).perform engine filed).2

theorem ann_fits : Identity.Fits ⟨ann, ⟨[home]⟩⟩ where
  nonempty := by decide
  key := by decide
  traits := ⟨by decide, by unfold TextFits; decide⟩

theorem home_fits : FirmBackend.Fits Durable.Ledger ⟨ann, home.channel⟩ home.value := by
  intro a hslot hvalue
  constructor
  · rw [hslot]
    decide
  · rw [Durable.length_valueKey, hvalue]
    decide

theorem ledgered_arises : engine.Arises ledgered := by
  have hentered : engine.Happens blank filed :=
    .entered ann_fits (Durable.IdentityFile.create_eq ann_fits _)
  have hpossible : (Operation.request ann home).Possible engine filed :=
    ⟨⟨fun _ => rfl, fun _ => rfl⟩, trivial⟩
  exact ⟨blank, rfl, rfl, .tail (.single hentered) (.operation hpossible ⟨ann_fits, home_fits⟩)⟩

theorem requested_arises : engine.Arises requested := by
  have hentered : engine.Happens { start with identities := Registry.empty } start :=
    .entered trivial rfl
  have hpossible : (Operation.request ann home).Possible engine start :=
    ⟨⟨fun _ => rfl, fun _ => rfl⟩, trivial⟩
  exact ⟨_, rfl, rfl, .tail (.single hentered) (.operation hpossible ⟨trivial, trivial⟩)⟩

/-- Neither store fails once a challenge was issued. -/
theorem ledgered_unfailing :
    engine.Arises ledgered ∧ ledgered.store.challenges.size = 1 ∧ engine.Unfailing ledgered ∧
      engine.Arises requested ∧ requested.store.challenges.size = 1 ∧
      engine.Unfailing requested :=
  ⟨ledgered_arises, by decide +kernel, Engine.unfailing_of_arises ledgered_arises,
    requested_arises, by decide +kernel, Engine.unfailing_of_arises requested_arises⟩

end Sample

end Vouch
