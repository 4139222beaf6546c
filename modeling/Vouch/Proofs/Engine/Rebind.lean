import Vouch.Proofs.Engine.Trust

/-!
# Completed challenges after a rebind

A completed challenge stays completed, and once its slot was rebound it is never the newest of its
address again.  What it says from then on is up to the newest one: as long as that one is not
itself completed for the same value, the completed challenge is answered for as expired.
-/

namespace Vouch

/-- What has ended stays as it is, and what is issued comes last. -/
def Account.Extends (acc acc' : Account) : Prop :=
  ∃ (f : Challenge → Challenge) (more : List Challenge),
    acc'.history = acc.history.map f ++ more ∧ ∀ d ∈ acc.history, d.isActive = false → f d = d

/-- No account is lost, and each is extended. -/
def MemoryStore.Extends (m m' : MemoryStore) : Prop :=
  ∀ id acc, m.account? id = some acc → ∃ acc', m'.account? id = some acc' ∧ acc.Extends acc'

namespace Account

variable {acc acc' acc'' : Account} {c : Challenge}

theorem Extends.refl (acc : Account) : acc.Extends acc :=
  ⟨id, [], by simp, fun _ _ _ => rfl⟩

theorem Extends.trans (h : acc.Extends acc') (h' : acc'.Extends acc'') : acc.Extends acc'' := by
  obtain ⟨f, more, hhistory, hended⟩ := h
  obtain ⟨f', more', hhistory', hended'⟩ := h'
  refine ⟨f' ∘ f, more.map f' ++ more', ?_, fun d hd hact => ?_⟩
  · rw [hhistory', hhistory, List.map_append, List.map_map, List.append_assoc]
  · have hmem : d ∈ acc'.history := by
      rw [hhistory]
      exact List.mem_append_left _ (List.mem_map.mpr ⟨d, hd, hended d hd hact⟩)
    rw [Function.comp_apply, hended d hd hact, hended' d hmem hact]

theorem extends_issue : acc.Extends (acc.issue c) :=
  ⟨_, [c], rfl, fun _ _ hact => Attempt.expire_of_isActive_eq_false hact _⟩

theorem extends_amend {p : Attempt} (hp : Attempt.Amends ⟨c, acc.record⟩ p)
    (hsame : ∀ d ∈ acc.history, d.id = c.id → d = c) : acc.Extends (acc.amend p) := by
  refine ⟨_, [], (List.append_nil _).symm, fun d hd hact => ?_⟩
  by_cases hid : d.id = p.challenge.id
  · have hd' : d = c := hsame d hd (hid.trans hp.challenge.id)
    subst hd'
    rw [if_pos hid, hp.ended hact]
  · rw [if_neg hid]

theorem Extends.mem (h : acc.Extends acc') (hc : c ∈ acc.history) (hact : c.isActive = false) :
    c ∈ acc'.history := by
  obtain ⟨f, more, hhistory, hended⟩ := h
  rw [hhistory]
  exact List.mem_append_left _ (List.mem_map.mpr ⟨c, hc, hended c hc hact⟩)

-- What is not the newest of an account is not the newest of what extends it.
theorem Extends.mem_dropLast (h : acc.Extends acc') (hc : c ∈ acc.history.dropLast)
    (hact : c.isActive = false) : c ∈ acc'.history.dropLast := by
  obtain ⟨f, more, hhistory, hended⟩ := h
  have hmem : c ∈ acc.history := (List.dropLast_sublist _).subset hc
  have hfc : f c = c := hended c hmem hact
  rw [hhistory]
  -- it was not the newest before, and what is new comes after it
  cases more with
  | nil =>
    rw [List.append_nil, ← List.map_dropLast]
    exact List.mem_map.mpr ⟨c, hc, hfc⟩
  | cons d more =>
    rw [List.dropLast_append_of_ne_nil (by simp)]
    exact List.mem_append_left _ (List.mem_map.mpr ⟨c, hmem, hfc⟩)

end Account

/-! ## Every operation extends -/

namespace MemoryStore.Extends

variable {m m' m'' : MemoryStore} {now : Timestamp} {acc : Account} {c : Challenge} {flow : FlowId}

theorem refl (m : MemoryStore) : m.Extends m := fun _ acc hacc => ⟨acc, hacc, .refl acc⟩

theorem trans (h : m.Extends m') (h' : m'.Extends m'') : m.Extends m'' := by
  intro id acc hacc
  obtain ⟨acc', hacc', hextends⟩ := h id acc hacc
  obtain ⟨acc'', hacc'', hextends'⟩ := h' id acc' hacc'
  exact ⟨acc'', hacc'', hextends.trans hextends'⟩

theorem sets {id : AddressId} {acc' : Account} (hsets : m.Sets id acc' m')
    (h : ∀ acc, m.account? id = some acc → acc.Extends acc') : m.Extends m' := by
  intro j acc hacc
  by_cases hj : j = id
  · subst hj
    exact ⟨acc', hsets.get?, h acc hacc⟩
  · refine ⟨acc, ?_, .refl acc⟩
    rw [hsets j, if_neg hj]
    exact hacc

-- A change of one challenge.
theorem amends (hi : m.Intact) (hf : Engine.Finds m flow c acc) {p : Attempt}
    (hp : Attempt.Amends ⟨c, acc.record⟩ p) (hsets : m.Sets c.address (acc.amend p) m') :
    m.Extends m' := by
  refine sets hsets fun acc' hacc' => ?_
  rw [hf.account] at hacc'
  cases hacc'
  exact Account.extends_amend hp fun d hd => hf.eq_of_id hi hd

theorem expire (hi : m.Intact) (hf : Engine.Finds m flow c acc)
    (hsets : m.Sets c.address (acc.amend (Attempt.expire ⟨c, acc.record⟩ .elapsed now)) m') :
    m.Extends m' :=
  amends hi hf (Attempt.expire_amends _ now .elapsed) hsets

-- An account written back as it is.
theorem same (hf : Engine.Finds m flow c acc) (hsets : m.Sets c.address acc m') :
    m.Extends m' := by
  refine sets hsets fun acc' hacc' => ?_
  rw [hf.account] at hacc'
  cases hacc'
  exact .refl acc

theorem ensures {e : Engine} {slot : Slot} {value : Contact}
    {outcome : Except VerificationError RequestOutcome}
    (h : e.Ensures m slot value now outcome m') : m.Extends m' := by
  cases h with
  | refused => exact refl m
  | alreadyVerified => exact refl m
  | resent => exact refl m
  | issued haddressed _ _ _ hsets =>
    refine sets hsets fun acc' hacc' => ?_
    cases haddressed with
    | known hacc =>
      rw [hacc] at hacc'
      cases hacc'
      exact Account.extends_issue
    | fresh _ hnone =>
      rw [hnone] at hacc'
      cases hacc'

theorem opens (hi : m.Intact) {token : String} {state : Except VerificationError FlowState}
    (h : Engine.Opens m flow token now state m') : m.Extends m' := by
  cases h with
  | unknown => exact refl m
  | wrongToken => exact refl m
  | shown => exact refl m
  | expired => exact refl m
  | elapsed hf _ _ _ hsets => exact expire hi hf hsets

theorem submits (hi : m.Intact) {code : String} {outcome : Except VerificationError SubmitOutcome}
    (h : Engine.Submits m flow code now outcome m') : m.Extends m' := by
  cases h with
  | unknown => exact refl m
  | exhausted => exact refl m
  | expired => exact refl m
  | wrongLate => exact refl m
  | alreadyVerified hf _ _ _ hsets => exact same hf hsets
  | lapsed hf _ _ _ hsets => exact same hf hsets
  | elapsed hf _ _ hsets => exact expire hi hf hsets
  | verified hf hact _ _ _ hsets =>
    refine amends hi hf ?_ hsets
    exact .of_isActive hact rfl rfl
  | changed hf hact _ _ _ hsets =>
    refine amends hi hf ?_ hsets
    exact .of_isActive hact (Challenge.sameIssue_expire _ _) rfl
  | counted hf _ _ _ _ hsets => exact amends hi hf (Attempt.fail_amends _ now) hsets
  | spent hf _ _ _ _ hsets => exact amends hi hf (Attempt.fail_amends _ now) hsets

theorem sweeps (hi : m.Intact) (h : Engine.Sweeps now m m') : m.Extends m' := by
  induction h with
  | done => exact refl _
  | ends hf hsets hi₁ _ ih => exact (expire hi hf hsets).trans (ih hi₁)

-- No operation changes what has ended.
theorem ends {e : Engine} {op : Operation} {answer : Answer} (hi : m.Intact)
    (h : op.Ends e m now answer m') : m.Extends m' := by
  cases h with
  | refused => exact refl m
  | declared _ hensures => exact ensures hensures
  | resent _ _ _ hensures => exact ensures hensures
  | opened hopens => exact opens hi hopens
  | submitted hsubmits => exact submits hi hsubmits
  | swept hsweeps => exact sweeps hi hsweeps

end MemoryStore.Extends

/-- The challenge has ended, and is in the account of its address as it is. -/
def MemoryStore.Holds (c : Challenge) (m : MemoryStore) : Prop :=
  c.isActive = false ∧ ∃ acc, m.account? c.address = some acc ∧ c ∈ acc.history

/-- The challenge has ended, and another one of its address is newer. -/
def MemoryStore.Outdates (c : Challenge) (m : MemoryStore) : Prop :=
  c.isActive = false ∧ ∃ acc, m.account? c.address = some acc ∧ c ∈ acc.history.dropLast

namespace Engine

theorem keeps_holds (e : Engine) (c : Challenge) : e.Keeps (MemoryStore.Holds c) := by
  rintro m m' now op answer hi - ⟨hact, acc, hacc, hc⟩ hends
  obtain ⟨acc', hacc', hextends⟩ := MemoryStore.Extends.ends hi hends _ _ hacc
  exact ⟨hact, acc', hacc', hextends.mem hc hact⟩

theorem keeps_outdates (e : Engine) (c : Challenge) : e.Keeps (MemoryStore.Outdates c) := by
  rintro m m' now op answer hi - ⟨hact, acc, hacc, hc⟩ hends
  obtain ⟨acc', hacc', hextends⟩ := MemoryStore.Extends.ends hi hends _ _ hacc
  exact ⟨hact, acc', hacc', hextends.mem_dropLast hc hact⟩

/-! ## How a completed challenge is answered for -/

open Vouch.Action

variable {σ ι τ : Type} [VerificationStore σ] [Backend σ] {w : World σ ι τ} {m : MemoryStore}
  {flow : FlowId} {c : Challenge} {acc : Account}

theorem submit_completed (h : Backend.Shows w.store m) (hf : Finds m flow c acc)
    (hs : c.state = .completed) :
    ((submit flow c.code : Action σ ι τ SubmitOutcome).perform w).1 =
      if c.vouchesFor acc.record then .ok (.alreadyVerified acc.record)
      else .error (expiredError ⟨c, acc.record⟩ (c.expiredReason.getD .addressChanged)) := by
  obtain ⟨w', m', hrun, -, -⟩ := acceptCode_completed (ι := ι) (τ := τ) h hf hs
  rw [submit, perform_congr (bind_of_ok (challenge_of_known h hf.challenge))]
  simp only [Secret.verify_eq, hs, decide_true, if_true]
  by_cases hvouches : c.vouchesFor acc.record = true
  · rw [if_pos hvouches] at hrun ⊢
    rw [perform_of_ok hrun]
  · rw [if_neg hvouches] at hrun ⊢
    rw [perform_of_error hrun]

theorem openLink_completed (h : Backend.Shows w.store m) (hf : Finds m flow c acc)
    (hs : c.state = .completed) :
    ((openLink flow c.token : Action σ ι τ FlowState).perform w).1 =
      if c.vouchesFor acc.record then .ok (.ofPhase c .completed)
      else .error (expiredError ⟨c, acc.record⟩ (c.expiredReason.getD .addressChanged)) := by
  have hphase : c.phase w.now = .completed := by rw [Challenge.phase, hs]
  rw [perform_congr (openLink_rightToken h hf)]
  simp only [hs]
  split
  · rw [← hphase]
    rfl
  · rw [perform_of_error (expiredFlow_finds h hf)]

theorem resume_completed (h : Backend.Shows w.store m) (hf : Finds m flow c acc)
    (hs : c.state = .completed) :
    ((resume flow : Action σ ι τ FlowState).perform w).1 =
      .ok (.ofPhase c
        (if c.vouchesFor acc.record then .completed else .expired .addressChanged)) := by
  have hphase : c.phase w.now = .completed := by rw [Challenge.phase, hs]
  rw [resume, perform_congr (bind_of_ok (challenge_of_known h hf.challenge)),
    perform_congr (bind_of_ok (addressOf_run h hf.address)), perform_congr (bind_of_ok now_run)]
  show Except.ok (FlowState.ofPhase c (c.phaseFor acc.record w.now)) = _
  rw [Challenge.phaseFor, hphase]
  cases c.vouchesFor acc.record with
  | true => rfl
  | false => rfl

/-! ## All runs -/

variable [IdentityStore ι] [MailTransport τ] {e : Engine} {w₁ w₂ : World σ ι τ}

/-- After its slot was rebound, a completed challenge has a newer one of the same address. -/
theorem outdates_of_rebound (h : e.Reachable w₁)
    (hc : VerificationStore.challenge? c.id w₁.store = .ok (some c)) (hs : c.state = .completed)
    (hrun : e.Run w₁ w₂) {a : Address}
    (ha : VerificationStore.address? c.address w₂.store = .ok (some a))
    (hvalue : a.value ≠ c.value) (hrun' : e.Run w₂ w) :
    ∃ m, Backend.Shows w.store m ∧ m.Settled ∧ m.Outdates c := by
  have hact : c.isActive = false := by simp [Challenge.isActive, hs]
  obtain ⟨m₁, hshows₁, hsettled₁⟩ := h.settled
  rw [Backend.challenge?_eq hshows₁] at hc
  obtain ⟨acc₁, hacc₁, hmem₁⟩ :=
    (Backend.intact hshows₁).account_of_challenge (Except.ok.inj hc)
  -- it is kept until the slot is rebound
  obtain ⟨m₂, hshows₂, hsettled₂, -, acc₂, hacc₂, hmem₂⟩ := hrun.keeps
    (Keeps.and (MemoryStore.Settled.keeps e) (e.keeps_holds c)) hshows₁
    ⟨hsettled₁, hact, acc₁, hacc₁, hmem₁⟩
  obtain ⟨earlier, d, hby⟩ := hsettled₂ _ _ hacc₂
  rw [Backend.address?_eq hshows₂, MemoryStore.get?_of_account? hacc₂] at ha
  have hrecord : acc₂.record = a := Option.some.inj (Except.ok.inj ha)
  -- the newest challenge is for the new value, so it is another one
  have houtdated : c ∈ acc₂.history.dropLast := by
    rw [hby.history] at hmem₂ ⊢
    rw [List.dropLast_concat]
    rcases List.mem_append.mp hmem₂ with hc | hc
    · exact hc
    · rw [List.mem_singleton.mp hc, ← hrecord, hby.value] at hvalue
      exact absurd rfl hvalue
  exact hrun'.keeps (Keeps.and (MemoryStore.Settled.keeps e) (e.keeps_outdates c)) hshows₂
    ⟨hsettled₂, hact, acc₂, hacc₂, houtdated⟩

/-- What a completed challenge is worth at any time after its slot was rebound.  It speaks for the
address if and only if the newest challenge is completed for the same value; then it is answered
for as completed, and otherwise as expired because the address was changed. -/
theorem completed_after_rebind (h : e.Reachable w₁)
    (hc : VerificationStore.challenge? c.id w₁.store = .ok (some c)) (hs : c.state = .completed)
    (hrun : e.Run w₁ w₂) {a : Address}
    (ha : VerificationStore.address? c.address w₂.store = .ok (some a))
    (hvalue : a.value ≠ c.value) (hrun' : e.Run w₂ w) :
    ∃ a' earlier d, VerificationStore.address? c.address w.store = .ok (some a') ∧
      (Backend.Roomy w.store →
        VerificationStore.history c.address w.store = .ok (earlier ++ [d])) ∧
      c ∈ earlier ∧
      (c.vouchesFor a' = true ↔ d.state = .completed ∧ d.value = c.value) ∧
      (c.vouchesFor a' = true →
        ((submit c.id c.code).perform w).1 = .ok (.alreadyVerified a') ∧
        ((openLink c.id c.token).perform w).1 = .ok (.ofPhase c .completed) ∧
        ((resume c.id).perform w).1 = .ok (.ofPhase c .completed)) ∧
      (c.vouchesFor a' = false →
        ((submit c.id c.code).perform w).1 =
          .error (.expiredFlow (.ofChallenge c a' .addressChanged)) ∧
        ((openLink c.id c.token).perform w).1 =
          .error (.expiredFlow (.ofChallenge c a' .addressChanged)) ∧
        ((resume c.id).perform w).1 = .ok (.ofPhase c (.expired .addressChanged))) := by
  obtain ⟨m, hshows, hsettled, -, acc, hacc, hmem⟩ :=
    outdates_of_rebound h hc hs hrun ha hvalue hrun'
  have hi := Backend.intact hshows
  obtain ⟨hget, hhistory⟩ := MemoryStore.account?_eq_some_iff.mp hacc
  obtain ⟨earlier, d, hby⟩ := hsettled _ _ hacc
  have hin : c ∈ acc.history := (List.dropLast_sublist _).subset hmem
  have hreason : c.expiredReason = none := hby.unexplained c hin (by rw [hs]; decide)
  rw [← hhistory] at hin
  have hf : Finds m c.id c acc := ⟨(hi.mem_history.mp hin).1, hacc⟩
  -- a completed challenge has no reason of its own, so the answer names the change
  have hsubmit := submit_completed (ι := ι) (τ := τ) hshows hf hs
  have hopen := openLink_completed (ι := ι) (τ := τ) hshows hf hs
  have hresume := resume_completed (ι := ι) (τ := τ) hshows hf hs
  rw [hreason] at hsubmit hopen
  refine ⟨acc.record, earlier, d, ?_, fun hroomy => ?_, ?_, ?_, fun hvouches => ?_,
    fun hvouches => ?_⟩
  · rw [Backend.address?_eq hshows, hget]
  · rw [Backend.history_eq hshows _ hroomy, hhistory, hby.history]
  · rw [hby.history, List.dropLast_concat] at hmem
    exact hmem
  · rw [← hby.verified_iff, hby.value, Challenge.vouchesFor, hs]
    simp only [decide_true, Bool.true_and, (hf.id hi).symm, Bool.and_eq_true, decide_eq_true_eq]
    exact ⟨fun ⟨hv, ht⟩ => ⟨ht, hv.symm⟩, fun ⟨ht, hv⟩ => ⟨hv.symm, ht⟩⟩
  · rw [if_pos hvouches] at hsubmit hopen hresume
    exact ⟨hsubmit, hopen, hresume⟩
  · rw [hvouches, if_neg Bool.false_ne_true] at hsubmit hopen hresume
    exact ⟨hsubmit, hopen, hresume⟩

end Engine

namespace Sample

-- The world after the address was edited.
def moved : World MemoryStore MemoryIdentities MailRecorder :=
  ((Operation.traitsChanged ann ⟨.email, ⟨"ann@work.example"⟩⟩).perform engine verified).2

-- The world after it was edited back.
def returned : World MemoryStore MemoryIdentities MailRecorder :=
  ((Operation.traitsChanged ann home).perform engine moved).2

-- The world after the code for the last challenge was entered.
def verifiedAgain : World MemoryStore MemoryIdentities MailRecorder :=
  ((Operation.submit (drawnAt .flow 176) "e0e1e2e3e4e5e6e7e8e9eaebecedeeef").perform engine
    returned).2

theorem verified_reachable : engine.Reachable verified :=
  requested_reachable.perform firstCode_possible

theorem moved_run : engine.Run verified moved :=
  .perform ⟨⟨fun _ => rfl, fun _ => rfl⟩, trivial⟩

theorem returned_run : engine.Run moved returned :=
  .perform ⟨⟨fun _ => rfl, fun _ => rfl⟩, trivial⟩

theorem verifiedAgain_run : engine.Run moved verifiedAgain :=
  returned_run.trans (Engine.Run.perform ⟨⟨fun _ => rfl, fun _ => rfl⟩, trivial⟩)

/-- After the value was edited back, the first challenge is answered for as expired; after a fresh
challenge was completed, it is answered for as completed again. -/
theorem firstCode_after_rebind : ∃ c,
    VerificationStore.challenge? (drawnAt .flow 16) verified.store = .ok (some c) ∧
    (∃ a, VerificationStore.address? c.address returned.store = .ok (some a) ∧
      ((Engine.submit c.id c.code).perform returned).1 =
        .error (.expiredFlow (.ofChallenge c a .addressChanged))) ∧
    ∃ a, VerificationStore.address? c.address verifiedAgain.store = .ok (some a) ∧
      ((Engine.submit c.id c.code).perform verifiedAgain).1 = .ok (.alreadyVerified a) := by
  obtain ⟨c, hc, hid, haddress, hvalue, hs⟩ : ∃ c,
      VerificationStore.challenge? (drawnAt .flow 16) verified.store = .ok (some c) ∧
      c.id = drawnAt .flow 16 ∧ c.address = drawnAt .address 0 ∧ c.value = home.value ∧
      c.state = .completed := ⟨_, rfl, rfl, rfl, rfl, rfl⟩
  obtain ⟨a, ha, hmoved⟩ : ∃ a,
      VerificationStore.address? (drawnAt .address 0) moved.store = .ok (some a) ∧
      a.value = ⟨"ann@work.example"⟩ := ⟨_, rfl, rfl⟩
  have hchanged : a.value ≠ c.value := by
    rw [hmoved, hvalue]
    decide
  refine ⟨c, hc, ?_⟩
  rw [← hid] at hc
  rw [← haddress] at ha
  have hreturned :=
    Engine.completed_after_rebind verified_reachable hc hs moved_run ha hchanged returned_run
  have hagain :=
    Engine.completed_after_rebind verified_reachable hc hs moved_run ha hchanged verifiedAgain_run
  obtain ⟨a₁, -, -, ha₁, -, -, -, -, hexpired⟩ := hreturned
  obtain ⟨a₂, -, -, ha₂, -, -, -, hcompleted, -⟩ := hagain
  -- the address is not verified after the edits, and is after the fresh completion
  have hunverified : ∃ b, VerificationStore.address? (drawnAt .address 0) returned.store =
      .ok (some b) ∧ b.verified = false := ⟨_, rfl, rfl⟩
  have hverified : ∃ b, VerificationStore.address? (drawnAt .address 0) verifiedAgain.store =
      .ok (some b) ∧ b.id = drawnAt .address 0 ∧ b.value = home.value ∧ b.verified = true :=
    ⟨_, rfl, rfl, rfl, rfl⟩
  simp only [← haddress, ha₁, Except.ok.injEq, Option.some.injEq, exists_eq_left'] at hunverified
  simp only [← haddress, ha₂, Except.ok.injEq, Option.some.injEq, exists_eq_left'] at hverified
  refine ⟨⟨a₁, ha₁, (hexpired ?_).1⟩, a₂, ha₂, (hcompleted ?_).1⟩
  · simp [Challenge.vouchesFor, hunverified]
  · simp [Challenge.vouchesFor, hs, hvalue, hverified]

end Sample

end Vouch
