import Vouch.Proofs.Engine.Explained
import Vouch.Proofs.Engine.Outcome
import Vouch.Proofs.Engine.Slices
import Vouch.Proofs.Engine.Transports
import Vouch.Proofs.Engine.Trust
import Vouch.Proofs.Store.Steady

/-!
# Identities are isolated

An operation that is addressed to an identity depends on the slice of that identity, on the time and
on the bytes that it draws: whatever else is stored, it answers, mails and writes the same.  The
slices of all other identities stay what they are.
-/

namespace Vouch

open Vouch.Action

variable {σ ι τ α : Type} [VerificationStore σ] [IdentityStore ι]

/-- The operation asks for something on behalf of an identity, or is about one of its flows. -/
def Operation.AddressedTo (owner : IdentityId) (w : World σ ι τ) : Operation → Prop
  | .request id _ => id = owner
  | .traitsChanged id _ => id = owner
  | .openLink flow _ => ∃ c, VerificationStore.challenge? flow w.store = .ok (some c) ∧
      c.identity = owner
  | .submit flow _ => ∃ c, VerificationStore.challenge? flow w.store = .ok (some c) ∧
      c.identity = owner
  | .resend .. => False
  | .sweep => False

def Batch.AddressedTo (owner : IdentityId) : Batch → Prop
  | .requestByValue .. => False
  | .afterRegistration id => id = owner
  | .afterSettings id => id = owner

/-- What is done for an identity in two worlds comes to the same, and to nothing for the others.
What it leaves behind is told from the stores as long as they list challenges in their order. -/
structure Isolates [Backend σ] (owner : IdentityId) (w w' : World σ ι τ)
    (run run' : α × World σ ι τ) (mails mails' : List Mail) : Prop where
  answer : run.1 = run'.1
  mails : mails = mails'
  slice : Backend.Roomy run.2.store → Backend.Roomy run'.2.store →
    run.2.slice owner = run'.2.slice owner
  others : Backend.Roomy run.2.store → ∀ other, other ≠ owner → run.2.slice other = w.slice other
  others' : Backend.Roomy run'.2.store →
    ∀ other, other ≠ owner → run'.2.slice other = w'.slice other

variable [Backend σ] {e : Engine} {w w' : World σ ι τ} {m m' : MemoryStore} {owner : IdentityId}

/-! ## Identities -/

section Identities

-- An identity is looked for with the same result.
theorem identity_twins (h : w.Twins owner m w' m') :
    (∃ i, (identity owner : Action σ ι τ Identity) w = .ok i w ∧
        (identity owner : Action σ ι τ Identity) w' = .ok i w') ∨
      ∃ error, (identity owner : Action σ ι τ Identity) w = .error error w ∧
        (identity owner : Action σ ι τ Identity) w' = .error error w' := by
  have hrun := identity_perform (w := w) (τ := τ) owner
  have hrun' := identity_perform (w := w') (τ := τ) owner
  rw [← h.identity] at hrun'
  rcases hread : IdentityStore.identity? owner w.identities with cause | (_ | i)
  · rw [hread] at hrun hrun'
    exact .inr ⟨_, of_perform_error hrun, of_perform_error hrun'⟩
  · rw [hread] at hrun hrun'
    exact .inr ⟨_, of_perform_error hrun, of_perform_error hrun'⟩
  · rw [hread] at hrun hrun'
    exact .inl ⟨i, of_perform_ok hrun, of_perform_ok hrun'⟩

omit [VerificationStore σ] [Backend σ] in
theorem spares_of_updateTraits [LocalIdentities ι] {traits : Traits} {identities : ι}
    (hwrite : IdentityStore.updateTraits owner traits w.identities = .ok identities) :
    w.Spares owner m { w with identities } m := by
  intro other hother
  rw [World.profile, World.profile, Profile.mk.injEq]
  exact ⟨LocalIdentities.spared hwrite hother, rfl⟩

-- Traits are written with the same result.
theorem updateTraits_twins [LocalIdentities ι] (h : w.Twins owner m w' m')
    (traits : Traits) :
    (∃ t t', (updateTraits owner traits : Action σ ι τ Unit) w = .ok () { w with identities := t } ∧
        (updateTraits owner traits : Action σ ι τ Unit) w' = .ok () { w' with identities := t' } ∧
        World.Twins owner { w with identities := t } m { w' with identities := t' } m' ∧
        w.Spares owner m { w with identities := t } m ∧
        w'.Spares owner m' { w' with identities := t' } m') ∨
      ∃ error, (updateTraits owner traits : Action σ ι τ Unit) w = .error error w ∧
        (updateTraits owner traits : Action σ ι τ Unit) w' = .error error w' := by
  have hrun := updateTraits_perform (w := w) (τ := τ) owner traits
  have hrun' := updateTraits_perform (w := w') (τ := τ) owner traits
  rcases LocalIdentities.alike traits h.identity with
    ⟨cause, hwrite, hwrite'⟩ | ⟨t, t', hwrite, hwrite', hsame⟩
  · rw [hwrite] at hrun
    rw [hwrite'] at hrun'
    exact .inr ⟨_, of_perform_error hrun, of_perform_error hrun'⟩
  · rw [hwrite] at hrun
    rw [hwrite'] at hrun'
    have hprofile : ({ w with identities := t } : World σ ι τ).profile m owner =
        ({ w' with identities := t' } : World σ ι τ).profile m' owner := by
      rw [World.profile, World.profile, Profile.mk.injEq]
      exact ⟨hsame, congrArg Profile.account h.profile⟩
    exact .inl ⟨t, t', of_perform_ok hrun, of_perform_ok hrun',
      ⟨h.shows, h.shows', hprofile, h.now, h.mailer, h.entropy⟩,
      spares_of_updateTraits hwrite, spares_of_updateTraits hwrite'⟩

end Identities

/-! ## Requests -/

section Requests

variable [MailTransport τ] [SteadyBackend σ] {value : Contact}

-- The one store has no room for the record of a request if the other has none.
theorem refused_twins (h : w.Twins owner m w' m') {slot : Slot}
    (hdraws : w.DrawsUnknown ((e.ensureChallenge slot value : Action σ ι τ _).perform w).2)
    (hrefused : VerificationStore.upsert
      (.fresh (w.entropy.drawId .address).1 slot value w.now) w.store = .error .badKeySize) :
    VerificationStore.upsert
      (.fresh (w'.entropy.drawId .address).1 slot value w'.now) w'.store = .error .badKeySize := by
  rw [← h.entropy, ← h.now]
  exact SteadyBackend.upsert_refused h.shows h.shows'
    (fun _ => Engine.candidate_unknown h.shows hdraws) hrefused

-- The record is refused in both worlds, or the request takes one course in both of them.
theorem ensureChallenge_parallel (h : w.Twins owner m w' m') {channel : Channel}
    (hdraws : w.DrawsUnknown
      ((e.ensureChallenge ⟨owner, channel⟩ value : Action σ ι τ _).perform w).2)
    (hdraws' : w'.DrawsUnknown
      ((e.ensureChallenge ⟨owner, channel⟩ value : Action σ ι τ _).perform w').2) :
    Parallel owner w m w' m'
      (e.ensureChallenge ⟨owner, channel⟩ value : Action σ ι τ _).perform := by
  by_cases hrefused : VerificationStore.upsert
      (.fresh (w.entropy.drawId .address).1 ⟨owner, channel⟩ value w.now) w.store =
        .error .badKeySize
  · have hrun := perform_of_error (e.ensureChallenge_refused (ι := ι) (τ := τ) hrefused)
    have hrun' := perform_of_error
      (e.ensureChallenge_refused (ι := ι) (τ := τ) (refused_twins h hdraws hrefused))
    constructor
    · rw [hrun, hrun']
    · rw [hrun, hrun']
      exact ⟨m, m', ⟨h.shows, h.shows', h.profile, h.now, h.mailer, by rw [h.entropy]⟩,
        .refl owner w m, .refl owner w' m'⟩
  · have hroom' := fun hrefused' => hrefused (refused_twins h.symm hdraws' hrefused')
    obtain ⟨s, m₁, hrun, hshows, hfills⟩ := e.ensureChallenge_takes h.shows hdraws hrefused
    obtain ⟨s', m₁', hrun', hshows', hfills'⟩ := e.ensureChallenge_takes h.shows' hdraws' hroom'
    have hfound : m.accountIn? ⟨owner, channel⟩ = m'.accountIn? ⟨owner, channel⟩ := h.account rfl
    rw [← hfound, ← h.now, ← h.entropy, ← h.mailer] at hrun'
    rw [← hfound, ← h.now, ← h.entropy] at hfills'
    constructor
    · rw [perform_of_ok hrun, perform_of_ok hrun']
    · rw [perform_of_ok hrun, perform_of_ok hrun']
      refine ⟨m₁, m₁', ?_, World.spares_of_fills rfl hfills rfl,
        World.spares_of_fills rfl hfills' rfl⟩
      exact h.fill hshows hshows' hfills hfills'

theorem request_parallel (h : w.Twins owner m w' m') {declared : DeclaredAddress}
    (hdraws : w.DrawsUnknown ((e.request owner declared : Action σ ι τ _).perform w).2)
    (hdraws' : w'.DrawsUnknown ((e.request owner declared : Action σ ι τ _).perform w').2) :
    Parallel owner w m w' m' (e.request owner declared : Action σ ι τ _).perform := by
  rw [Engine.request] at hdraws hdraws' ⊢
  rcases identity_twins h with ⟨i, hi, hi'⟩ | ⟨error, hi, hi'⟩
  · rw [perform_congr (bind_of_ok hi)] at hdraws
    rw [perform_congr (bind_of_ok hi')] at hdraws'
    refine Parallel.of_later ?_ (perform_congr (bind_of_ok hi)) (perform_congr (bind_of_ok hi'))
      (.refl owner w m) (.refl owner w' m')
    split
    · rename_i hdeclared
      rw [if_pos hdeclared] at hdraws hdraws'
      exact ensureChallenge_parallel h hdraws hdraws'
    · exact .unchanged h rfl rfl
  · exact .unchanged h (perform_of_error (bind_of_error hi)) (perform_of_error (bind_of_error hi'))

theorem traitsChanged_parallel [LocalIdentities ι] (h : w.Twins owner m w' m')
    {declared : DeclaredAddress}
    (hdraws : w.DrawsUnknown ((e.traitsChanged owner declared : Action σ ι τ _).perform w).2)
    (hdraws' : w'.DrawsUnknown ((e.traitsChanged owner declared : Action σ ι τ _).perform w').2) :
    Parallel owner w m w' m' (e.traitsChanged owner declared : Action σ ι τ _).perform := by
  rw [Engine.traitsChanged] at hdraws hdraws' ⊢
  rcases identity_twins h with ⟨i, hi, hi'⟩ | ⟨error, hi, hi'⟩
  · rw [perform_congr (bind_of_ok hi)] at hdraws
    rw [perform_congr (bind_of_ok hi')] at hdraws'
    refine Parallel.of_later ?_ (perform_congr (bind_of_ok hi)) (perform_congr (bind_of_ok hi'))
      (.refl owner w m) (.refl owner w' m')
    by_cases hdeclared : i.traits.address? declared.channel = some declared.value
    · rw [if_neg (not_not_intro hdeclared)] at hdraws hdraws' ⊢
      exact ensureChallenge_parallel h hdraws hdraws'
    · rw [if_pos hdeclared] at hdraws hdraws' ⊢
      rcases updateTraits_twins h (i.traits.setAddress declared.channel declared.value) with
        ⟨t, t', hwrite, hwrite', htwins, hspares, hspares'⟩ | ⟨error, hwrite, hwrite'⟩
      · rw [perform_congr (bind_of_ok hwrite)] at hdraws
        rw [perform_congr (bind_of_ok hwrite')] at hdraws'
        exact .of_later
          (ensureChallenge_parallel htwins ⟨hdraws.address, hdraws.flow⟩
            ⟨hdraws'.address, hdraws'.flow⟩)
          (perform_congr (bind_of_ok hwrite)) (perform_congr (bind_of_ok hwrite')) hspares hspares'
      · exact .unchanged h (perform_of_error (bind_of_error hwrite))
          (perform_of_error (bind_of_error hwrite'))
  · exact .unchanged h (perform_of_error (bind_of_error hi)) (perform_of_error (bind_of_error hi'))

/-! ## Hooks -/

omit [SteadyBackend σ] in
-- What is the same in both worlds for each of a list, is so for the list.
theorem mapM_parallel {γ : Type} {f : γ → Action σ ι τ RequestOutcome} {g : γ → Operation}
    {l : List γ}
    (hperform : ∀ c w, (g c).perform e w = ((f c).perform w).map .requested id)
    (hstep : ∀ c {w m w' m'}, w.Twins owner m w' m' → w.DrawsUnknown ((f c).perform w).2 →
      w'.DrawsUnknown ((f c).perform w').2 → Parallel owner w m w' m' (f c).perform)
    (h : w.Twins owner m w' m') (hdraws : e.DrawUnknown (l.map g) w)
    (hdraws' : e.DrawUnknown (l.map g) w') : Parallel owner w m w' m' (l.mapM f).perform := by
  induction l generalizing w m w' m' with
  | nil => exact .unchanged h rfl rfl
  | cons c l ih =>
    rw [List.map_cons, Engine.DrawUnknown, hperform] at hdraws hdraws'
    rw [List.mapM_cons]
    refine (hstep c h hdraws.1 hdraws'.1).bind fun {outcome w₁ _ w₁' _} hrun hrun' htwins => ?_
    rw [perform_of_ok hrun] at hdraws
    rw [perform_of_ok hrun'] at hdraws'
    exact (ih htwins (hdraws.2 outcome rfl) (hdraws'.2 outcome rfl)).bind
      fun _ _ htwins => .unchanged htwins rfl rfl

omit [MailTransport τ] [SteadyBackend σ] in
theorem declared_eq (h : w.Twins owner m w' m') :
    Batch.declared w owner = Batch.declared w' owner := by
  rw [Batch.declared, Batch.declared, IdentityStore.declaredBy, IdentityStore.declaredBy,
    h.identity]

omit [MailTransport τ] [SteadyBackend σ] in
-- Both worlds have the identity declare the same.
theorem declared_twins (h : w.Twins owner m w' m') :
    (∃ error, (Engine.declaredAddresses owner : Action σ ι τ _) w = .error error w ∧
        (Engine.declaredAddresses owner : Action σ ι τ _) w' = .error error w') ∨
      (Engine.declaredAddresses owner : Action σ ι τ _) w = .ok (Batch.declared w owner) w ∧
        (Engine.declaredAddresses owner : Action σ ι τ _) w' = .ok (Batch.declared w owner) w' := by
  rcases identity_twins h with ⟨i, hi, hi'⟩ | ⟨error, hi, hi'⟩
  · rcases Engine.declaredAddresses_run (w := w) owner with ⟨⟨error, hrun⟩, -⟩ | hrun
    · rw [Engine.declaredAddresses, bind_of_ok hi] at hrun
      cases hrun
    · rcases Engine.declaredAddresses_run (w := w') owner with ⟨⟨error, hrun'⟩, -⟩ | hrun'
      · rw [Engine.declaredAddresses, bind_of_ok hi'] at hrun'
        cases hrun'
      · rw [declared_eq h.symm] at hrun'
        exact .inr ⟨hrun, hrun'⟩
  · exact .inl ⟨error, bind_of_error hi, bind_of_error hi'⟩

omit [SteadyBackend σ] in
-- One thing after another for all that the identity declares.
theorem hook_parallel {f : DeclaredAddress → Action σ ι τ RequestOutcome}
    {g : DeclaredAddress → Operation}
    (hperform : ∀ c w, (g c).perform e w = ((f c).perform w).map .requested id)
    (hstep : ∀ c {w m w' m'}, w.Twins owner m w' m' → w.DrawsUnknown ((f c).perform w).2 →
      w'.DrawsUnknown ((f c).perform w').2 → Parallel owner w m w' m' (f c).perform)
    (h : w.Twins owner m w' m') (hdraws : e.DrawUnknown ((Batch.declared w owner).map g) w)
    (hdraws' : e.DrawUnknown ((Batch.declared w' owner).map g) w') :
    Parallel owner w m w' m'
      (do (← Engine.declaredAddresses owner).mapM f : Action σ ι τ _).perform := by
  rw [declared_eq h.symm] at hdraws'
  rcases declared_twins h with ⟨error, hrun, hrun'⟩ | ⟨hrun, hrun'⟩
  · exact .unchanged h (perform_of_error (bind_of_error hrun))
      (perform_of_error (bind_of_error hrun'))
  · exact (mapM_parallel hperform hstep h hdraws hdraws').of_later
      (perform_congr (bind_of_ok hrun)) (perform_congr (bind_of_ok hrun'))
      (.refl owner w m) (.refl owner w' m')

theorem batch_parallel [LocalIdentities ι] (h : w.Twins owner m w' m') {b : Batch}
    (hb : b.AddressedTo owner) (hdraws : e.DrawUnknown (b.operations w) w)
    (hdraws' : e.DrawUnknown (b.operations w') w') :
    Parallel owner w m w' m' fun w => b.perform e w := by
  cases b with
  | requestByValue channel raw => exact hb.elim
  | afterRegistration id =>
    obtain rfl : id = owner := hb
    exact hook_parallel (fun _ _ => by rw [Operation.perform])
      (fun _ {_ _ _ _} htwins hw hw' => request_parallel htwins hw hw') h hdraws hdraws'
  | afterSettings id =>
    obtain rfl : id = owner := hb
    exact hook_parallel (fun _ _ => by rw [Operation.perform])
      (fun _ {_ _ _ _} htwins hw hw' => traitsChanged_parallel htwins hw hw') h hdraws hdraws'

end Requests

/-! ## Flows -/

section Flows

variable {flow : FlowId} {c : Challenge} {acc : Account}

-- A flow that the one world finds for the identity, the other finds as well.
theorem World.Twins.finds (h : w.Twins owner m w' m') (hf : Engine.Finds m flow c acc)
    (howner : acc.record.slot.identity = owner) : Engine.Finds m' flow c acc := by
  have hi := Backend.intact h.shows
  have hi' := Backend.intact h.shows'
  have hfound := MemoryStore.accountIn?_of_account? hi hf.account
  rw [h.account howner, MemoryStore.accountIn?_eq_some_iff hi', hf.id hi] at hfound
  have hmem := hf.mem hi
  rw [← MemoryStore.history_of_account? hfound.1, hi'.mem_history,
    hi.id_of_challenge hf.challenge] at hmem
  exact ⟨hmem.1, hfound.1⟩

-- An action that yields the same for a flow of the identity in both worlds.
theorem parallel_of_yields (h : w.Twins owner m w' m') {x : Action σ ι τ α}
    {out : Except VerificationError α × Attempt} (hf : Engine.Finds m flow c acc)
    (howner : acc.record.slot.identity = owner)
    (hamends : Attempt.Amends ⟨c, acc.record⟩ out.2)
    (hyields : Engine.Yields x w m c acc out) (hyields' : Engine.Yields x w' m' c acc out) :
    Parallel owner w m w' m' x.perform := by
  have hi := Backend.intact h.shows
  have hi' := Backend.intact h.shows'
  have hf' := h.finds hf howner
  obtain ⟨s, m₁, hrun, hshows, hsets⟩ := hyields
  obtain ⟨s', m₁', hrun', hshows', hsets'⟩ := hyields'
  -- the account stays in its slot
  have hslot : (acc.amend out.2).record.slot = acc.record.slot := hamends.address.slot
  have hfills : m.Fills acc.record.slot (acc.amend out.2) m₁ :=
    MemoryStore.fills_of_sets hi (Backend.intact hshows) hsets hslot fun old hold => by
      rw [hf.account] at hold
      cases hold
      rfl
  have hfills' : m'.Fills acc.record.slot (acc.amend out.2) m₁' :=
    MemoryStore.fills_of_sets hi' (Backend.intact hshows') hsets' hslot fun old hold => by
      rw [hf'.account] at hold
      cases hold
      rfl
  constructor
  · rw [hrun, hrun']
  · rw [hrun, hrun']
    refine ⟨m₁, m₁', ?_, World.spares_of_fills howner hfills rfl,
      World.spares_of_fills howner hfills' rfl⟩
    rw [← h.now, ← h.mailer, ← h.entropy]
    exact h.fill hshows hshows' hfills hfills'

variable {e : Engine} (hsound : ∀ {flow c acc}, Engine.Finds m flow c acc →
  Attempt.Sound ⟨c, acc.record⟩)

include hsound

omit [IdentityStore ι] in
-- A flow of the identity leads to a slot of it.
theorem found_of_addressed (h : Backend.Shows w.store m)
    (hflow : ∃ c, VerificationStore.challenge? flow w.store = .ok (some c) ∧ c.identity = owner) :
    ∃ c acc, Engine.Finds m flow c acc ∧ acc.record.slot.identity = owner := by
  obtain ⟨c, hread, howner⟩ := hflow
  rw [Backend.challenge?_eq h] at hread
  obtain ⟨acc, hf⟩ := Engine.Finds.of_intact (Backend.intact h) (Except.ok.inj hread)
  refine ⟨c, acc, hf, ?_⟩
  rw [← (hsound hf).slot]
  exact howner

theorem openLink_parallel (h : w.Twins owner m w' m') (token : String)
    (hflow : ∃ c, VerificationStore.challenge? flow w.store = .ok (some c) ∧ c.identity = owner) :
    Parallel owner w m w' m' (Engine.openLink flow token : Action σ ι τ FlowState).perform := by
  obtain ⟨c, acc, hf, howner⟩ := found_of_addressed hsound h.shows hflow
  have hf' := h.finds hf howner
  by_cases htoken : c.token = token
  · subst htoken
    have hyields := Engine.openLink_yields (ι := ι) (τ := τ) h.shows' hf'
    rw [← h.now] at hyields
    exact parallel_of_yields h hf howner (Attempt.opened_amends _ _)
      (Engine.openLink_yields h.shows hf) hyields
  · exact .unchanged h (perform_of_error (Engine.openLink_wrongToken h.shows hf htoken))
      (perform_of_error (Engine.openLink_wrongToken h.shows' hf' htoken))

theorem submit_parallel (h : w.Twins owner m w' m') (code : String)
    (hflow : ∃ c, VerificationStore.challenge? flow w.store = .ok (some c) ∧ c.identity = owner) :
    Parallel owner w m w' m' (Engine.submit flow code : Action σ ι τ SubmitOutcome).perform := by
  obtain ⟨c, acc, hf, howner⟩ := found_of_addressed hsound h.shows hflow
  have hyields := Engine.submit_yields (ι := ι) (τ := τ) h.shows' (h.finds hf howner) code
  rw [← h.now] at hyields
  exact parallel_of_yields h hf howner (Attempt.submitted_amends _ _ _)
    (Engine.submit_yields h.shows hf code) hyields

theorem operation_parallel [MailTransport τ] [SteadyBackend σ] [LocalIdentities ι]
    (h : w.Twins owner m w' m') {op : Operation} (hop : op.AddressedTo owner w)
    (hdraws : w.DrawsUnknown (op.perform e w).2) (hdraws' : w'.DrawsUnknown (op.perform e w').2) :
    Parallel owner w m w' m' fun w => op.perform e w := by
  cases op with
  | request id declared =>
    obtain rfl : id = owner := hop
    exact (request_parallel h hdraws hdraws').map _
  | traitsChanged id declared =>
    obtain rfl : id = owner := hop
    exact (traitsChanged_parallel h hdraws hdraws').map _
  | resend => exact hop.elim
  | openLink flow token => exact (openLink_parallel hsound h token hop).map _
  | submit flow code => exact (submit_parallel hsound h code hop).map _
  | sweep => exact hop.elim

end Flows

/-! ## In reachable worlds -/

namespace Engine

variable [MailTransport τ] [SteadyBackend σ] [LocalIdentities ι]

omit [MailTransport τ] [SteadyBackend σ] [LocalIdentities ι] in
-- The same in both worlds, with recorders in place of the transports that record what is mailed.
theorem isolates_of_parallel (recorded : World σ ι MailRecorder → α × World σ ι MailRecorder)
    (run : World σ ι τ → α × World σ ι τ) (hshows : Backend.Shows w.store m)
    (hshows' : Backend.Shows w'.store m')
    (hroomy : Backend.Roomy w.store) (hroomy' : Backend.Roomy w'.store)
    (hrecorded : ∀ w, ∃ recorder,
      recorded (w.withMailer .empty) = ((run w).1, (run w).2.withMailer recorder))
    (h : Parallel owner (w.withMailer MailRecorder.empty) m (w'.withMailer .empty) m' recorded) :
    Isolates owner w w' (run w) (run w') (recorded (w.withMailer .empty)).2.mailer.sent
      (recorded (w'.withMailer .empty)).2.mailer.sent := by
  obtain ⟨hanswer, m₁, m₁', htwins, hspares, hspares'⟩ := h
  obtain ⟨recorder, hrun⟩ := hrecorded w
  obtain ⟨recorder', hrun'⟩ := hrecorded w'
  rw [hrun, hrun'] at hanswer htwins
  rw [hrun] at hspares
  rw [hrun'] at hspares'
  have hslice {v : World σ ι τ} {n : MemoryStore} {mailer : MailRecorder}
      (hn : Backend.Shows (v.withMailer mailer).store n) (hroomy : Backend.Roomy v.store)
      (id : IdentityId) : v.slice id = ((v.withMailer mailer).profile n id).slice :=
    World.slice_eq (w := v) hn hroomy id
  refine ⟨hanswer, ?_, fun hafter hafter' => ?_, fun hafter other hother => ?_,
    fun hafter other hother => ?_⟩
  · rw [hrun, hrun']
    exact congrArg MailRecorder.sent htwins.mailer
  · rw [hslice htwins.shows hafter, hslice htwins.shows' hafter', htwins.profile]
  · rw [hslice htwins.shows hafter, hspares other hother]
    exact (World.slice_eq hshows hroomy other).symm
  · rw [hslice htwins.shows' hafter, hspares' other hother]
    exact (World.slice_eq hshows' hroomy' other).symm

/-- In two reachable worlds that hold the same slice of an identity, with the same time and the same
bytes to draw, whatever is done for the identity is answered the same, mails the same and leaves the
same slice of it; and the slices of the others are left alone. -/
theorem isolates_of_reachable (h : e.Reachable w) (h' : e.Reachable w')
    (hroomy : Backend.Roomy w.store) (hroomy' : Backend.Roomy w'.store)
    (hslice : w.slice owner = w'.slice owner) (hnow : w.now = w'.now)
    (hentropy : w.entropy = w'.entropy) :
    (∀ op : Operation, op.AddressedTo owner w → op.Possible e w → op.Possible e w' →
      Isolates owner w w' (op.perform e w) (op.perform e w') (op.mails e w) (op.mails e w')) ∧
    ∀ b : Batch, b.AddressedTo owner → e.DrawUnknown (b.operations w) w →
      e.DrawUnknown (b.operations w') w' →
      Isolates owner w w' (b.perform e w) (b.perform e w') (b.mails e w) (b.mails e w') := by
  obtain ⟨m, hshows, hsound⟩ := h.sound
  obtain ⟨m', hshows', -⟩ := h'.sound
  have hprofile : w.profile m owner = w'.profile m' owner := by
    refine Profile.slice_injective ?_
    rw [← World.slice_eq hshows hroomy, ← World.slice_eq hshows' hroomy', hslice]
  have htwins : World.Twins owner (w.withMailer MailRecorder.empty) m (w'.withMailer .empty) m' :=
    ⟨hshows, hshows', hprofile, hnow, rfl, hentropy⟩
  refine ⟨fun op hop hpossible hpossible' => ?_, fun b hb hdraws hdraws' => ?_⟩
  · refine isolates_of_parallel (fun w => op.perform e w) (fun w => op.perform e w) hshows hshows'
      hroomy hroomy' (fun w => ⟨_, op.perform_withMailer e w MailRecorder.empty⟩) ?_
    refine operation_parallel hsound htwins ?_ (possible_withMailer hpossible _).draws
      (possible_withMailer hpossible' _).draws
    cases op <;> exact hop
  · refine isolates_of_parallel (fun w => b.perform e w) (fun w => b.perform e w) hshows hshows'
      hroomy hroomy' (fun w => ⟨_, b.perform_withMailer e w MailRecorder.empty⟩) ?_
    refine batch_parallel htwins hb ?_ ?_
    · rw [b.operations_withMailer]
      exact drawUnknown_withMailer hdraws _
    · rw [b.operations_withMailer]
      exact drawUnknown_withMailer hdraws' _

end Engine

namespace Sample

def bob : IdentityId := ⟨"bob"⟩

/-- The world after Ann's request. -/
def alone : World MemoryStore MemoryIdentities MailRecorder :=
  { requested with entropy := { start.entropy with drawn := 160 } }

/-- The world after Ann's request and one of Bob, who declares the same address. -/
def crowded : World MemoryStore MemoryIdentities MailRecorder :=
  ((Operation.request bob home).perform engine
    { requested with identities := requested.identities.register bob home }).2

theorem alone_reachable : engine.Reachable alone :=
  requested_reachable.run (.single (.step (.outside rfl)))

theorem crowded_reachable : engine.Reachable crowded := by
  have hregistered : engine.Reachable
      { requested with identities := requested.identities.register bob home } :=
    requested_reachable.run (.single (.step (.outside rfl)))
  exact hregistered.perform ⟨⟨fun _ => rfl, fun _ => rfl⟩, trivial⟩

/-- Ann does not notice Bob, nor he her, whether she enters her code or saves her settings. -/
theorem alone_isolates :
    alone.slice bob ≠ crowded.slice bob ∧ alone.slice ann = crowded.slice ann ∧
      Isolates ann alone crowded (firstCode.perform engine alone)
        (firstCode.perform engine crowded) (firstCode.mails engine alone)
        (firstCode.mails engine crowded) ∧
      Isolates ann alone crowded ((Batch.afterSettings ann).perform engine alone)
        ((Batch.afterSettings ann).perform engine crowded)
        ((Batch.afterSettings ann).mails engine alone)
        ((Batch.afterSettings ann).mails engine crowded) := by
  have hbob : alone.slice bob ≠ crowded.slice bob := by
    intro hsame
    cases congrArg Slice.identity hsame
  have hann : alone.slice ann = crowded.slice ann := by
    rw [World.slice, World.slice, Slice.mk.injEq]
    exact ⟨rfl, funext fun channel => by cases channel; rfl⟩
  have hboth := Engine.isolates_of_reachable alone_reachable crowded_reachable trivial trivial hann
    rfl rfl
  refine ⟨hbob, hann, hboth.1 firstCode ⟨_, rfl, rfl⟩ ?_ ?_, hboth.2 (.afterSettings ann) rfl ?_ ?_⟩
  · exact ⟨⟨fun _ => rfl, fun _ => rfl⟩, trivial⟩
  · exact ⟨⟨fun _ => rfl, fun _ => rfl⟩, trivial⟩
  · exact ⟨⟨fun _ => rfl, fun _ => rfl⟩, fun _ _ => trivial⟩
  · exact ⟨⟨fun _ => rfl, fun _ => rfl⟩, fun _ _ => trivial⟩

end Sample

end Vouch
