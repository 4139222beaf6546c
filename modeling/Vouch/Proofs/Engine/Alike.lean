import Vouch.Proofs.Engine.Run
import Vouch.Proofs.Engine.Together

/-!
# Operations are answered alike

Whatever is asked for in two worlds that resemble each other, a sweep apart, is answered the same,
up to how challenges lapsed, and leaves worlds that resemble each other.  This goes for single
operations and for those that a batch performs one after another.
-/

namespace Vouch

open Vouch.Action

variable {σ ι τ : Type} {e : Engine} {now : Timestamp} {w w' : World σ ι τ} {m m' : MemoryStore}

namespace Engine

-- Actions on what is read off each element of a list.
theorem mapM_map {α β γ : Type} (f : β → Action σ ι τ γ) (k : α → β) (l : List α) :
    (l.mapM fun a => f (k a)) = (l.map k).mapM f := by
  induction l with
  | nil => rfl
  | cons a l ih => rw [List.map_cons, List.mapM_cons, List.mapM_cons, ih]

/-! ## Operations -/

variable [IdentityStore ι]

theorem identity_unchanged {id : IdentityId} {i : Identity} {w₁ : World σ ι τ}
    (hrun : (identity id : Action σ ι τ Identity) w = .ok i w₁) : w₁ = w := by
  rcases identity_run (w := w) id with ⟨j, -, hj⟩ | ⟨error, hj⟩
  · rw [hj] at hrun
    cases hrun
    rfl
  · rw [hj] at hrun
    cases hrun

variable [VerificationStore σ] [Backend σ]

theorem identity_together (h : w.Resembles now w') (id : IdentityId) :
    Together now ((identity id : Action σ ι τ Identity) w)
      ((identity id : Action σ ι τ Identity) w') := by
  cases h with
  | @intro s' m m' hnow hshows hshows' hm =>
  have hw : w.Resembles now { w with store := s' } := .intro hnow hshows hshows' hm
  have hget : ∀ w : World σ ι τ, (get : Action σ ι τ (World σ ι τ)) w = .ok w w := fun _ => rfl
  rw [identity, bind_of_ok (hget _), bind_of_ok (hget _)]
  cases IdentityStore.identity? id w.identities with
  | error e => exact .error _ hw
  | ok found =>
    cases found with
    | none => exact .error _ hw
    | some i => exact .ok i hw

theorem updateTraits_together (h : w.Resembles now w') (id : IdentityId) (traits : Traits) :
    Together now ((updateTraits id traits : Action σ ι τ Unit) w)
      ((updateTraits id traits : Action σ ι τ Unit) w') := by
  cases h with
  | @intro s' m m' hnow hshows hshows' hm =>
  have hrun : ∀ w : World σ ι τ, (updateTraits id traits : Action σ ι τ Unit) w =
      (ofExcept ((IdentityStore.updateTraits id traits w.identities).mapError .store) >>=
        fun identities => set { w with identities } : Action σ ι τ Unit) w := fun _ => rfl
  rw [hrun, hrun]
  cases IdentityStore.updateTraits id traits w.identities with
  | error e => exact .error _ (.intro hnow hshows hshows' hm)
  | ok identities => exact .ok () (.intro hnow hshows hshows' hm)

variable [MailTransport τ] [SteadyBackend σ]

theorem request_together (h : w.Resembles now w') {id : IdentityId} {declared : DeclaredAddress}
    (hdraws : w.DrawsUnknown ((e.request id declared : Action σ ι τ RequestOutcome).perform w).2) :
    Together now ((e.request id declared : Action σ ι τ RequestOutcome) w)
      ((e.request id declared : Action σ ι τ RequestOutcome) w') := by
  refine (identity_together h id).bind fun {i w₁ w₁'} hi hw => ?_
  have hsame := identity_unchanged hi
  subst hsame
  split
  · rename_i hdeclared
    refine ensureChallenge_together hw (hdraws.address ?_)
    rw [request, perform_congr (bind_of_ok hi), if_pos hdeclared]
    exact e.ensureChallenge_drawn _ _
  · exact .error _ hw

theorem traitsChanged_together (h : w.Resembles now w') {id : IdentityId}
    {declared : DeclaredAddress}
    (hdraws : w.DrawsUnknown
      ((e.traitsChanged id declared : Action σ ι τ RequestOutcome).perform w).2) :
    Together now ((e.traitsChanged id declared : Action σ ι τ RequestOutcome) w)
      ((e.traitsChanged id declared : Action σ ι τ RequestOutcome) w') := by
  refine (identity_together h id).bind fun {i w₁ w₁'} hi hw => ?_
  have hsame := identity_unchanged hi
  subst hsame
  rw [traitsChanged, perform_congr (bind_of_ok hi)] at hdraws
  by_cases hdeclared : i.traits.address? declared.channel ≠ some declared.value
  · rw [if_pos hdeclared] at hdraws ⊢
    refine (updateTraits_together hw id _).bind fun {_ w₂ w₂'} hwrite hw₂ => ?_
    rw [perform_congr (bind_of_ok hwrite)] at hdraws
    rcases updateTraits_run (w := w₁) id (i.traits.setAddress declared.channel declared.value)
      with ⟨identities, -, hwrites⟩ | ⟨error, hwrites⟩
    · rw [hwrites] at hwrite
      cases hwrite
      have hdrawn := e.ensureChallenge_drawn (w := { w₁ with identities }) ⟨id, declared.channel⟩
        declared.value
      exact ensureChallenge_together hw₂ (hdraws.address hdrawn)
    · rw [hwrites] at hwrite
      cases hwrite
  · rw [if_neg hdeclared] at hdraws ⊢
    exact ensureChallenge_together hw (hdraws.address (e.ensureChallenge_drawn _ _))

end Engine

variable [VerificationStore σ] [IdentityStore ι] [MailTransport τ] [Backend σ]

/-- The answer, up to how a challenge lapsed. -/
def Answer.blur : Answer → Answer
  | .opened state => .opened (state.mapError VerificationError.blur)
  | .submitted outcome => .submitted (outcome.mapError VerificationError.blur)
  | answer => answer

namespace Operation

def isSweep : Operation → Bool
  | .sweep => true
  | _ => false

-- Any operation but a sweep is answered alike in worlds that resemble each other.
theorem perform_alike [SteadyBackend σ] (h : w.Resembles now w') {op : Operation}
    (hop : op.isSweep = false) (hdraws : w.DrawsUnknown (op.perform e w).2) :
    (op.perform e w).1.blur = (op.perform e w').1.blur ∧
      (op.perform e w).2.Resembles now (op.perform e w').2 := by
  cases op with
  | request id declared =>
    have htogether := Engine.request_together (e := e) h hdraws
    exact ⟨congrArg Answer.requested htogether.answer, htogether.world⟩
  | traitsChanged id declared =>
    have htogether := Engine.traitsChanged_together (e := e) h hdraws
    exact ⟨congrArg Answer.requested htogether.answer, htogether.world⟩
  | resend owner channel value =>
    have htogether : Together now
        ((e.ensureChallenge ⟨owner, channel⟩ value : Action σ ι τ RequestOutcome) w)
        ((e.ensureChallenge ⟨owner, channel⟩ value : Action σ ι τ RequestOutcome) w') :=
      Engine.ensureChallenge_together h (hdraws.address (e.ensureChallenge_drawn _ _))
    exact ⟨congrArg Answer.requested htogether.answer, htogether.world⟩
  | openLink flow token =>
    have halike := Engine.openLink_alike h flow token
    exact ⟨congrArg Answer.opened halike.answer, halike.world⟩
  | submit flow code =>
    have halike := Engine.submit_alike h flow code
    exact ⟨congrArg Answer.submitted halike.answer, halike.world⟩
  | sweep => cases hop

end Operation

/-! ## Batches -/

namespace Engine

-- The actions on a list are answered alike, one after another.
theorem mapM_together {α : Type} {f : α → Action σ ι τ RequestOutcome} {g : α → Operation}
    {l : List α} (hperform : ∀ a w, (g a).perform e w = ((f a).perform w).map .requested id)
    (htogether : ∀ a {w w' : World σ ι τ}, w.Resembles now w' →
      w.DrawsUnknown ((f a).perform w).2 → Together now (f a w) (f a w'))
    (h : w.Resembles now w') (hdraws : e.DrawUnknown (l.map g) w) :
    Together now (l.mapM f w) (l.mapM f w') := by
  induction l generalizing w w' with
  | nil => exact .ok [] h
  | cons a l ih =>
    have hfirst := hdraws.1
    have hrest := hdraws.2
    rw [hperform a w] at hfirst hrest
    rw [List.mapM_cons]
    refine (htogether a h hfirst).bind fun {outcome w₁ w₁'} hrun hw => ?_
    rw [perform_of_ok hrun] at hrest
    exact (ih hw (hrest outcome rfl)).bind fun _ hw => .ok _ hw

-- Who the owners are is all that matters, not what their records say.
theorem resends_together [SteadyBackend σ] (h : w.Resembles now w') {channel : Channel}
    {value : Contact} {owners owners' : List Address}
    (hsame : (owners.map fun a => a.identity) = owners'.map fun a => a.identity)
    (hdraws : e.DrawUnknown (owners.map fun a => .resend a.identity channel value) w) :
    Together now
      ((owners.mapM fun a => e.ensureChallenge ⟨a.identity, channel⟩ value :
        Action σ ι τ (List RequestOutcome)) w)
      ((owners'.mapM fun a => e.ensureChallenge ⟨a.identity, channel⟩ value :
        Action σ ι τ (List RequestOutcome)) w') := by
  let challenge (owner : IdentityId) : Action σ ι τ RequestOutcome :=
    e.ensureChallenge ⟨owner, channel⟩ value
  have hall (l : List Address) : (l.mapM fun a => e.ensureChallenge ⟨a.identity, channel⟩ value) =
      (l.map fun a => a.identity).mapM challenge := mapM_map challenge _ l
  rw [hall owners, hall owners', ← hsame]
  refine mapM_together (e := e) (g := fun owner => .resend owner channel value)
    (fun _ _ => by rw [Operation.perform]) (fun owner {w w'} hw hdraws => ?_) h ?_
  · exact ensureChallenge_together hw (hdraws.address (e.ensureChallenge_drawn _ _))
  · rw [List.map_map]
    exact hdraws

-- An identity declares the same addresses in both worlds.
theorem declared_together (h : w.Resembles now w') {id : IdentityId}
    {f : DeclaredAddress → Action σ ι τ RequestOutcome} {g : DeclaredAddress → Operation}
    (hperform : ∀ a w, (g a).perform e w = ((f a).perform w).map .requested fun w => w)
    (htogether : ∀ a {w w' : World σ ι τ}, w.Resembles now w' →
      w.DrawsUnknown ((f a).perform w).2 → Together now (f a w) (f a w'))
    (hdraws : e.DrawUnknown ((Batch.declared w id).map g) w) :
    Together now ((do (← declaredAddresses id).mapM f : Action σ ι τ (List RequestOutcome)) w)
      ((do (← declaredAddresses id).mapM f : Action σ ι τ (List RequestOutcome)) w') := by
  have hread : Together now ((declaredAddresses id : Action σ ι τ (List DeclaredAddress)) w)
      ((declaredAddresses id : Action σ ι τ (List DeclaredAddress)) w') :=
    (identity_together h id).bind fun _ hw => .ok _ hw
  refine Together.bind hread fun {declared w₁ w₁'} hdeclared hw => ?_
  rcases declaredAddresses_run (w := w) id with ⟨⟨error, hrun⟩, -⟩ | hrun
  · cases hrun.symm.trans hdeclared
  · cases hrun.symm.trans hdeclared
    exact mapM_together hperform htogether hw hdraws

end Engine

/-- A batch is answered alike in worlds that resemble each other. -/
theorem Batch.perform_alike [SteadyBackend σ] (h : w.Resembles now w') {b : Batch}
    (hdraws : e.DrawUnknown (b.operations w) w) :
    (b.perform e w).1 = (b.perform e w').1 ∧
      (b.perform e w).2.Resembles now (b.perform e w').2 := by
  cases b with
  | requestByValue channel raw =>
    suffices Together now ((e.requestByValue channel raw : Action σ ι τ (List RequestOutcome)) w)
        ((e.requestByValue channel raw : Action σ ι τ (List RequestOutcome)) w') from
      ⟨this.answer, this.world⟩
    cases hparse : Contact.parse channel raw with
    | error cause =>
      rw [e.requestByValue_unparsed hparse, e.requestByValue_unparsed hparse]
      exact .error _ h
    | ok value =>
      cases h with
      | @intro s' m m' hnow hshows hshows' hm =>
      have hw : w.Resembles now { w with store := s' } := .intro hnow hshows hshows' hm
      obtain ⟨l, l', hread, hread', howners⟩ :=
        SteadyBackend.addressesWith_order hshows hshows' channel value hm.sameBindings
      have hempty : l'.isEmpty = l.isEmpty := by
        rw [← List.isEmpty_map (f := fun a => a.identity), ← howners, List.isEmpty_map]
      rw [e.requestByValue_run hparse hread,
        e.requestByValue_run (w := { w with store := s' }) hparse hread', hempty]
      rw [operations, hparse, resends, hread] at hdraws
      cases l.isEmpty with
      | true => exact (Engine.send_together hw _).bind fun _ hw => .ok [] hw
      | false => exact Engine.resends_together hw howners hdraws
  | afterRegistration id =>
    have htogether := Engine.declared_together (e := e) (f := fun declared => e.request id declared)
      (g := fun declared => .request id declared) h (fun _ _ => by rw [Operation.perform]; rfl)
      (fun _ {_ _} hw hdraws => Engine.request_together hw hdraws) hdraws
    exact ⟨htogether.answer, htogether.world⟩
  | afterSettings id =>
    have htogether := Engine.declared_together (e := e)
      (f := fun declared => e.traitsChanged id declared)
      (g := fun declared => .traitsChanged id declared) h
      (fun _ _ => by rw [Operation.perform]; rfl)
      (fun _ {_ _} hw hdraws => Engine.traitsChanged_together hw hdraws) hdraws
    exact ⟨htogether.answer, htogether.world⟩

end Vouch
