import Vouch.Proofs.Engine.Run
import Vouch.Proofs.Store.Failures

/-!
# Sections

What the part of an operation does that runs inside a slot: which value the slot is bound to
afterwards, and which one is declared for it.  A request binds its slot and declares nothing; a
change of traits does both.  Other slots and other identities are left as they are.
-/

namespace Vouch

open Vouch.Action

-- There is but one channel, so other slots are those of other identities.
theorem Slot.identity_ne {slot slot' : Slot} (h : slot' ≠ slot) : slot'.identity ≠ slot.identity := by
  obtain ⟨id, ⟨⟩⟩ := slot
  obtain ⟨id', ⟨⟩⟩ := slot'
  exact fun hid => h (congrArg (Slot.mk · .email) hid)

/-! ## What a slot holds and what is declared for it -/

/-- The value that a slot is bound to. -/
def World.bound? {σ ι τ : Type} [VerificationStore σ] (slot : Slot) (w : World σ ι τ) :
    Option Contact :=
  match VerificationStore.addressIn? slot w.store with
  | .ok a => a.map (·.value)
  | .error _ => none

/-- The value that an identity declares for its slot. -/
def World.declared? {σ ι τ : Type} [IdentityStore ι] (slot : Slot) (w : World σ ι τ) :
    Option Contact :=
  match IdentityStore.identity? slot.identity w.identities with
  | .ok i => i.bind (·.traits.address? slot.channel)
  | .error _ => none

namespace MemoryStore

def bound? (slot : Slot) (m : MemoryStore) : Option Contact :=
  ((m.slots.get? slot).bind m.addresses.get?).map (·.value)

variable {m m' : MemoryStore} {slot slot' : Slot} {value : Contact}

theorem bound?_eq_some_iff (hi : m.Intact) : m.bound? slot = some value ↔
    ∃ id acc, m.account? id = some acc ∧ acc.record.slot = slot ∧ acc.record.value = value := by
  rw [bound?, Option.map_eq_some_iff]
  constructor
  · rintro ⟨a, ha, hvalue⟩
    obtain ⟨id, hslot, hget⟩ := Option.bind_eq_some_iff.mp ha
    obtain ⟨a', hget', hslot'⟩ := hi.slot_iff.mp hslot
    rw [hget] at hget'
    cases hget'
    exact ⟨id, _, account?_of_get? hget, hslot', hvalue⟩
  · rintro ⟨id, acc, hacc, hslot, hvalue⟩
    have hget := get?_of_account? hacc
    exact ⟨acc.record, Option.bind_eq_some_iff.mpr ⟨id, hi.slot_iff.mpr ⟨_, hget, hslot⟩, hget⟩,
      hvalue⟩

end MemoryStore

section Effects

variable {σ ι τ : Type} [VerificationStore σ] [Backend σ] {w w' : World σ ι τ} {m m' : MemoryStore}
  {e : Engine} {slot slot' : Slot} {value : Contact} {now : Timestamp}

theorem World.bound?_eq (h : Backend.Shows w.store m) (slot : Slot) :
    w.bound? slot = m.bound? slot := by
  rw [World.bound?, Backend.addressIn?_eq h, MemoryStore.bound?]

namespace Engine

variable {outcome : Except VerificationError RequestOutcome}

-- A request that ends well has the slot bound to its value.
theorem Ensures.bound_self (h : e.Ensures m slot value now outcome m') (hi' : m'.Intact)
    (hok : outcome.isOk = true) : m'.bound? slot = some value := by
  refine (MemoryStore.bound?_eq_some_iff hi').mpr ?_
  cases h with
  | refused => cases hok
  | alreadyVerified hacc hslot hvalue => exact ⟨_, _, hacc, hslot, hvalue⟩
  | resent hacc hslot hvalue => exact ⟨_, _, hacc, hslot, hvalue⟩
  | @issued id acc c token code _ haddressed _ _ hc hsets =>
    refine ⟨id, _, hsets.get?, ?_, ?_⟩
    · cases haddressed with
      | known _ hslot => exact hslot
      | fresh => rfl
    · rw [Account.issue, hc]
      rfl

-- A request leaves the other slots as they are.
theorem Ensures.bound_other (h : e.Ensures m slot value now outcome m') (hi : m.Intact)
    (hi' : m'.Intact) (hother : slot' ≠ slot) : m'.bound? slot' = m.bound? slot' := by
  cases h with
  | refused => rfl
  | alreadyVerified => rfl
  | resent => rfl
  | @issued id acc c token code _ haddressed _ _ _ hsets =>
    refine Option.ext fun v => ?_
    rw [MemoryStore.bound?_eq_some_iff hi, MemoryStore.bound?_eq_some_iff hi']
    -- the record that the request is about is in the slot of the request, before and after
    have hbefore : ∀ acc₀, m.account? id = some acc₀ → acc₀.record.slot = slot := by
      intro acc₀ hacc₀
      cases haddressed with
      | known hacc hslot =>
        rw [hacc] at hacc₀
        cases hacc₀
        exact hslot
      | fresh _ hnone =>
        rw [hnone] at hacc₀
        cases hacc₀
    have hafter : (acc.issue c).record.slot = slot := by
      cases haddressed with
      | known _ hslot => exact hslot
      | fresh => rfl
    constructor
    · rintro ⟨id', acc', hacc', hslot', hvalue'⟩
      have hid : id' ≠ id := by
        rintro rfl
        rw [hsets.get?] at hacc'
        cases hacc'
        exact hother (hslot'.symm.trans hafter)
      rw [hsets id', if_neg hid] at hacc'
      exact ⟨id', acc', hacc', hslot', hvalue'⟩
    · rintro ⟨id', acc', hacc', hslot', hvalue'⟩
      have hid : id' ≠ id := by
        rintro rfl
        exact hother (hslot'.symm.trans (hbefore acc' hacc'))
      exact ⟨id', acc', by rw [hsets id', if_neg hid]; exact hacc', hslot', hvalue'⟩

theorem Ensures.bound (h : e.Ensures m slot value now outcome m') (hi : m.Intact)
    (hi' : m'.Intact) (slot' : Slot) :
    m'.bound? slot' = if slot' = slot ∧ outcome.isOk = true then some value else m.bound? slot' := by
  by_cases hother : slot' = slot
  · subst hother
    cases outcome with
    | ok outcome => rw [if_pos ⟨rfl, rfl⟩, h.bound_self hi' rfl]
    | error error =>
      rw [if_neg fun hok => (nomatch hok.2)]
      cases h
      rfl
  · rw [if_neg fun hsame => hother hsame.1, h.bound_other hi hi' hother]

end Engine

end Effects

namespace Action

variable {σ ι τ α β : Type}

/-- The action leaves the identities alone. -/
def SparesIdentities (x : Action σ ι τ α) : Prop :=
  ∀ w, (x.perform w).2.identities = w.identities

theorem SparesIdentities.bind {x : Action σ ι τ α} {f : α → Action σ ι τ β}
    (hx : x.SparesIdentities) (hf : ∀ a, (f a).SparesIdentities) : (x >>= f).SparesIdentities := by
  intro w
  have hw := hx w
  cases h : x w with
  | ok a w' =>
    rw [perform_of_ok h] at hw
    rw [perform_congr (bind_of_ok h)]
    exact (hf a w').trans hw
  | error e w' =>
    rw [perform_of_error h] at hw
    rw [perform_of_error (bind_of_error h)]
    exact hw

theorem sparesIdentities_pure (a : α) : (pure a : Action σ ι τ α).SparesIdentities := fun _ => rfl

theorem SparesIdentities.mapM {f : β → Action σ ι τ α} (hf : ∀ b, (f b).SparesIdentities)
    (l : List β) : (l.mapM f).SparesIdentities := by
  induction l with
  | nil => exact sparesIdentities_pure []
  | cons b l ih =>
    rw [List.mapM_cons]
    exact (hf b).bind fun _ => ih.bind fun _ => sparesIdentities_pure _

theorem sparesIdentities_readStore (read : σ → Except StoreError α) :
    (readStore read : Action σ ι τ α).SparesIdentities := by
  intro w
  cases h : read w.store with
  | ok a => rw [perform_of_ok (readStore_of_ok h)]
  | error e => rw [perform_of_error (readStore_of_error h)]

theorem sparesIdentities_changeStore (change : σ → Except StoreError (α × σ)) :
    (changeStore change : Action σ ι τ α).SparesIdentities := by
  intro w
  cases h : change w.store with
  | ok result => rw [perform_of_ok (changeStore_of_ok h)]
  | error e => rw [perform_of_error (changeStore_of_error h)]

theorem sparesIdentities_mailLink [MailTransport τ] (e : Engine) (c : Challenge) :
    (e.mailLink c : Action σ ι τ Unit).SparesIdentities := by
  intro w
  rw [perform_of_ok (mailLink_run e c)]

end Action

namespace Engine

variable {σ ι τ : Type} [VerificationStore σ] [MailTransport τ]

theorem sparesIdentities_issueChallenge (e : Engine) (a : Address) :
    (e.issueChallenge a : Action σ ι τ FlowId).SparesIdentities := by
  rw [issueChallenge]
  refine SparesIdentities.bind (fun _ => rfl) fun flow => ?_
  refine SparesIdentities.bind (fun _ => rfl) fun secret => ?_
  refine SparesIdentities.bind (fun _ => rfl) fun now => ?_
  refine (sparesIdentities_changeStore _).bind fun _ => ?_
  exact (sparesIdentities_mailLink e _).bind fun _ => sparesIdentities_pure flow

theorem sparesIdentities_ensureChallenge (e : Engine) (slot : Slot) (value : Contact) :
    (e.ensureChallenge slot value : Action σ ι τ RequestOutcome).SparesIdentities := by
  have hissue (a : Address) : (do return .issued (← e.issueChallenge a) :
      Action σ ι τ RequestOutcome).SparesIdentities :=
    (sparesIdentities_issueChallenge e a).bind fun _ => sparesIdentities_pure _
  rw [ensureChallenge]
  refine SparesIdentities.bind (fun _ => rfl) fun now => ?_
  refine SparesIdentities.bind (fun _ => rfl) fun id => ?_
  refine (sparesIdentities_changeStore _).bind fun upserted => ?_
  show SparesIdentities (if upserted.address.verified then _ else _)
  split
  · exact sparesIdentities_pure _
  · refine (sparesIdentities_readStore _).bind fun current => ?_
    cases current with
    | none => exact hissue _
    | some c =>
      show SparesIdentities (if c.isLive now ∧ c.value = upserted.address.value then _ else _)
      split
      · exact (sparesIdentities_mailLink e c).bind fun _ => sparesIdentities_pure _
      · exact (sparesIdentities_changeStore _).bind fun _ => hissue _

omit [MailTransport τ] in
theorem sparesIdentities_sweep : (sweep : Action σ ι τ Nat).SparesIdentities :=
  SparesIdentities.bind (fun _ => rfl) fun _ => (sparesIdentities_readStore _).bind fun _ =>
    (SparesIdentities.mapM (fun _ => sparesIdentities_changeStore _) _).bind fun _ =>
      sparesIdentities_pure _

end Engine

/-! ## The two kinds of sections -/

theorem World.declared?_congr {σ ι τ : Type} [IdentityStore ι] {w w' : World σ ι τ}
    (h : w'.identities = w.identities) (slot : Slot) : w'.declared? slot = w.declared? slot := by
  rw [World.declared?, World.declared?, h]

theorem World.bound?_congr {σ ι τ : Type} [VerificationStore σ] {w w' : World σ ι τ}
    (h : w'.store = w.store) (slot : Slot) : w'.bound? slot = w.bound? slot := by
  rw [World.bound?, World.bound?, h]

section Sections

variable {σ ι τ : Type} [VerificationStore σ] [IdentityStore ι] [MailTransport τ] [Backend σ]
  {e : Engine} {w : World σ ι τ} {m : MemoryStore} {slot : Slot} {value : Contact}

omit [IdentityStore ι] in
-- The section of a request binds its slot, if it ends well.
theorem Engine.ensureChallenge_binds (h : Backend.Shows w.store m)
    (hdraws : w.DrawsUnknown ((e.ensureChallenge slot value).perform w).2) :
    (∃ m', Backend.Shows ((e.ensureChallenge slot value).perform w).2.store m') ∧
      ∀ slot', ((e.ensureChallenge slot value).perform w).2.bound? slot' =
        if slot' = slot ∧ ((e.ensureChallenge slot value).perform w).1.isOk = true then some value
        else w.bound? slot' := by
  obtain ⟨m', hshows', hensures, -⟩ := Operation.ensureChallenge_ends e h hdraws
  refine ⟨⟨m', hshows'⟩, fun slot' => ?_⟩
  rw [World.bound?_eq hshows', World.bound?_eq h]
  exact hensures.bound (Backend.intact h) (Backend.intact hshows') slot'

variable [Registry ι] [KeepingRegistry ι] {id : IdentityId} {declared : DeclaredAddress}

omit [VerificationStore σ] [MailTransport τ] [Backend σ] in
-- An identity whose traits say so declares the value, and the others declare what they did.
theorem declared_of_setAddress (hregistry : Registry.Sound w.identities)
    (hdeclared : Registry.Storable ι ⟨id, ⟨[declared]⟩⟩) {i : Identity} {identities : ι}
    (hread : IdentityStore.identity? id w.identities = .ok (some i))
    (hwrite : i.traits.address? declared.channel = some declared.value ∧
        identities = w.identities ∨
      IdentityStore.updateTraits id (i.traits.setAddress declared.channel declared.value)
        w.identities = .ok identities) :
    Registry.Sound identities ∧ ∀ slot', { w with identities }.declared? slot' =
      if slot' = ⟨id, declared.channel⟩ then some declared.value else w.declared? slot' := by
  rcases hwrite with ⟨haddress, rfl⟩ | hwrite
  · refine ⟨hregistry, fun slot' => ?_⟩
    split
    · rename_i hslot
      rw [hslot, World.declared?, hread]
      exact haddress
    · rfl
  · have hstorable := Registry.storable_setAddress
      (KeepingRegistry.storable_of_stored hregistry hread) hdeclared
    refine ⟨Registry.sound_updateTraits hregistry hstorable hwrite, fun slot' => ?_⟩
    split
    · rename_i hslot
      obtain ⟨i', hread', htraits⟩ := KeepingRegistry.updated hregistry hstorable hwrite
      rw [hslot, World.declared?, hread']
      show i'.traits.address? declared.channel = _
      rw [htraits]
      exact i.traits.address?_setAddress declared.channel declared.value
    · rename_i hslot
      rw [World.declared?, World.declared?,
        LocalIdentities.spared hwrite (Slot.identity_ne hslot)]

-- The section of an edit declares its value and binds the slot to it.  If it fails, the value may
-- be declared all the same.
theorem Engine.traitsChanged_leads (h : Backend.Shows w.store m)
    (hregistry : Registry.Sound w.identities)
    (hdeclared : Registry.Storable ι ⟨id, ⟨[declared]⟩⟩)
    (hdraws : w.DrawsUnknown ((e.traitsChanged id declared).perform w).2) :
    (∃ m', Backend.Shows ((e.traitsChanged id declared).perform w).2.store m') ∧
      Registry.Sound ((e.traitsChanged id declared).perform w).2.identities ∧
      (∀ slot', ((e.traitsChanged id declared).perform w).2.bound? slot' =
        if slot' = ⟨id, declared.channel⟩ ∧
          ((e.traitsChanged id declared).perform w).1.isOk = true
        then some declared.value else w.bound? slot') ∧
      ((((e.traitsChanged id declared).perform w).1.isOk = false ∧
          ((e.traitsChanged id declared).perform w).2.identities = w.identities) ∨
        ∀ slot', ((e.traitsChanged id declared).perform w).2.declared? slot' =
          if slot' = ⟨id, declared.channel⟩ then some declared.value else w.declared? slot') := by
  rcases Operation.traitsChanged_declares (w := w) e id declared with
    ⟨error, hrun⟩ | ⟨i, identities, hread, hwrite, hrun⟩
  · rw [perform_of_error hrun]
    refine ⟨⟨m, h⟩, hregistry, fun slot' => ?_, .inl ⟨rfl, rfl⟩⟩
    rw [if_neg fun hok => (nomatch hok.2)]
  · rw [perform_congr hrun] at hdraws ⊢
    obtain ⟨hshows, hbound⟩ := ensureChallenge_binds (w := { w with identities }) h
      ⟨hdraws.address, hdraws.flow⟩
    obtain ⟨hregistry', hdeclares⟩ := declared_of_setAddress hregistry hdeclared hread hwrite
    have hspared := sparesIdentities_ensureChallenge (τ := τ) e ⟨id, declared.channel⟩
      declared.value { w with identities }
    refine ⟨hshows, ?_, hbound, .inr fun slot' => ?_⟩
    · rw [hspared]
      exact hregistry'
    · rw [World.declared?_congr hspared]
      exact hdeclares slot'

end Sections

end Vouch
