import Vouch.Proofs.Engine.Course
import Vouch.Proofs.Store.Identities

/-!
# Slices of a world

What is stored of one identity, and what it is for an operation to depend on that slice only and to
leave all others as they are.  The relation speaks of two worlds at a time: one operation is
performed in both, and whatever they have in common about the identity they have in common
afterwards.
-/

namespace Vouch

/-- What a slot holds: an address, its challenges in the order of issue, and the one that it points
at. -/
structure Holding where
  record : Address
  history : List Challenge
  active : Option Challenge

/-- What is stored of an identity. -/
structure Slice where
  identity : Except StoreError (Option Identity)
  holding : Channel → Except StoreError (Option Holding)

/-- A slice, with accounts for what the slots hold. -/
structure Profile where
  identity : Except StoreError (Option Identity)
  account : Channel → Option Account

def Account.holding (acc : Account) : Holding :=
  ⟨acc.record, acc.history, acc.history.find? fun c => c.isActive⟩

theorem Account.holding_injective : Function.Injective Account.holding := by
  rintro ⟨record, history⟩ ⟨record', history'⟩ h
  rw [Account.mk.injEq]
  exact ⟨congrArg Holding.record h, congrArg Holding.history h⟩

def Profile.slice (p : Profile) : Slice :=
  ⟨p.identity, fun channel => .ok ((p.account channel).map Account.holding)⟩

theorem Profile.slice_injective : Function.Injective Profile.slice := by
  rintro ⟨identity, account⟩ ⟨identity', account'⟩ h
  rw [Profile.mk.injEq]
  refine ⟨congrArg Slice.identity h, funext fun channel => ?_⟩
  have hholding := congrFun (congrArg Slice.holding h) channel
  exact Option.map_injective Account.holding_injective (Except.ok.inj hholding)

variable {σ ι τ α β : Type}

namespace World

section Reading

variable [VerificationStore σ]

/-- What the store has in a slot. -/
def holding (slot : Slot) (w : World σ ι τ) : Except StoreError (Option Holding) := do
  match ← VerificationStore.addressIn? slot w.store with
  | none => return none
  | some a =>
    let history ← VerificationStore.history a.id w.store
    return some ⟨a, history, ← VerificationStore.activeFor? a.id w.store⟩

/-- The slice of an identity. -/
def slice [IdentityStore ι] (owner : IdentityId) (w : World σ ι τ) : Slice :=
  ⟨IdentityStore.identity? owner w.identities, fun channel => w.holding ⟨owner, channel⟩⟩

end Reading

/-- What a world and a store in memory know of an identity. -/
def profile [IdentityStore ι] (w : World σ ι τ) (m : MemoryStore) (owner : IdentityId) : Profile :=
  ⟨IdentityStore.identity? owner w.identities, fun channel => m.accountIn? ⟨owner, channel⟩⟩

variable [VerificationStore σ] [Backend σ] {w : World σ ι τ} {m : MemoryStore}

theorem holding_eq (h : Backend.Shows w.store m) (hroomy : Backend.Roomy w.store) (slot : Slot) :
    w.holding slot = .ok ((m.accountIn? slot).map Account.holding) := by
  have hi := Backend.intact h
  rw [holding, Backend.addressIn?_eq h]
  cases hfound : m.accountIn? slot with
  | none =>
    rw [(MemoryStore.accountIn?_eq_none_iff hi).mp hfound]
    rfl
  | some acc =>
    obtain ⟨hacc, hslot⟩ := (MemoryStore.accountIn?_eq_some_iff hi).mp hfound
    have hget := MemoryStore.get?_of_account? hacc
    have hid : m.slots.get? slot = some acc.record.id := hi.slot_iff.mpr ⟨_, hget, hslot⟩
    rw [hid, Option.bind_some, hget]
    show (VerificationStore.history acc.record.id w.store >>= fun history =>
      VerificationStore.activeFor? acc.record.id w.store >>= fun active =>
        pure (some (Holding.mk acc.record history active)) : Except StoreError _) = _
    rw [Backend.history_eq h _ hroomy, Backend.activeFor?_eq h,
      MemoryStore.history_of_account? hacc, MemoryStore.pointed_eq_find? hi hacc]
    rfl

theorem slice_eq [IdentityStore ι] (h : Backend.Shows w.store m)
    (hroomy : Backend.Roomy w.store) (owner : IdentityId) :
    w.slice owner = (w.profile m owner).slice := by
  rw [slice, profile, Profile.slice, Slice.mk.injEq]
  exact ⟨rfl, funext fun channel => holding_eq h hroomy _⟩

variable [IdentityStore ι] {w' w₁ w₂ : World σ ι τ} {m' m₁ m₂ : MemoryStore} {owner : IdentityId}

/-- Two worlds that know the same of an identity, and have the same time, bytes and transport. -/
structure Twins (owner : IdentityId) (w : World σ ι τ) (m : MemoryStore) (w' : World σ ι τ)
    (m' : MemoryStore) : Prop where
  shows : Backend.Shows w.store m
  shows' : Backend.Shows w'.store m'
  profile : w.profile m owner = w'.profile m' owner
  now : w.now = w'.now
  mailer : w.mailer = w'.mailer
  entropy : w.entropy = w'.entropy

omit [VerificationStore σ] [Backend σ] in
/-- What is known of all other identities is what it was. -/
def Spares (owner : IdentityId) (w : World σ ι τ) (m : MemoryStore) (w₁ : World σ ι τ)
    (m₁ : MemoryStore) : Prop :=
  ∀ other, other ≠ owner → w₁.profile m₁ other = w.profile m other

omit [VerificationStore σ] [Backend σ] in
theorem Spares.refl (owner : IdentityId) (w : World σ ι τ) (m : MemoryStore) :
    w.Spares owner m w m :=
  fun _ _ => rfl

omit [VerificationStore σ] [Backend σ] in
theorem Spares.trans (h : w.Spares owner m w₁ m₁) (h' : w₁.Spares owner m₁ w₂ m₂) :
    w.Spares owner m w₂ m₂ :=
  fun other hother => (h' other hother).trans (h other hother)

omit [VerificationStore σ] [Backend σ] in
-- To fill a slot of the identity changes nothing about the others.
theorem spares_of_fills {slot : Slot} {acc : Account} (hslot : slot.identity = owner)
    (hfills : m.Fills slot acc m₁) (hidentities : w₁.identities = w.identities) :
    w.Spares owner m w₁ m₁ := by
  intro other hother
  rw [profile, profile, Profile.mk.injEq, hidentities]
  refine ⟨rfl, funext fun channel => ?_⟩
  rw [hfills, if_neg]
  rintro rfl
  exact hother hslot

namespace Twins

theorem identity (h : w.Twins owner m w' m') :
    IdentityStore.identity? owner w.identities = IdentityStore.identity? owner w'.identities :=
  congrArg Profile.identity h.profile

theorem account (h : w.Twins owner m w' m') {slot : Slot} (hslot : slot.identity = owner) :
    m.accountIn? slot = m'.accountIn? slot := by
  obtain ⟨owner, channel⟩ := slot
  cases hslot
  exact congrFun (congrArg Profile.account h.profile) channel

theorem symm (h : w.Twins owner m w' m') : w'.Twins owner m' w m :=
  ⟨h.shows', h.shows, h.profile.symm, h.now.symm, h.mailer.symm, h.entropy.symm⟩

-- The same account for a slot of the identity, in stores that know the rest as before.
theorem fill (h : w.Twins owner m w' m') {slot : Slot} {acc : Account} {s s' : σ} {mailer : τ}
    {entropy : Entropy} (hshows : Backend.Shows s m₁)
    (hshows' : Backend.Shows s' m₂) (hfills : m.Fills slot acc m₁)
    (hfills' : m'.Fills slot acc m₂) :
    Twins owner { w with store := s, mailer, entropy } m₁
      { w' with store := s', mailer, now := w.now, entropy } m₂ := by
  refine ⟨hshows, hshows', ?_, rfl, rfl, rfl⟩
  rw [World.profile, World.profile, Profile.mk.injEq]
  refine ⟨h.identity, funext fun channel => ?_⟩
  have hsame : m.accountIn? ⟨owner, channel⟩ = m'.accountIn? ⟨owner, channel⟩ := h.account rfl
  rw [hfills, hfills', hsame]

end Twins

end World

/-! ## The same in both worlds -/

open Vouch.Action

variable [VerificationStore σ] [IdentityStore ι] [Backend σ] {w w' w₁ w₁' : World σ ι τ}
  {m m' m₁ m₁' : MemoryStore} {owner : IdentityId}

/-- Something is done in two worlds.  It is answered the same, they still know the same of the
identity, and of all others they know what they did. -/
structure Parallel (owner : IdentityId) (w : World σ ι τ) (m : MemoryStore) (w' : World σ ι τ)
    (m' : MemoryStore) (run : World σ ι τ → α × World σ ι τ) : Prop where
  answer : (run w).1 = (run w').1
  worlds : ∃ m₁ m₁', (run w).2.Twins owner m₁ (run w').2 m₁' ∧
    w.Spares owner m (run w).2 m₁ ∧ w'.Spares owner m' (run w').2 m₁'

namespace Parallel

theorem map {run : World σ ι τ → α × World σ ι τ} (h : Parallel owner w m w' m' run)
    (f : α → β) : Parallel owner w m w' m' fun w => (run w).map f id :=
  ⟨congrArg f h.answer, h.worlds⟩

-- What both worlds answer at once.
theorem unchanged {run : World σ ι τ → α × World σ ι τ} (h : w.Twins owner m w' m') {a : α}
    (hrun : run w = (a, w)) (hrun' : run w' = (a, w')) : Parallel owner w m w' m' run := by
  constructor
  · rw [hrun, hrun']
  · rw [hrun, hrun']
    exact ⟨m, m', h, .refl owner w m, .refl owner w' m'⟩

-- What comes to the same as something else in later worlds, which spare the others too.
theorem of_later {run run₁ : World σ ι τ → α × World σ ι τ}
    (h : Parallel owner w₁ m₁ w₁' m₁' run₁) (hrun : run w = run₁ w₁) (hrun' : run w' = run₁ w₁')
    (hspares : w.Spares owner m w₁ m₁) (hspares' : w'.Spares owner m' w₁' m₁') :
    Parallel owner w m w' m' run := by
  obtain ⟨hanswer, m₂, m₂', htwins, h₂, h₂'⟩ := h
  constructor
  · rw [hrun, hrun', hanswer]
  · rw [hrun, hrun']
    exact ⟨m₂, m₂', htwins, hspares.trans h₂, hspares'.trans h₂'⟩

theorem bind {x : Action σ ι τ α} {f : α → Action σ ι τ β}
    (h : Parallel owner w m w' m' x.perform)
    (hf : ∀ {a w₁ m₁ w₁' m₁'}, x w = .ok a w₁ → x w' = .ok a w₁' → w₁.Twins owner m₁ w₁' m₁' →
      Parallel owner w₁ m₁ w₁' m₁' (f a).perform) :
    Parallel owner w m w' m' (x >>= f).perform := by
  obtain ⟨hanswer, m₁, m₁', htwins, hspares, hspares'⟩ := h
  cases hx : x w with
  | ok a w₁ =>
    rw [perform_of_ok hx] at hanswer htwins hspares
    have hx' : x w' = .ok a (x.perform w').2 := of_perform_ok (Prod.ext hanswer.symm rfl)
    exact (hf hx hx' htwins).of_later (perform_congr (bind_of_ok hx))
      (perform_congr (bind_of_ok hx')) hspares hspares'
  | error error w₁ =>
    rw [perform_of_error hx] at hanswer htwins hspares
    have hx' : x w' = .error error (x.perform w').2 :=
      of_perform_error (Prod.ext hanswer.symm rfl)
    constructor
    · rw [perform_of_error (bind_of_error hx), perform_of_error (bind_of_error hx')]
    · rw [perform_of_error (bind_of_error hx), perform_of_error (bind_of_error hx')]
      exact ⟨m₁, m₁', htwins, hspares, hspares'⟩

end Parallel

end Vouch
