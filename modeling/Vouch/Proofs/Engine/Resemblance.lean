import Vouch.Proofs.Engine.Blur
import Vouch.Proofs.Engine.Request
import Vouch.Proofs.Store.Steady

/-!
# Stores that resemble each other

Two stores resemble each other at a time if they differ in nothing but how challenges have lapsed
by then.  They do so ever after, and every call that the engine makes on both leaves stores that
resemble each other.
-/

namespace Vouch

theorem Address.sameBinding_of_blur {a b : Address} (h : a.blur = b.blur) : a.SameBinding b := by
  have ha := a.sameBinding_blur
  rw [h] at ha
  exact Address.SameBinding.trans ha (Address.SameBinding.symm b.sameBinding_blur)

namespace MemoryStore

/-- The stores differ in nothing but how challenges have lapsed. -/
def Resembles (now : Timestamp) (m m' : MemoryStore) : Prop :=
  ∀ id, (m.account? id).map (Account.blur now) = (m'.account? id).map (Account.blur now)

namespace Resembles

variable {now later : Timestamp} {m m' m'' n n' : MemoryStore} {id : AddressId}
  {acc acc' : Account} {flow : FlowId} {c : Challenge}

theorem refl (now : Timestamp) (m : MemoryStore) : m.Resembles now m := fun _ => rfl

theorem symm (h : m.Resembles now m') : m'.Resembles now m := fun id => (h id).symm

theorem trans (h : m.Resembles now m') (h' : m'.Resembles now m'') : m.Resembles now m'' :=
  fun id => (h id).trans (h' id)

theorem mono (h : m.Resembles now m') (hle : now.secs ≤ later.secs) : m.Resembles later m' := by
  intro id
  have hid := congrArg (Option.map (Account.blur later)) (h id)
  simpa only [Option.map_map, Function.comp_def, Account.blur_later hle] using hid

theorem account (h : m.Resembles now m') (hacc : m.account? id = some acc) :
    ∃ acc', m'.account? id = some acc' ∧ acc.blur now = acc'.blur now := by
  have hid := h id
  rw [hacc, Option.map_some] at hid
  obtain ⟨acc', hacc', hblur⟩ := Option.map_eq_some_iff.mp hid.symm
  exact ⟨acc', hacc', hblur.symm⟩

theorem account_none (h : m.Resembles now m') (hacc : m.account? id = none) :
    m'.account? id = none := by
  have hid := h id
  rw [hacc, Option.map_none] at hid
  exact Option.map_eq_none_iff.mp hid.symm

theorem blur_eq (h : m.Resembles now m') (hacc : m.account? id = some acc)
    (hacc' : m'.account? id = some acc') : acc.blur now = acc'.blur now := by
  obtain ⟨acc'', hfound, hblur⟩ := h.account hacc
  rw [hacc'] at hfound
  cases hfound
  exact hblur

-- What is written to both of them is all that has to be looked at.
theorem sets (h : m.Resembles now m') (hsets : m.Sets id acc n) (hsets' : m'.Sets id acc' n')
    (hblur : acc.blur now = acc'.blur now) : n.Resembles now n' := by
  intro j
  rw [hsets j, hsets' j]
  split
  · exact congrArg some hblur
  · exact h j

-- A store that is written to still resembles what it was, if the account does.
theorem sets_self (hacc : m.account? id = some acc) (hsets : m.Sets id acc' n)
    (hblur : acc'.blur now = acc.blur now) : n.Resembles now m :=
  (refl now m).sets hsets (MemoryStore.sets_self hacc) hblur

theorem record (h : m.Resembles now m') {a : Address} (ha : m.addresses.get? id = some a) :
    ∃ a', m'.addresses.get? id = some a' ∧ a.blur = a'.blur := by
  obtain ⟨acc', hacc', hblur⟩ := h.account (account?_of_get? ha)
  exact ⟨acc'.record, get?_of_account? hacc', congrArg Account.record hblur⟩

theorem sameBindings (h : m.Resembles now m') : m.SameBindings m' := by
  intro id
  cases ha : m.addresses.get? id with
  | none =>
    rw [account?_eq_none_iff.mp (h.account_none (account?_eq_none_iff.mpr ha))]
    exact .none
  | some a =>
    obtain ⟨a', ha', hblur⟩ := h.record ha
    rw [ha']
    exact .some (Address.sameBinding_of_blur hblur)

-- A challenge that one of them knows, the other knows too.
theorem finds (h : m.Resembles now m') (hi : m.Intact) (hi' : m'.Intact)
    (hf : Engine.Finds m flow c acc) :
    ∃ c' acc', Engine.Finds m' flow c' acc' ∧ c.blur now = c'.blur now ∧
      acc.blur now = acc'.blur now := by
  obtain ⟨acc', hacc', hblur⟩ := h.account hf.account
  obtain ⟨c', hc', hcc'⟩ := Account.exists_of_blur_eq hblur (hf.mem hi)
  have hid : c'.id = c.id := by rw [← c'.id_blur now, hcc', c.id_blur]
  rw [← history_of_account? hacc'] at hc'
  obtain ⟨hget, haddress⟩ := hi'.mem_history.mp hc'
  rw [hid, hi.id_of_challenge hf.challenge] at hget
  exact ⟨c', acc', ⟨hget, by rw [haddress]; exact hacc'⟩, hcc'.symm, hblur⟩

theorem unknown (h : m.Resembles now m') (hi : m.Intact) (hi' : m'.Intact)
    (hf : m.challenges.get? flow = none) : m'.challenges.get? flow = none := by
  cases hc : m'.challenges.get? flow with
  | none => rfl
  | some c' =>
    obtain ⟨acc', hf'⟩ := Engine.Finds.of_intact hi' hc
    obtain ⟨c, acc, hc, -⟩ := h.symm.finds hi' hi hf'
    rw [hc.challenge] at hf
    cases hf

theorem slot (h : m.Resembles now m') (hi : m.Intact) (hi' : m'.Intact) {slot : Slot}
    (hslot : m.slots.get? slot = some id) : m'.slots.get? slot = some id := by
  obtain ⟨a, ha, rfl⟩ := hi.slot_iff.mp hslot
  obtain ⟨a', ha', hblur⟩ := h.record ha
  exact hi'.slot_iff.mpr ⟨a', ha', (Address.sameBinding_of_blur hblur).slot⟩

theorem slot_none (h : m.Resembles now m') (hi : m.Intact) (hi' : m'.Intact) {slot : Slot}
    (hslot : m.slots.get? slot = none) : m'.slots.get? slot = none := by
  cases hs : m'.slots.get? slot with
  | none => rfl
  | some id =>
    rw [h.symm.slot hi' hi hs] at hslot
    cases hslot

end Resembles

/-! ## Putting a record into its slot -/

/-- What putting a record into its slot comes to on both sides: two stores that resemble each
other, and the records that they hold there. -/
structure UpsertsAlike (now : Timestamp) (out out' : Upserted) (m m' : MemoryStore) : Prop where
  stores : m.Resembles now m'
  stored : m.addresses.get? out.address.id = some out.address
  stored' : m'.addresses.get? out.address.id = some out'.address

namespace Resembles

variable {now : Timestamp} {m m' : MemoryStore} {a : Address}

theorem upsert (h : m.Resembles now m') (hi : m.Intact) (hi' : m'.Intact)
    (hnew : m.slots.get? a.slot = none → m.addresses.get? a.id = none) :
    ∃ out out' m₁ m₁', m.upsert a = .ok (out, m₁) ∧ m'.upsert a = .ok (out', m₁') ∧
      UpsertsAlike now out out' m₁ m₁' := by
  cases hslot : m.slots.get? a.slot with
  | none =>
    have hnew' := account?_eq_none_iff.mp
      (h.account_none (account?_eq_none_iff.mpr (hnew hslot)))
    obtain ⟨m₁, hup, -, hsets⟩ := upsert_empty_slot hi hslot (hnew hslot)
    obtain ⟨m₁', hup', -, hsets'⟩ := upsert_empty_slot hi' (h.slot_none hi hi' hslot) hnew'
    exact ⟨_, _, m₁, m₁', hup, hup', h.sets hsets hsets' rfl,
      get?_of_account? hsets.get?, get?_of_account? hsets'.get?⟩
  | some id =>
    obtain ⟨b, hb, hbs⟩ := hi.slot_iff.mp hslot
    have hacc := account?_of_get? hb
    obtain ⟨acc', hacc', hblur⟩ := h.account hacc
    have hbind : b.SameBinding acc'.record :=
      Address.sameBinding_of_blur (congrArg Account.record hblur)
    have hslot' : acc'.record.slot = a.slot := hbind.slot.trans hbs
    have hid := hi.id_of_address hb
    by_cases hvalue : b.value = a.value
    · have hup := upsert_same_value hi hacc hbs hvalue
      have hup' := upsert_same_value hi' hacc' hslot' (hbind.value.trans hvalue)
      refine ⟨_, _, m, m', hup, hup', h, ?_, ?_⟩
      · show m.addresses.get? b.id = some b
        rw [hid, hb]
      · show m'.addresses.get? b.id = some acc'.record
        rw [hid, get?_of_account? hacc']
    · have hvalue' : acc'.record.value ≠ a.value := by
        rw [hbind.value]
        exact hvalue
      obtain ⟨expired, m₁, hup, -, hsets⟩ := upsert_other_value hi hacc hbs hvalue
      obtain ⟨expired', m₁', hup', -, hsets'⟩ := upsert_other_value hi' hacc' hslot' hvalue'
      refine ⟨_, _, m₁, m₁', hup, hup', h.sets hsets hsets' ?_, ?_, ?_⟩
      · rw [← Account.blur_rebind, hblur, Account.blur_rebind]
      · show m₁.addresses.get? b.id = _
        rw [hid]
        exact get?_of_account? hsets.get?
      · show m₁'.addresses.get? b.id = _
        rw [hid]
        exact get?_of_account? hsets'.get?

end Resembles

end MemoryStore

/-! ## Calls of a backend -/

namespace Backend

variable {σ : Type} [VerificationStore σ] [Backend σ] {now : Timestamp} {s s' : σ}
  {m m' : MemoryStore}

theorem upsert_resembles [SteadyBackend σ] (h : Shows s m) (h' : Shows s' m')
    (hm : m.Resembles now m') {a : Address} (hnew : m.addresses.get? a.id = none) :
    (VerificationStore.upsert a s = .error .badKeySize ∧
      VerificationStore.upsert a s' = .error .badKeySize) ∨
    ∃ out out' s₁ s₁' m₁ m₁', VerificationStore.upsert a s = .ok (out, s₁) ∧
      VerificationStore.upsert a s' = .ok (out', s₁') ∧ Shows s₁ m₁ ∧ Shows s₁' m₁' ∧
      MemoryStore.UpsertsAlike now out out' m₁ m₁' := by
  have hunknown := hm.account_none (MemoryStore.account?_eq_none_iff.mpr hnew)
  have hnew' : m'.addresses.get? a.id = none := MemoryStore.account?_eq_none_iff.mp hunknown
  rcases upsert_agrees h (a := a) (fun _ => hnew) with hagree | hrefused
  · rcases upsert_agrees h' (a := a) (fun _ => hnew') with hagree' | hrefused'
    · obtain ⟨out, out', m₁, m₁', hup, hup', halike⟩ :=
        hm.upsert (intact h) (intact h') (a := a) (fun _ => hnew)
      rw [hup] at hagree
      rw [hup'] at hagree'
      generalize VerificationStore.upsert a s = result at hagree
      generalize VerificationStore.upsert a s' = result' at hagree'
      cases hagree with
      | ok _ hshows =>
        cases hagree' with
        | ok _ hshows' => exact .inr ⟨_, _, _, _, _, _, rfl, rfl, hshows, hshows', halike⟩
    · exact .inl ⟨SteadyBackend.upsert_refused h' h (fun _ => hnew') hrefused', hrefused'⟩
  · exact .inl ⟨hrefused, SteadyBackend.upsert_refused h h' (fun _ => hnew) hrefused⟩

-- A challenge that is known already is refused on both sides.
theorem create_resembles (h : Shows s m) (h' : Shows s' m') (hm : m.Resembles now m')
    {c : Challenge} (hstorable : Storable σ c) (hact : c.isActive = true) {acc : Account}
    (hacc : m.account? c.address = some acc) :
    (∃ e, VerificationStore.create c s = .error e ∧ VerificationStore.create c s' = .error e) ∨
    ∃ out out' s₁ s₁' m₁ m₁', VerificationStore.create c s = .ok (out, s₁) ∧
      VerificationStore.create c s' = .ok (out', s₁') ∧ Shows s₁ m₁ ∧ Shows s₁' m₁' ∧
      m₁.Resembles now m₁' := by
  cases hc : m.challenges.get? c.id with
  | none =>
    obtain ⟨acc', hacc', hblur⟩ := hm.account hacc
    have hc' := hm.unknown (intact h) (intact h') hc
    obtain ⟨out, s₁, m₁, hcreate, hshows, hsets⟩ := create_new h hstorable hact hc hacc
    obtain ⟨out', s₁', m₁', hcreate', hshows', hsets'⟩ := create_new h' hstorable hact hc' hacc'
    refine .inr ⟨out, out', s₁, s₁', m₁, m₁', hcreate, hcreate', hshows, hshows',
      hm.sets hsets hsets' ?_⟩
    rw [← Account.blur_add, hblur, Account.blur_add]
  | some d =>
    obtain ⟨acc₁, hf⟩ := Engine.Finds.of_intact (intact h) hc
    obtain ⟨d', acc', hf', -⟩ := hm.finds (intact h) (intact h') hf
    exact .inl ⟨_, create_of_known h hstorable hact hc,
      create_of_known h' hstorable hact hf'.challenge⟩

-- To end a challenge whose time is over leaves a store that resembles what it was.
theorem expire_resembles (h : Shows s m) {flow : FlowId} {c : Challenge} {acc : Account}
    (hf : Engine.Finds m flow c acc) (hlive : c.isLive now = false) :
    ∃ d s₁ m₁, VerificationStore.expire flow .elapsed now s = .ok (d, s₁) ∧ Shows s₁ m₁ ∧
      m₁.Resembles now m := by
  obtain ⟨s₁, m₁, hexpire, hshows, hsets⟩ :=
    expire_known h hf.challenge hf.account .elapsed now
  refine ⟨_, s₁, m₁, hexpire, hshows, .sets_self hf.account hsets ?_⟩
  have hsame : Attempt.blur now (Attempt.expire ⟨c, acc.record⟩ .elapsed now) =
    Attempt.blur now ⟨c, acc.record⟩ := Attempt.blur_expire_of_not_live hlive
  rw [Account.blur_amend, hsame, ← Account.blur_amend, hf.amend_self (intact h)]

end Backend

end Vouch
