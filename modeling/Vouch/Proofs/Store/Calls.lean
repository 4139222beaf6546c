import Vouch.Proofs.Durable.Calls

/-!
# Sequences of calls

The calls that change a store, in any order and at any times.  However they are mixed, an address
has at most one active challenge, the one created for it last; the pointer of the address leads to
it, and the list of active challenges holds it once.
-/

namespace Vouch

/-- A call that changes a store.  A challenge may be issued for an outdated record of an address,
or for one that another store knows. -/
inductive StoreCall where
  | upsert (id : AddressId) (slot : Slot) (value : Contact) (now : Timestamp)
  | create (flow : FlowId) (snapshot : Address) (token code : String) (policy : Policy)
      (now : Timestamp)
  | complete (flow : FlowId) (now : Timestamp)
  | failAttempt (flow : FlowId) (now : Timestamp)
  | expire (flow : FlowId) (reason : ExpiredReason) (now : Timestamp)

/-- A store together with the challenges that were created in it so far. -/
structure StoreRun (σ : Type) where
  store : σ
  created : List Challenge

namespace StoreRun

variable {σ : Type}

/-- The challenges created for an address, in the order of their creation. -/
def createdFor (r : StoreRun σ) (id : AddressId) : List FlowId :=
  (r.created.filter fun c => c.address = id).map fun c => c.id

/-- The run after a change of its store; one that fails leaves the store as it was. -/
def change {α : Type} (r : StoreRun σ) (result : Except StoreError (α × σ))
    (created : List Challenge) : StoreRun σ :=
  match result with
  | .ok (_, store) => ⟨store, r.created ++ created⟩
  | .error _ => r

variable [VerificationStore σ]

def after (r : StoreRun σ) : StoreCall → StoreRun σ
  | .upsert id slot value now =>
    r.change (VerificationStore.upsert (.fresh id slot value now) r.store) []
  | .create flow snapshot token code policy now =>
    let c := Challenge.issue flow snapshot token code policy now
    r.change (VerificationStore.create c r.store) [c]
  | .complete flow now => r.change (VerificationStore.complete flow now r.store) []
  | .failAttempt flow now => r.change (VerificationStore.failAttempt flow now r.store) []
  | .expire flow reason now => r.change (VerificationStore.expire flow reason now r.store) []

def Stored (r : StoreRun σ) (c : Challenge) : Prop :=
  ∃ f, VerificationStore.challenge? f r.store = .ok (some c)

variable [Backend σ]

/-- What callers promise: the identifier of a new record is not that of another slot's, and the
texts of a challenge are no longer than a memory could hold. -/
def Admits (r : StoreRun σ) : StoreCall → Prop
  | .upsert id slot _ _ =>
    ∀ a, VerificationStore.address? id r.store = .ok (some a) → a.slot = slot
  | .create flow snapshot token code policy now =>
    Backend.Storable σ (.issue flow snapshot token code policy now)
  | _ => True

/-- The runs from an empty store. -/
inductive Possible : StoreRun σ → Prop where
  | empty : Possible ⟨Backend.empty, []⟩
  | call {r : StoreRun σ} {call : StoreCall} : Possible r → r.Admits call → Possible (r.after call)

/-- An address has at most one active challenge, and whatever asks for it finds it. -/
structure KeepsOneActive (r : StoreRun σ) : Prop where
  unique : ∀ {c d}, r.Stored c → r.Stored d → c.address = d.address → c.isActive = true →
    d.isActive = true → c = d
  newest : ∀ {c}, r.Stored c → c.isActive = true →
    (r.createdFor c.address).getLast? = some c.id
  pointed : ∀ id, ∃ current, VerificationStore.activeFor? id r.store = .ok current ∧
    ∀ c, current = some c ↔ r.Stored c ∧ c.address = id ∧ c.isActive = true
  listed : ∃ all, VerificationStore.active r.store = .ok all ∧ all.Nodup ∧
    ∀ c, c ∈ all ↔ r.Stored c ∧ c.isActive = true

/-- The store of a run shows histories of what was created. -/
structure Records (r : StoreRun σ) (m : MemoryStore) : Prop where
  shows : Backend.Shows r.store m
  created : ∀ id, m.flows id = r.createdFor id

omit [VerificationStore σ] [Backend σ] in
theorem createdFor_append (r : StoreRun σ) (store : σ) (more : List Challenge) (id : AddressId) :
    (StoreRun.mk store (r.created ++ more)).createdFor id =
      r.createdFor id ++ (more.filter fun c => c.address = id).map fun c => c.id := by
  rw [createdFor, createdFor, List.filter_append, List.map_append]

variable {r : StoreRun σ} {m : MemoryStore}

theorem Records.stored_iff (h : r.Records m) {c : Challenge} :
    r.Stored c ↔ m.challenges.get? c.id = some c := by
  simp only [Stored, Backend.challenge?_eq h.shows, Except.ok.injEq]
  constructor
  · rintro ⟨f, hf⟩
    rw [(Backend.intact h.shows).id_of_challenge hf]
    exact hf
  · intro hc
    exact ⟨c.id, hc⟩

/-! ## One call -/

-- A change that agrees with the store in memory and keeps the histories of what was created.
theorem Records.change (h : r.Records m) {α : Type} {result : Except StoreError (α × σ)}
    {result' : Except StoreError (α × MemoryStore)} {more : List Challenge}
    (hagree : Agree Backend.Shows result result')
    (hcreated : ∀ {out m'}, result' = .ok (out, m') → ∀ id,
      m'.flows id = m.flows id ++ (more.filter fun c => c.address = id).map fun c => c.id) :
    ∃ m', (r.change result more).Records m' := by
  cases hagree with
  | error e => exact ⟨m, h⟩
  | ok out hshows =>
    refine ⟨_, hshows, fun id => ?_⟩
    rw [StoreRun.change, createdFor_append, hcreated rfl, h.created]

-- An update of a challenge creates none.
theorem Records.update (h : r.Records m) {α : Type} {f : FlowId} {change : Attempt → α × Attempt}
    (hchange : ∀ p : Attempt, p.Amends (change p).2) {result : Except StoreError (α × σ)}
    (hagree : Agree Backend.Shows result (m.update f change)) :
    ∃ m', (r.change result []).Records m' := by
  refine h.change hagree fun he id => ?_
  rw [MemoryStore.flows_update (Backend.intact h.shows) hchange he id]
  exact (List.append_nil _).symm

-- An identifier in use is that of the slot's own address.
theorem unknown_of_admits (h : Backend.Shows r.store m) {candidate : Address}
    (hadmits : ∀ a, VerificationStore.address? candidate.id r.store = .ok (some a) →
      a.slot = candidate.slot)
    (hslot : m.slots.get? candidate.slot = none) : m.addresses.get? candidate.id = none := by
  cases ha : m.addresses.get? candidate.id with
  | none => rfl
  | some a =>
    have has := hadmits a (by rw [Backend.address?_eq h, ha])
    rw [(Backend.intact h).slot_iff.mpr ⟨a, ha, has⟩] at hslot
    cases hslot

-- A record is put into its slot.
theorem Records.upsert (h : r.Records m) {candidate : Address}
    (hadmits : ∀ a, VerificationStore.address? candidate.id r.store = .ok (some a) →
      a.slot = candidate.slot) :
    ∃ m', (r.change (VerificationStore.upsert candidate r.store) []).Records m' := by
  have hi := Backend.intact h.shows
  have hnew := unknown_of_admits h.shows hadmits
  rcases Backend.upsert_agrees h.shows hnew with hagree | hrefused
  · refine h.change hagree fun {out m'} he id' => ?_
    obtain ⟨out', m'', hup, hi', hupserts⟩ := MemoryStore.upsert_upserts hi hnew
    rw [hup] at he
    cases he
    rw [MemoryStore.flows_upserts hi hi' hupserts hnew]
    exact (List.append_nil _).symm
  · rw [hrefused]
    exact ⟨m, h⟩

-- An active challenge is added.
theorem Records.create (h : r.Records m) {c : Challenge} (hstorable : Backend.Storable σ c)
    (hact : c.isActive = true) :
    ∃ m', (r.change (VerificationStore.create c r.store) [c]).Records m' := by
  refine h.change (Backend.create_agrees h.shows hstorable hact) fun he id => ?_
  exact MemoryStore.flows_create (Backend.intact h.shows) hact he id

theorem Records.after (h : r.Records m) {call : StoreCall} (hadmits : r.Admits call) :
    ∃ m', (r.after call).Records m' := by
  cases call with
  | upsert id slot value now => exact Records.upsert h hadmits
  | create flow snapshot token code policy now => exact h.create hadmits rfl
  | complete flow now =>
    exact h.update (fun p => p.complete_amends now) (Backend.complete_agrees h.shows flow now)
  | failAttempt flow now =>
    exact h.update (fun p => p.fail_amends now) (Backend.failAttempt_agrees h.shows flow now)
  | expire flow reason now =>
    exact h.update (fun p => p.expire_amends now reason)
      (Backend.expire_agrees h.shows flow reason now)

/-! ## All runs -/

theorem Possible.records (h : r.Possible) : ∃ m, r.Records m := by
  induction h with
  | empty => exact ⟨.empty, Backend.shows_empty, fun _ => rfl⟩
  | call _ hadmits ih =>
    obtain ⟨m, hm⟩ := ih
    exact hm.after hadmits

theorem Records.keepsOneActive (h : r.Records m) : r.KeepsOneActive where
  unique hc hd haddr hca hda :=
    (Backend.intact h.shows).eq_of_active (h.stored_iff.mp hc) (h.stored_iff.mp hd) haddr hca hda
  newest {c} hc hact := by
    have hlast := (Backend.intact h.shows).getLast?_of_active (h.stored_iff.mp hc) hact
    rw [← h.created, MemoryStore.flows, List.getLast?_map, hlast]
    rfl
  pointed id := by
    refine ⟨_, Backend.activeFor?_eq h.shows id, fun c => ?_⟩
    rw [h.stored_iff, Option.bind_eq_some_iff]
    constructor
    · rintro ⟨f, hf, hc⟩
      obtain ⟨c', hc', haddr, hact⟩ := (Backend.intact h.shows).active_iff.mp hf
      rw [hc] at hc'
      cases hc'
      rw [(Backend.intact h.shows).id_of_challenge hc]
      exact ⟨hc, haddr, hact⟩
    · rintro ⟨hc, haddr, hact⟩
      exact ⟨c.id, (Backend.intact h.shows).active_iff.mpr ⟨c, hc, haddr, hact⟩, hc⟩
  listed := by
    obtain ⟨all, hall, hnodup, hmem⟩ := Backend.active_eq h.shows
    refine ⟨all, hall, hnodup, fun c => ?_⟩
    rw [hmem, h.stored_iff]

/-- In memory and on disk, whatever calls were made: an address has at most one active challenge,
which is the newest, and it is found by its address and in the list of all. -/
theorem keepsOneActive_of_possible :
    (∀ r : StoreRun MemoryStore, r.Possible → r.KeepsOneActive) ∧
      ∀ r : StoreRun Durable.Ledger, r.Possible → r.KeepsOneActive := by
  constructor
  · intro r h
    obtain ⟨m, hm⟩ := h.records
    exact hm.keepsOneActive
  · intro r h
    obtain ⟨m, hm⟩ := h.records
    exact hm.keepsOneActive

-- A challenge for a record that no store holds.
def outdatedChallenge (flow : FlowId) (now : Timestamp) : StoreCall :=
  .create flow (.fresh ⟨List.replicate 16 1, rfl⟩ ⟨⟨"ann"⟩, .email⟩ ⟨"ann@old"⟩ ⟨5⟩) "token" "code"
    ⟨60, 60, some 3⟩ now

/-- A run in which an address is entered, and challenged twice for an outdated record of it. -/
def challengedTwice (σ : Type) [VerificationStore σ] [Backend σ] : StoreRun σ :=
  let start : StoreRun σ := ⟨Backend.empty, []⟩
  let entered := start.after
    (.upsert ⟨List.replicate 16 1, rfl⟩ ⟨⟨"ann"⟩, .email⟩ ⟨"ann@new"⟩ ⟨7⟩)
  (entered.after (outdatedChallenge ⟨List.replicate 16 2, rfl⟩ ⟨8⟩)).after
    (outdatedChallenge ⟨List.replicate 16 3, rfl⟩ ⟨9⟩)

theorem challengedTwice_possible
    (h : ∀ (r : StoreRun σ) flow now, r.Admits (outdatedChallenge flow now)) :
    (challengedTwice σ).Possible := by
  refine .call (.call (.call .empty ?_) (h _ _ _)) (h _ _ _)
  intro a ha
  rw [Backend.address?_eq Backend.shows_empty] at ha
  cases ha

theorem outdatedChallenge_admitted (r : StoreRun Durable.Ledger) (flow : FlowId)
    (now : Timestamp) : r.Admits (outdatedChallenge flow now) := by
  have hfits : ∀ s ∈ ["ann", "ann@old", "token", "code"], TextFits s := by
    unfold TextFits
    decide
  exact ⟨hfits "ann" (by simp), hfits "ann@old" (by simp), hfits "token" (by simp),
    hfits "code" (by simp)⟩

theorem challengedTwice_keepsOneActive :
    (challengedTwice MemoryStore).KeepsOneActive ∧
      (challengedTwice Durable.Ledger).KeepsOneActive :=
  ⟨keepsOneActive_of_possible.1 _ (challengedTwice_possible fun _ _ _ => trivial),
    keepsOneActive_of_possible.2 _ (challengedTwice_possible outdatedChallenge_admitted)⟩

end StoreRun

end Vouch
