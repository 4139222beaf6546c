import Mathlib.Data.List.Forall2
import Vouch.Proofs.Durable.Calls
import Vouch.Proofs.Durable.Outbox

/-!
# Both kinds of store answer alike

Whatever is asked of a store in memory and its outbox, and of a ledger and a message file, both
give the same answer or fail with the same error.  Only the addresses that share a value and the
active challenges come in an order that is each store's own.
-/

namespace Vouch

open Durable

/-- A store of addresses and challenges, together with an outbox. -/
structure Depot (σ μ : Type) where
  store : σ
  outbox : μ

namespace Depot

/-- A call of one of the two. -/
inductive Call where
  | upsert (id : AddressId) (slot : Slot) (value : Contact) (now : Timestamp)
  | create (challenge : Challenge)
  | complete (flow : FlowId) (now : Timestamp)
  | failAttempt (flow : FlowId) (now : Timestamp)
  | expire (flow : FlowId) (reason : ExpiredReason) (now : Timestamp)
  | address? (id : AddressId)
  | addressIn? (slot : Slot)
  | addressesOf (identity : IdentityId)
  | addressesWith (channel : Channel) (value : Contact)
  | challenge? (flow : FlowId)
  | activeFor? (address : AddressId)
  | history (address : AddressId)
  | active
  | enqueue (mail : Mail) (now : Timestamp)
  | messages (status : Option MessageStatus)
  | markSent (id : UInt64)

/-- What a call answers that does not fail. -/
inductive Reply where
  | upserted (out : Upserted)
  | superseded (challenge : Option Challenge)
  | completion (out : Completion)
  | counted (out : FailedAttempt)
  | ended (challenge : Challenge)
  | address (found : Option Address)
  | addresses (listed : List Address)
  -- The addresses bound to a value; what order they are in is not promised.
  | sharing (listed : List Address)
  | challenge (found : Option Challenge)
  | challenges (listed : List Challenge)
  -- All active challenges; what order they are in is not promised.
  | active (listed : List Challenge)
  | queued (message : QueuedMessage)
  | messages (listed : List QueuedMessage)
  | marked

/-- The same answer, the order of a list apart that has none, or the same error. -/
inductive Alike : Except StoreError Reply → Except StoreError Reply → Prop where
  | same (reply : Except StoreError Reply) : Alike reply reply
  | sharing {l l' : List Address} : l.Perm l' → Alike (.ok (.sharing l)) (.ok (.sharing l'))
  | active {l l' : List Challenge} : l.Perm l' → Alike (.ok (.active l)) (.ok (.active l'))

variable {σ μ α : Type}

/-- A change of the store; one that fails leaves it as it was. -/
def change (d : Depot σ μ) (reply : α → Reply) (call : σ → Except StoreError (α × σ)) :
    Except StoreError Reply × Depot σ μ :=
  match call d.store with
  | .ok (a, store) => (.ok (reply a), { d with store })
  | .error e => (.error e, d)

/-- A change of the outbox; one that fails leaves it as it was. -/
def changeOutbox (d : Depot σ μ) (reply : α → Reply) (call : μ → Except StoreError (α × μ)) :
    Except StoreError Reply × Depot σ μ :=
  match call d.outbox with
  | .ok (a, outbox) => (.ok (reply a), { d with outbox })
  | .error e => (.error e, d)

theorem change_of_ok {d : Depot σ μ} {call : σ → Except StoreError (α × σ)} {a : α} {s : σ}
    (h : call d.store = .ok (a, s)) (reply : α → Reply) :
    d.change reply call = (.ok (reply a), { d with store := s }) := by
  simp only [change, h]

theorem change_of_error {d : Depot σ μ} {call : σ → Except StoreError (α × σ)} {e : StoreError}
    (h : call d.store = .error e) (reply : α → Reply) : d.change reply call = (.error e, d) := by
  simp only [change, h]

theorem changeOutbox_of_ok {d : Depot σ μ} {call : μ → Except StoreError (α × μ)} {a : α} {s : μ}
    (h : call d.outbox = .ok (a, s)) (reply : α → Reply) :
    d.changeOutbox reply call = (.ok (reply a), { d with outbox := s }) := by
  simp only [changeOutbox, h]

theorem changeOutbox_of_error {d : Depot σ μ} {call : μ → Except StoreError (α × μ)}
    {e : StoreError} (h : call d.outbox = .error e) (reply : α → Reply) :
    d.changeOutbox reply call = (.error e, d) := by
  simp only [changeOutbox, h]

/-- A question changes nothing. -/
def ask (d : Depot σ μ) (reply : α → Reply) (found : Except StoreError α) :
    Except StoreError Reply × Depot σ μ :=
  (found.map reply, d)

variable [VerificationStore σ]

/-- What callers promise.  The identifier of a new record is not that of another slot's, its
identity and its value are short enough to be written as keys, and challenges are created active.
Texts are no longer than a memory could hold. -/
def Admits (d : Depot σ μ) : Call → Prop
  | .upsert id slot value now =>
    (∀ a, VerificationStore.address? id d.store = .ok (some a) → a.slot = slot) ∧
      (Address.fresh id slot value now).KeysFit
  | .create challenge => challenge.isActive = true ∧ challenge.TextsFit
  | .enqueue mail _ => mail.TextsFit
  | _ => True

variable [MessageStore μ]

def serve (d : Depot σ μ) : Call → Except StoreError Reply × Depot σ μ
  | .upsert id slot value now =>
    d.change .upserted (VerificationStore.upsert (.fresh id slot value now))
  | .create challenge => d.change .superseded (VerificationStore.create challenge)
  | .complete flow now => d.change .completion (VerificationStore.complete flow now)
  | .failAttempt flow now => d.change .counted (VerificationStore.failAttempt flow now)
  | .expire flow reason now => d.change .ended (VerificationStore.expire flow reason now)
  | .address? id => d.ask .address (VerificationStore.address? id d.store)
  | .addressIn? slot => d.ask .address (VerificationStore.addressIn? slot d.store)
  | .addressesOf identity => d.ask .addresses (VerificationStore.addressesOf identity d.store)
  | .addressesWith channel value =>
    d.ask .sharing (VerificationStore.addressesWith channel value d.store)
  | .challenge? flow => d.ask .challenge (VerificationStore.challenge? flow d.store)
  | .activeFor? address => d.ask .challenge (VerificationStore.activeFor? address d.store)
  | .history address => d.ask .challenges (VerificationStore.history address d.store)
  | .active => d.ask .active (VerificationStore.active d.store)
  | .enqueue mail now => d.changeOutbox .queued (MessageStore.enqueue mail now)
  | .messages status => d.ask .messages (MessageStore.messages status d.outbox)
  | .markSent id =>
    d.changeOutbox (fun () => .marked) fun outbox =>
      (MessageStore.markSent id outbox).map fun outbox => ((), outbox)

/-- The answers to calls made one after another. -/
def replies (d : Depot σ μ) : List Call → List (Except StoreError Reply)
  | [] => []
  | call :: calls => (d.serve call).1 :: (d.serve call).2.replies calls

/-- Each call is admitted when it is its turn. -/
def AdmitsAll (d : Depot σ μ) : List Call → Prop
  | [] => True
  | call :: calls => d.Admits call ∧ (d.serve call).2.AdmitsAll calls

/-! ## The relation -/

/-- A ledger mirrors a store in memory, and a message file an outbox in memory. -/
structure Mirrors (d : Depot Ledger MessageFile) (m : Depot MemoryStore MemoryOutbox) : Prop where
  store : d.store.Mirrors m.store
  outbox : d.outbox.Mirrors m.outbox

/-- There are numbers left for so many challenges and for so many messages. -/
structure HasRoom (m : Depot MemoryStore MemoryOutbox) (n : Nat) : Prop where
  challenges : m.store.challenges.size + n < UInt64.size
  messages : m.outbox.queue.length + n < UInt64.size

end Depot

/-! ## No call adds more than one challenge -/

namespace MemoryStore

variable {m m' : MemoryStore}

theorem size_insert_le (c : Challenge) (f : FlowId) :
    (m.challenges.insert f c).size ≤ m.challenges.size + 1 := by
  rw [Table.size_insert]
  split
  · exact Nat.le_succ _
  · exact Nat.le_refl _

theorem size_upsert {a : Address} {out : Upserted} (h : m.upsert a = .ok (out, m')) :
    m'.challenges.size = m.challenges.size := by
  simp only [upsert] at h
  split at h
  · cases h
    rfl
  · split at h
    · cases h
    · split at h
      · cases h
        rfl
      · cases h
        exact size_expireActive _ _

theorem size_create {c : Challenge} {out : Option Challenge} (h : m.create c = .ok (out, m')) :
    m'.challenges.size ≤ m.challenges.size + 1 := by
  simp only [create] at h
  split at h
  · cases h
  · split at h
    · cases h
    · rename_i a _
      cases h
      have hone := (m.expireActive a.id .superseded).2.size_insert_le c c.id
      rw [size_expireActive] at hone
      exact hone

theorem size_update {α : Type} {f : FlowId} {change : Attempt → α × Attempt} {out : α}
    (h : m.update f change = .ok (out, m')) : m'.challenges.size ≤ m.challenges.size + 1 := by
  simp only [update] at h
  split at h
  · cases h
  · cases h
    exact size_insert_le _ _

end MemoryStore

namespace Depot

variable {α : Type} {d : Depot Ledger MessageFile} {m : Depot MemoryStore MemoryOutbox} {n : Nat}

/-! ## One call -/

/-- A call ends alike on both sides, and both go on belonging together. -/
structure Together (result : Except StoreError Reply × Depot Ledger MessageFile)
    (result' : Except StoreError Reply × Depot MemoryStore MemoryOutbox) (n : Nat) : Prop where
  alike : Alike result'.1 result.1
  mirrors : result.2.Mirrors result'.2
  room : result'.2.HasRoom n

theorem HasRoom.mono (h : m.HasRoom (n + 1)) : m.HasRoom n :=
  ⟨Nat.lt_of_succ_lt h.challenges, Nat.lt_of_succ_lt h.messages⟩

theorem change_together (h : d.Mirrors m) (hroom : m.HasRoom (n + 1)) (reply : α → Reply)
    {call : Ledger → Except StoreError (α × Ledger)}
    {call' : MemoryStore → Except StoreError (α × MemoryStore)}
    (hagree : Agree Ledger.Mirrors (call d.store) (call' m.store))
    (hsize : ∀ {out s}, call' m.store = .ok (out, s) →
      s.challenges.size ≤ m.store.challenges.size + 1) :
    Together (d.change reply call) (m.change reply call') n := by
  generalize hresult : call d.store = result at hagree
  generalize hresult' : call' m.store = result' at hagree
  cases hagree with
  | error e =>
    rw [change_of_error hresult, change_of_error hresult']
    exact ⟨.same _, h, hroom.mono⟩
  | @ok out s s' hmirrors =>
    have hone := hsize hresult'
    have hchallenges := hroom.challenges
    rw [change_of_ok hresult, change_of_ok hresult']
    refine ⟨.same _, ⟨hmirrors, h.outbox⟩, ?_, hroom.mono.messages⟩
    show s'.challenges.size + n < UInt64.size
    omega

theorem ask_together (h : d.Mirrors m) (hroom : m.HasRoom (n + 1)) {reply : α → Reply}
    {found found' : Except StoreError α} (halike : Alike (found'.map reply) (found.map reply)) :
    Together (d.ask reply found) (m.ask reply found') n :=
  ⟨halike, h, hroom.mono⟩

-- A question that finds the same on both sides.
theorem ask_same (h : d.Mirrors m) (hroom : m.HasRoom (n + 1)) (reply : α → Reply)
    {found found' : Except StoreError α} (hfound : found = found') :
    Together (d.ask reply found) (m.ask reply found') n := by
  refine ask_together h hroom ?_
  rw [hfound]
  exact .same _

-- Two listings without repetition that list the same.
theorem perm_of_mem_iff {l l' : List α} (hl : l.Nodup) (hl' : l'.Nodup) {P : α → Prop}
    (hmem : ∀ a, a ∈ l ↔ P a) (hmem' : ∀ a, a ∈ l' ↔ P a) : l.Perm l' :=
  (List.perm_ext_iff_of_nodup hl hl').mpr fun a => (hmem a).trans (hmem' a).symm

theorem addressesWith_together (h : d.Mirrors m) (hroom : m.HasRoom (n + 1)) (channel : Channel)
    (value : Contact) :
    Together (d.serve (.addressesWith channel value)) (m.serve (.addressesWith channel value))
      n := by
  obtain ⟨l, hl, hnodup, hmem⟩ := h.store.addressesWith channel value
  obtain ⟨l', hl', hnodup', hmem'⟩ :=
    Backend.addressesWith_eq (MemoryStore.shows_self h.store.intact) channel value
  refine ask_together h hroom ?_
  rw [hl', show VerificationStore.addressesWith channel value d.store = .ok l from hl]
  exact .sharing (perm_of_mem_iff hnodup' hnodup hmem' hmem)

theorem active_together (h : d.Mirrors m) (hroom : m.HasRoom (n + 1)) :
    Together (d.serve .active) (m.serve .active) n := by
  obtain ⟨l, hl, hnodup, hmem⟩ := h.store.activeChallenges
  obtain ⟨l', hl', hnodup', hmem'⟩ := Backend.active_eq (MemoryStore.shows_self h.store.intact)
  refine ask_together h hroom ?_
  rw [hl', show VerificationStore.active d.store = .ok l from hl]
  exact .active (perm_of_mem_iff hnodup' hnodup hmem' hmem)

theorem enqueue_together (h : d.Mirrors m) (hroom : m.HasRoom (n + 1)) {mail : Mail}
    (hfit : mail.TextsFit) (now : Timestamp) :
    Together (d.serve (.enqueue mail now)) (m.serve (.enqueue mail now)) n := by
  have hmessages := hroom.messages
  obtain ⟨message, outbox, hrun, hrun', hmirrors⟩ := h.outbox.enqueue hfit (by omega) now
  rw [serve, serve, changeOutbox_of_ok hrun, changeOutbox_of_ok hrun']
  refine ⟨.same _, ⟨h.store, hmirrors⟩, hroom.mono.challenges, ?_⟩
  show (m.outbox.queue ++ [message]).length + n < UInt64.size
  rw [List.length_append, List.length_singleton]
  omega

theorem markSent_together (h : d.Mirrors m) (hroom : m.HasRoom (n + 1)) (id : UInt64) :
    Together (d.serve (.markSent id)) (m.serve (.markSent id)) n := by
  by_cases hid : ∃ message ∈ m.outbox.queue, message.id = id
  · obtain ⟨message, hmem, rfl⟩ := hid
    obtain ⟨outbox, outbox', hrun, hrun', hmirrors, hlength⟩ := h.outbox.markSent_known hmem
    rw [serve, serve, changeOutbox_of_ok (by rw [hrun]; rfl),
      changeOutbox_of_ok (by rw [hrun']; rfl)]
    refine ⟨.same _, ⟨h.store, hmirrors⟩, hroom.mono.challenges, ?_⟩
    show outbox'.queue.length + n < UInt64.size
    rw [hlength]
    exact hroom.mono.messages
  · obtain ⟨hrun, hrun'⟩ := h.outbox.markSent_unknown fun message hmem he =>
      hid ⟨message, hmem, he⟩
    rw [serve, serve, changeOutbox_of_error (by rw [hrun]; rfl),
      changeOutbox_of_error (by rw [hrun']; rfl)]
    exact ⟨.same _, h, hroom.mono⟩

/-- Every call ends alike on both sides, as long as there are numbers left. -/
theorem serve_together (h : d.Mirrors m) (hroom : m.HasRoom (n + 1)) {call : Call}
    (hadmits : m.Admits call) : Together (d.serve call) (m.serve call) n := by
  have hi := h.store.intact
  have hchallenges := hroom.challenges
  cases call with
  | upsert id slot value now =>
    obtain ⟨hid, hfit⟩ := hadmits
    refine change_together h hroom _ (h.store.upsert_of_keysFit hfit fun hslot => ?_)
      fun he => Nat.le_succ_of_le (Nat.le_of_eq (MemoryStore.size_upsert he))
    -- an identifier in use is that of the slot's own address
    cases ha : m.store.addresses.get? id with
    | none => exact ha
    | some a =>
      have has := hi.slot_iff.mpr ⟨a, ha, hid a (congrArg Except.ok ha)⟩
      rw [show m.store.slots.get? slot = none from hslot] at has
      cases has
  | create challenge =>
    exact change_together h hroom _ (h.store.create hadmits.2 hadmits.1) MemoryStore.size_create
  | complete flow now =>
    exact change_together h hroom _ (h.store.update flow fun p => p.complete_amends now)
      MemoryStore.size_update
  | failAttempt flow now =>
    exact change_together h hroom _ (h.store.update flow fun p => p.fail_amends now)
      MemoryStore.size_update
  | expire flow reason now =>
    exact change_together h hroom _ (h.store.update flow fun p => p.expire_amends now reason)
      MemoryStore.size_update
  | address? id => exact ask_same h hroom _ (h.store.readAddress id)
  | addressIn? slot => exact ask_same h hroom _ (h.store.addressIn? slot)
  | addressesOf identity => exact ask_same h hroom _ (h.store.addressesOf identity)
  | addressesWith channel value => exact addressesWith_together h hroom channel value
  | challenge? flow => exact ask_same h hroom _ (h.store.readChallenge flow)
  | activeFor? address => exact ask_same h hroom _ (h.store.readActive address)
  | history address =>
    refine ask_same h hroom _ (h.store.historyOf ?_ address)
    rw [h.store.size]
    omega
  | active => exact active_together h hroom
  | enqueue mail now => exact enqueue_together h hroom hadmits now
  | messages status => exact ask_same h hroom _ (h.outbox.messages status)
  | markSent id => exact markSent_together h hroom id

/-! ## All sequences of calls -/

theorem replies_alike {calls : List Call} (h : d.Mirrors m) (hroom : m.HasRoom calls.length)
    (hadmits : m.AdmitsAll calls) : List.Forall₂ Alike (m.replies calls) (d.replies calls) := by
  induction calls generalizing d m with
  | nil => exact .nil
  | cons call calls ih =>
    have htogether := serve_together h hroom hadmits.1
    exact .cons htogether.alike (ih htogether.mirrors htogether.room hadmits.2)

/-- The stores in memory before any call. -/
def inMemory : Depot MemoryStore MemoryOutbox := ⟨.empty, .empty⟩

/-- The stores of a fresh environment. -/
def onDisk : Depot Ledger MessageFile := ⟨Environment.fresh.ledger, Environment.fresh.messages⟩

/-- Calls that begin with empty stores are answered alike in memory and on disk.  Challenges and
messages have numbers of 64 bits, so there are fewer than 2⁶⁴ of them. -/
theorem replies_alike_of_admitted {calls : List Call} (hadmits : inMemory.AdmitsAll calls)
    (hcount : calls.length < UInt64.size) :
    List.Forall₂ Alike (inMemory.replies calls) (onDisk.replies calls) := by
  have hmirrors : onDisk.Mirrors inMemory := ⟨Ledger.mirrors_fresh, MessageFile.mirrors_fresh⟩
  have hroom : inMemory.HasRoom calls.length := by
    constructor
    · show 0 + calls.length < UInt64.size
      omega
    · show 0 + calls.length < UInt64.size
      omega
  exact replies_alike hmirrors hroom hadmits

/-- An address is entered, challenged and verified, and then looked for; a mail is put into the
outbox, and one that is not there is marked as sent. -/
def verifiedOnce : List Call :=
  let id : AddressId := ⟨List.replicate 16 4, rfl⟩
  let flow : FlowId := ⟨List.replicate 16 5, rfl⟩
  let slot : Slot := ⟨⟨"ann"⟩, .email⟩
  let record : Address := .fresh id slot ⟨"ann@home"⟩ ⟨7⟩
  [.upsert id slot record.value ⟨7⟩,
    .create (.issue flow record "token" "code" ⟨60, 60, some 3⟩ ⟨8⟩), .active,
    .complete flow ⟨9⟩, .addressesWith .email record.value, .addressesOf slot.identity, .history id,
    .enqueue (.unknownAddress record.value) ⟨10⟩, .markSent 2]

theorem verifiedOnce_alike :
    inMemory.AdmitsAll verifiedOnce ∧ verifiedOnce.length < UInt64.size ∧
      List.Forall₂ Alike (inMemory.replies verifiedOnce) (onDisk.replies verifiedOnce) := by
  have hfits : ∀ s ∈ ["ann", "ann@home", "token", "code"], TextFits s := by
    unfold TextFits
    decide
  have hadmits : inMemory.AdmitsAll verifiedOnce := by
    refine ⟨⟨fun a ha => ?_, ?_, ?_⟩, ⟨rfl, ?_⟩, trivial, trivial, trivial, trivial, trivial,
      hfits "ann@home" (by simp), trivial, trivial⟩
    · cases ha
    · decide
    · decide
    · exact ⟨hfits "ann" (by simp), hfits "ann@home" (by simp), hfits "token" (by simp),
        hfits "code" (by simp)⟩
  have hcount : verifiedOnce.length < UInt64.size := by decide
  exact ⟨hadmits, hcount, replies_alike_of_admitted hadmits hcount⟩

end Depot

end Vouch
