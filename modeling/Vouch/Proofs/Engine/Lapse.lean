import Vouch.Proofs.Engine.WrongCode

/-!
# Running out of time

A challenge that is marked active although its time has run out is ended by a sweep, or by whoever
opens its link.  Then it says that it has run out of time, its address says that the attempt has
expired, and everything else is as it was.  A sweep ends all of these challenges and counts them.
A link ends no other than its own, and grants and issues nothing.
-/

namespace Vouch

/-- The challenge, which has run out of time if it is one of these. -/
def Challenge.lapseAmong (ended : List Challenge) (c : Challenge) : Challenge :=
  if c.id ∈ ended.map (·.id) then { c with state := .expired, expiredReason := some .elapsed }
  else c

/-- The address, which notes that its attempt has expired if the attempt is one of these. -/
def Address.lapseAmong (now : Timestamp) (ended : List Challenge) (a : Address) : Address :=
  if a.id ∈ ended.map (·.address) then { a with status := .expiredAttempt, updatedAt := now }
  else a

def Account.lapseAmong (now : Timestamp) (ended : List Challenge) (acc : Account) : Account :=
  ⟨acc.record.lapseAmong now ended, acc.history.map fun c => c.lapseAmong ended⟩

/-- These challenges have run out of time, and nothing else has changed. -/
def MemoryStore.Lapses (m : MemoryStore) (now : Timestamp) (ended : List Challenge)
    (m' : MemoryStore) : Prop :=
  ∀ id, m'.account? id = (m.account? id).map fun acc => acc.lapseAmong now ended

variable {now : Timestamp} {ended l : List Challenge}

namespace Challenge

variable {c : Challenge}

theorem lapseAmong_of_mem (h : c ∈ ended) :
    c.lapseAmong ended = { c with state := .expired, expiredReason := some .elapsed } :=
  if_pos (List.mem_map_of_mem h)

theorem lapseAmong_nil (c : Challenge) : c.lapseAmong [] = c :=
  if_neg List.not_mem_nil

theorem lapseAmong_append (c : Challenge) (ended l : List Challenge) :
    c.lapseAmong (ended ++ l) = (c.lapseAmong ended).lapseAmong l := by
  simp only [lapseAmong, List.map_append, List.mem_append]
  by_cases hended : c.id ∈ ended.map (·.id)
  · by_cases hl : c.id ∈ l.map (·.id) <;> simp [hended, hl]
  · simp [hended]

theorem sameIssue_lapseAmong (c : Challenge) (ended : List Challenge) :
    c.SameIssue (c.lapseAmong ended) := by
  unfold lapseAmong
  split <;> rfl

-- What is still active is none of those that have run out of time.
theorem eq_of_isActive_lapseAmong (h : (c.lapseAmong ended).isActive = true) :
    c.id ∉ ended.map (·.id) ∧ c.lapseAmong ended = c := by
  by_cases hmem : c.id ∈ ended.map (·.id)
  · rw [lapseAmong, if_pos hmem] at h
    cases h
  · exact ⟨hmem, if_neg hmem⟩

end Challenge

namespace Address

theorem lapseAmong_nil (now : Timestamp) (a : Address) : a.lapseAmong now [] = a :=
  if_neg List.not_mem_nil

theorem lapseAmong_append (now : Timestamp) (a : Address) (ended l : List Challenge) :
    a.lapseAmong now (ended ++ l) = (a.lapseAmong now ended).lapseAmong now l := by
  simp only [lapseAmong, List.map_append, List.mem_append]
  by_cases hended : a.id ∈ ended.map (·.address)
  · by_cases hl : a.id ∈ l.map (·.address) <;> simp [hended, hl]
  · simp [hended]

theorem sameBinding_lapseAmong (now : Timestamp) (a : Address) (ended : List Challenge) :
    a.SameBinding (a.lapseAmong now ended) := by
  unfold lapseAmong
  split <;> rfl

end Address

/-! ## What a store in memory shows then -/

-- The active challenge of an address, whatever leads to it.
theorem MemoryStore.Intact.activeFor_iff {m : MemoryStore} (hi : m.Intact) {id : AddressId}
    {c : Challenge} :
    (m.active.get? id).bind m.challenges.get? = some c ↔
      m.challenges.get? c.id = some c ∧ c.address = id ∧ c.isActive = true := by
  rw [Option.bind_eq_some_iff]
  constructor
  · rintro ⟨f, hptr, hc⟩
    obtain ⟨d, hd, haddress, hact⟩ := hi.active_iff.mp hptr
    rw [hc] at hd
    cases hd
    exact ⟨by rw [hi.id_of_challenge hc]; exact hc, haddress, hact⟩
  · rintro ⟨hc, haddress, hact⟩
    exact ⟨c.id, hi.active_iff.mpr ⟨c, hc, haddress, hact⟩, hc⟩

namespace MemoryStore.Lapses

variable {m m₁ m' : MemoryStore}

theorem nil (now : Timestamp) (m : MemoryStore) : m.Lapses now [] m := by
  intro id
  cases m.account? id with
  | none => rfl
  | some acc =>
    simp [Account.lapseAmong, Address.lapseAmong_nil, Challenge.lapseAmong_nil]

theorem append (h : m.Lapses now ended m₁) (h' : m₁.Lapses now l m') :
    m.Lapses now (ended ++ l) m' := by
  intro id
  rw [h' id, h id, Option.map_map]
  congr 1
  funext acc
  simp [Account.lapseAmong, Address.lapseAmong_append, Challenge.lapseAmong_append]

variable (h : m.Lapses now ended m')

include h

theorem address (id : AddressId) :
    m'.addresses.get? id = (m.addresses.get? id).map fun a => a.lapseAmong now ended := by
  have hid := congrArg (Option.map Account.record) (h id)
  simpa [account?, Function.comp_def, Account.lapseAmong] using hid

variable (hi : m.Intact) (hi' : m'.Intact)

include hi hi'

theorem history (id : AddressId) :
    m'.history id = (m.history id).map fun c => c.lapseAmong ended := by
  have hid := h id
  cases hacc : m.account? id with
  | none =>
    rw [hacc] at hid
    rw [hi.history_of_no_account hacc, hi'.history_of_no_account hid, List.map_nil]
  | some acc =>
    rw [hacc] at hid
    rw [history_of_account? hacc, history_of_account? hid]
    rfl

theorem challenge (f : FlowId) :
    m'.challenges.get? f = (m.challenges.get? f).map fun c => c.lapseAmong ended := by
  cases hc : m.challenges.get? f with
  | none =>
    have hflows : ∀ id, m'.flows id = m.flows id := by
      intro id
      rw [flows, flows, h.history hi hi' id, List.map_map]
      exact List.map_congr_left fun c _ => (c.sameIssue_lapseAmong ended).id
    exact (unknown_iff_of_flows hi hi' hflows f).mpr hc
  | some c =>
    obtain ⟨hmem, hid⟩ := hi.get?_iff.mp hc
    have hsame := c.sameIssue_lapseAmong ended
    rw [Option.map_some, hi'.get?_iff, hsame.address, h.history hi hi']
    exact ⟨List.mem_map_of_mem hmem, by rw [hsame.id, hid]⟩

theorem slot (slot : Slot) : m'.slots.get? slot = m.slots.get? slot := by
  ext id
  rw [hi'.slot_iff, hi.slot_iff, h.address id]
  simp only [Option.map_eq_some_iff]
  constructor
  · rintro ⟨a', ⟨a, ha, rfl⟩, hslot⟩
    exact ⟨a, ha, by rw [← hslot, (a.sameBinding_lapseAmong now ended).slot]⟩
  · rintro ⟨a, ha, hslot⟩
    exact ⟨_, ⟨a, ha, rfl⟩, by rw [(a.sameBinding_lapseAmong now ended).slot, hslot]⟩

-- An address whose challenge has run out of time has no active one; elsewhere nothing has changed.
theorem active (hended : ∀ c ∈ ended, m.challenges.get? c.id = some c ∧ c.isActive = true)
    (id : AddressId) :
    (m'.active.get? id).bind m'.challenges.get? =
      if id ∈ ended.map (·.address) then none
      else (m.active.get? id).bind m.challenges.get? := by
  ext c'
  rw [hi'.activeFor_iff, h.challenge hi hi']
  constructor
  · rintro ⟨hc', rfl, hact'⟩
    obtain ⟨c, hc, rfl⟩ := Option.map_eq_some_iff.mp hc'
    obtain ⟨hmem, hsame⟩ := Challenge.eq_of_isActive_lapseAmong hact'
    rw [hsame] at hact' hc ⊢
    rw [if_neg, hi.activeFor_iff]
    · exact ⟨hc, rfl, hact'⟩
    · -- the two would be one, since they are active for one address
      intro haddress
      obtain ⟨d, hd, hsame'⟩ := List.mem_map.mp haddress
      obtain ⟨hget, hdact⟩ := hended d hd
      rw [← hi.eq_of_active hget hc hsame' hdact hact'] at hmem
      exact hmem (List.mem_map_of_mem hd)
  · intro hc'
    split at hc'
    · cases hc'
    · rename_i haddress
      obtain ⟨hc, rfl, hact⟩ := hi.activeFor_iff.mp hc'
      have hsame : c'.lapseAmong ended = c' := by
        refine if_neg fun hmem => haddress ?_
        obtain ⟨d, hd, hid⟩ := List.mem_map.mp hmem
        have hget := (hended d hd).1
        rw [hid, hc] at hget
        cases hget
        exact List.mem_map_of_mem hd
      exact ⟨Option.map_eq_some_iff.mpr ⟨c', hc, hsame⟩, rfl, hact⟩

-- Once all whose time has run out are marked so, whatever is still marked active is live.
theorem live (hall : ∀ c, m.challenges.get? c.id = some c → c.isActive = true →
      c.isLive now = false → c ∈ ended) {f : FlowId} {c : Challenge}
    (hc : m'.challenges.get? f = some c) (hact : c.isActive = true) : c.isLive now = true := by
  have hid := hi'.id_of_challenge hc
  rw [h.challenge hi hi'] at hc
  obtain ⟨d, hd, rfl⟩ := Option.map_eq_some_iff.mp hc
  obtain ⟨hmiss, hsame⟩ := Challenge.eq_of_isActive_lapseAmong hact
  rw [hsame] at hact hid ⊢
  cases hlive : d.isLive now with
  | true => rfl
  | false => exact absurd (List.mem_map_of_mem (hall d (hid ▸ hd) hact hlive)) hmiss

end MemoryStore.Lapses

namespace MemoryStore

variable {m m' : MemoryStore} {flow : FlowId} {c : Challenge} {acc : Account}

-- What ending one challenge for want of time comes to.  Its address is for its value and not
-- verified, so it takes note.
theorem Settled.lapses (h : m.Settled) (hi : m.Intact) (hf : Engine.Finds m flow c acc)
    (hact : c.isActive = true)
    (hsets : m.Sets c.address (acc.amend (Attempt.expire ⟨c, acc.record⟩ .elapsed now)) m') :
    m.Lapses now [c] m' := by
  obtain ⟨⟨earlier, hsettled⟩, -⟩ := h.of_finds hi hf hact
  intro id
  rw [hsets id]
  by_cases hid : id = c.address
  · subst hid
    have hrecord : acc.record.markAttemptExpired c.value now = acc.record.lapseAmong now [c] := by
      rw [Address.markAttemptExpired, if_neg, Address.lapseAmong, if_pos]
      · simp [hf.id hi]
      · simp [hsettled.unverified hact, hsettled.value]
    have hhistory : ∀ d ∈ acc.history,
        (if d.id = c.id then c.expire .elapsed else d) = d.lapseAmong [c] := by
      intro d hd
      by_cases hdc : d.id = c.id
      · rw [if_pos hdc, hf.eq_of_id hi hd hdc, Attempt.expire_of_isActive hact,
          Challenge.lapseAmong_of_mem List.mem_cons_self]
      · simp [Challenge.lapseAmong, hdc]
    rw [if_pos rfl, hf.account, Attempt.expire_elapsed _ _ hact, Account.amend, hrecord,
      Challenge.id_expire, List.map_congr_left hhistory]
    rfl
  · rw [if_neg hid]
    cases hacc : m.account? id with
    | none => rfl
    | some other =>
      -- the challenges of another address have other names
      have hrecord : other.record.lapseAmong now [c] = other.record := by
        refine if_neg ?_
        simpa [hi.id_of_account hacc] using hid
      have hhistory : ∀ d ∈ other.history, d.lapseAmong [c] = d := by
        intro d hd
        rw [← history_of_account? hacc] at hd
        obtain ⟨hget, rfl⟩ := hi.mem_history.mp hd
        refine if_neg fun hdc => hid ?_
        rw [List.map_singleton, List.mem_singleton] at hdc
        rw [hdc, hi.id_of_challenge hf.challenge, hf.challenge] at hget
        rw [Option.some.inj hget]
      rw [Option.map_some, Account.lapseAmong, hrecord, List.map_congr_left hhistory, List.map_id']

end MemoryStore

/-! ## What any store shows then -/

section Backend

variable {σ : Type} [VerificationStore σ] [Backend σ] {s s' : σ} {m m' : MemoryStore}

/-- What can be read from a store when these challenges have run out of time: they say so, their
addresses say that the attempt has expired, and everything else is as it was. -/
structure Backend.Lapses (now : Timestamp) (ended : List Challenge) (s s' : σ) : Prop where
  challenge (f : FlowId) : VerificationStore.challenge? f s' =
    (VerificationStore.challenge? f s).map (Option.map fun c => c.lapseAmong ended)
  address (id : AddressId) : VerificationStore.address? id s' =
    (VerificationStore.address? id s).map (Option.map fun a => a.lapseAmong now ended)
  addressIn (slot : Slot) : VerificationStore.addressIn? slot s' =
    (VerificationStore.addressIn? slot s).map (Option.map fun a => a.lapseAmong now ended)
  /-- The addresses with a value are those that had it. -/
  addressesWith (channel : Channel) (value : Contact) : ∃ before after,
    VerificationStore.addressesWith channel value s = .ok before ∧
    VerificationStore.addressesWith channel value s' = .ok after ∧
    ∀ a, a ∈ after ↔ ∃ b ∈ before, b.lapseAmong now ended = a
  activeFor (id : AddressId) : VerificationStore.activeFor? id s' =
    if id ∈ ended.map (·.address) then .ok none else VerificationStore.activeFor? id s
  history (id : AddressId) : Backend.Roomy s → Backend.Roomy s' →
    VerificationStore.history id s' =
      (VerificationStore.history id s).map (List.map fun c => c.lapseAmong ended)

theorem MemoryStore.Lapses.owners (h : m.Lapses now ended m') (hs : Backend.Shows s m)
    (hs' : Backend.Shows s' m') (channel : Channel) (value : Contact) : ∃ before after,
      VerificationStore.addressesWith channel value s = .ok before ∧
      VerificationStore.addressesWith channel value s' = .ok after ∧
      ∀ a, a ∈ after ↔ ∃ b ∈ before, b.lapseAmong now ended = a := by
  obtain ⟨before, hbefore, -, hb⟩ := Backend.addressesWith_eq hs channel value
  obtain ⟨after, hafter, -, ha⟩ := Backend.addressesWith_eq hs' channel value
  refine ⟨before, after, hbefore, hafter, fun a => ?_⟩
  rw [ha, h.address, Option.map_eq_some_iff]
  constructor
  · rintro ⟨⟨b, hget, rfl⟩, hchannel, hvalue⟩
    have hsame := b.sameBinding_lapseAmong now ended
    rw [hsame.id] at hget
    rw [hsame.channel] at hchannel
    rw [hsame.value] at hvalue
    exact ⟨b, (hb b).mpr ⟨hget, hchannel, hvalue⟩, rfl⟩
  · rintro ⟨b, hmem, rfl⟩
    obtain ⟨hget, hchannel, hvalue⟩ := (hb b).mp hmem
    have hsame := b.sameBinding_lapseAmong now ended
    rw [hsame.id, hsame.channel, hsame.value]
    exact ⟨⟨b, hget, rfl⟩, hchannel, hvalue⟩

theorem MemoryStore.Lapses.reads (h : m.Lapses now ended m') (hs : Backend.Shows s m)
    (hs' : Backend.Shows s' m')
    (hended : ∀ c ∈ ended, m.challenges.get? c.id = some c ∧ c.isActive = true) :
    Backend.Lapses now ended s s' := by
  have hi := Backend.intact hs
  have hi' := Backend.intact hs'
  refine ⟨fun f => ?_, fun id => ?_, fun slot => ?_, h.owners hs hs', fun id => ?_,
    fun id hroomy hroomy' => ?_⟩
  · rw [Backend.challenge?_eq hs', Backend.challenge?_eq hs, h.challenge hi hi']
    rfl
  · rw [Backend.address?_eq hs', Backend.address?_eq hs, h.address]
    rfl
  · rw [Backend.addressIn?_eq hs', Backend.addressIn?_eq hs, h.slot hi hi']
    cases m.slots.get? slot with
    | none => rfl
    | some id => exact congrArg Except.ok (h.address id)
  · rw [Backend.activeFor?_eq hs', Backend.activeFor?_eq hs, h.active hi hi' hended]
    split <;> rfl
  · rw [Backend.history_eq hs' id hroomy', Backend.history_eq hs id hroomy, h.history hi hi']
    rfl

end Backend

namespace Attempt

theorem lapsed_ne_notFound {α : Type} (p : Attempt) :
    (p.lapsed : Except VerificationError α × Attempt).1 ≠ .error .notFound := by
  simp [lapsed, Engine.expiredError]

-- With the right token the flow is found, whatever is answered for it.
theorem opened_ne_notFound (p : Attempt) (now : Timestamp) :
    (p.opened now).1 ≠ .error .notFound := by
  rw [opened]
  cases p.challenge.state with
  | completed =>
    dsimp only
    split
    · simp
    · exact lapsed_ne_notFound p
  | active =>
    dsimp only
    split
    · simp
    · exact lapsed_ne_notFound _
  | expired => exact lapsed_ne_notFound p

end Attempt

namespace Engine

open Vouch.Action

variable {σ ι τ : Type} [VerificationStore σ] [Backend σ] {e : Engine} {w : World σ ι τ}
  {m : MemoryStore}

/-! ## Sweeping -/

-- The list was read before the first challenge of it is ended.  Those behind it are still as they
-- were, because no two of the list are one.
theorem mapM_expire_lapses (h : Backend.Shows w.store m) (hm : m.Settled) (hnodup : l.Nodup)
    (hl : ∀ c ∈ l, m.challenges.get? c.id = some c ∧ c.isActive = true) (now : Timestamp) :
    ∃ s m', (l.mapM fun c => (changeStore (VerificationStore.expire c.id .elapsed now) :
        Action σ ι τ Challenge)) w =
          .ok (l.map fun c => c.expire .elapsed) { w with store := s } ∧
      Backend.Shows s m' ∧ m.Lapses now l m' := by
  induction l generalizing w m with
  | nil => exact ⟨w.store, m, rfl, h, .nil now m⟩
  | cons c l ih =>
    have hi := Backend.intact h
    obtain ⟨hfresh, hnodup⟩ := List.nodup_cons.mp hnodup
    obtain ⟨hc, hact⟩ := hl c List.mem_cons_self
    obtain ⟨acc, hf⟩ := Finds.of_intact hi hc
    obtain ⟨s₁, m₁, hexpire, hshows₁, hsets⟩ :=
      Backend.expire_known h hf.challenge hf.account .elapsed now
    have hi₁ := Backend.intact hshows₁
    have hlapses := hm.lapses hi hf hact hsets
    have hl₁ : ∀ d ∈ l, m₁.challenges.get? d.id = some d ∧ d.isActive = true := by
      intro d hd
      obtain ⟨hget, hdact⟩ := hl d (List.mem_cons_of_mem _ hd)
      have hother : d.id ∉ [c].map (·.id) := by
        rw [List.map_singleton, List.mem_singleton]
        intro hid
        rw [hid, hc] at hget
        exact hfresh (Option.some.inj hget ▸ hd)
      rw [hlapses.challenge hi hi₁, hget, Option.map_some, Challenge.lapseAmong, if_neg hother]
      exact ⟨rfl, hdact⟩
    obtain ⟨s, m', hrun, hshows, hlapses'⟩ :=
      ih (w := { w with store := s₁ }) hshows₁ (hm.expire_elapsed hi hf hsets) hnodup hl₁
    rw [Attempt.challenge_expire] at hexpire
    refine ⟨s, m', ?_, hshows, hlapses.append hlapses'⟩
    rw [List.mapM_cons, bind_of_ok (changeStore_of_ok hexpire), bind_of_ok hrun]
    rfl

-- Whatever is ended is counted.
theorem length_expired (h : ∀ c ∈ ended, c.isActive = true) :
    ((ended.map fun c => c.expire .elapsed).filter fun c => c.state = .expired).length =
      ended.length := by
  rw [List.filter_eq_self.mpr, List.length_map]
  intro d hd
  obtain ⟨c, hc, rfl⟩ := List.mem_map.mp hd
  rw [Attempt.expire_of_isActive (h c hc)]
  rfl

omit [Backend σ] in
-- A sweep that finds all active challenges live.
theorem sweep_of_live {all : List Challenge}
    (hall : VerificationStore.active w.store = .ok all)
    (hlive : ∀ c ∈ all, c.isLive w.now = true) :
    (sweep : Action σ ι τ Nat).perform w = (.ok 0, w) := by
  have hnone : (all.filter fun c => !c.isLive w.now) = [] := by
    rw [List.filter_eq_nil_iff]
    intro c hc
    simp [hlive c hc]
  rw [sweep, perform_congr (bind_of_ok now_run), perform_congr (bind_of_ok (readStore_of_ok hall)),
    hnone]
  rfl

/-- A sweep ends exactly the challenges that are marked active although their time has run out, and
counts them.  Whatever is marked active afterwards is live, so a second sweep at the same reading of
the clock ends nothing. -/
theorem sweep_ends_elapsed [IdentityStore ι] [MailTransport τ] (h : e.Reachable w) :
    ∃ ended s, (sweep : Action σ ι τ Nat).perform w = (.ok ended.length, { w with store := s }) ∧
      ended.Nodup ∧
      (∀ c, c ∈ ended ↔ VerificationStore.challenge? c.id w.store = .ok (some c) ∧
        c.isActive = true ∧ c.isLive w.now = false) ∧
      Backend.Lapses w.now ended w.store s ∧
      (∀ f c, VerificationStore.challenge? f s = .ok (some c) → c.isActive = true →
        c.isLive w.now = true) ∧
      (sweep : Action σ ι τ Nat).perform { w with store := s } =
        (.ok 0, { w with store := s }) := by
  obtain ⟨m, hshows, hsettled⟩ := h.settled
  have hi := Backend.intact hshows
  obtain ⟨all, hall, hnodup, hmem⟩ := Backend.active_eq hshows
  have hended : ∀ c, c ∈ (all.filter fun c => !c.isLive w.now) ↔
      m.challenges.get? c.id = some c ∧ c.isActive = true ∧ c.isLive w.now = false := by
    intro c
    simp [List.mem_filter, hmem, and_assoc]
  generalize hsplit : (all.filter fun c => !c.isLive w.now) = ended at hended
  have hnodup' : ended.Nodup := hsplit ▸ hnodup.filter _
  have hl : ∀ c ∈ ended, m.challenges.get? c.id = some c ∧ c.isActive = true := fun c hc =>
    ⟨((hended c).mp hc).1, ((hended c).mp hc).2.1⟩
  obtain ⟨s, m', hrun, hshows', hlapses⟩ :=
    mapM_expire_lapses (ι := ι) (τ := τ) hshows hsettled hnodup' hl w.now
  have hlive : ∀ {f c}, m'.challenges.get? f = some c → c.isActive = true →
      c.isLive w.now = true :=
    hlapses.live hi (Backend.intact hshows') fun c hc hact hout =>
      (hended c).mpr ⟨hc, hact, hout⟩
  refine ⟨ended, s, ?_, hnodup', ?_, hlapses.reads hshows hshows' hl, ?_, ?_⟩
  · rw [sweep, perform_congr (bind_of_ok now_run),
      perform_congr (bind_of_ok (readStore_of_ok hall)), hsplit,
      perform_congr (bind_of_ok hrun), ← length_expired fun c hc => (hl c hc).2]
    rfl
  · intro c
    rw [hended, Backend.challenge?_eq hshows, Except.ok.injEq]
  · intro f c hc
    rw [Backend.challenge?_eq hshows'] at hc
    exact hlive (Except.ok.inj hc)
  · obtain ⟨all', hall', -, hmem'⟩ := Backend.active_eq hshows'
    refine sweep_of_live (w := { w with store := s }) hall' fun c hc => ?_
    obtain ⟨hget, hact⟩ := (hmem' c).mp hc
    exact hlive hget hact

open Sample in
/-- A sweep after the first challenge has run out of time. -/
theorem overdue_swept :
    ∃ s c, (sweep : Action _ _ _ Nat).perform overdue = (.ok 1, { overdue with store := s }) ∧
      VerificationStore.challenge? (drawnAt .flow 16) s = .ok (some c) ∧
      c.state = .expired ∧ c.expiredReason = some .elapsed ∧
      (sweep : Action _ _ _ Nat).perform { overdue with store := s } =
        (.ok 0, { overdue with store := s }) := by
  obtain ⟨ended, s, hperform, -, hended, hlapses, -, hagain⟩ :=
    sweep_ends_elapsed overdue_reachable
  have hone : ((sweep : Action _ _ _ Nat).perform overdue).1 = .ok 1 := rfl
  obtain ⟨c, hc, hout⟩ : ∃ c, VerificationStore.challenge? (drawnAt .flow 16) overdue.store =
      .ok (some c) ∧ c.id = drawnAt .flow 16 ∧ c.isActive = true ∧ c.isLive overdue.now = false :=
    ⟨_, rfl, rfl, rfl, rfl⟩
  have hmem : c ∈ ended := (hended c).mpr ⟨hout.1 ▸ hc, hout.2⟩
  have hlength : ended.length = 1 := by
    rw [hperform] at hone
    exact Except.ok.inj hone
  refine ⟨s, c.lapseAmong ended, hlength ▸ hperform, ?_, ?_, ?_, hagain⟩
  · rw [hlapses.challenge, hc]
    rfl
  · rw [Challenge.lapseAmong_of_mem hmem]
  · rw [Challenge.lapseAmong_of_mem hmem]

/-! ## Links -/

theorem openLink_notFound (h : Backend.Shows w.store m) {flow : FlowId} {token : String}
    (hwrong : ∀ c, m.challenges.get? flow = some c → c.token ≠ token) :
    (openLink flow token : Action σ ι τ FlowState).perform w = (.error .notFound, w) := by
  cases hc : m.challenges.get? flow with
  | none => exact perform_of_error (openLink_unknown h hc token)
  | some c =>
    obtain ⟨acc, hf⟩ := Finds.of_intact (Backend.intact h) hc
    exact perform_of_error (openLink_wrongToken h hf (hwrong c hc))

-- Nothing is written unless the time of an active challenge has run out.
theorem openLink_unwritten (h : Backend.Shows w.store m) {flow : FlowId} {c : Challenge}
    {acc : Account} (hf : Finds m flow c acc) (hin : c.isActive = true → c.isLive w.now = true) :
    (openLink flow c.token : Action σ ι τ FlowState).perform w =
      ((Attempt.opened ⟨c, acc.record⟩ w.now).1, w) := by
  rw [perform_congr (openLink_rightToken h hf), Attempt.opened]
  cases hs : c.state with
  | completed =>
    dsimp only
    split
    · rfl
    · exact expiredFlow_run_lapsed h hf
  | active =>
    simp only [hin (Challenge.isActive_iff.mpr hs), if_true]
    rfl
  | expired => exact expiredFlow_run_lapsed h hf

/-- A link is not found exactly if its token, compared as a text, is not that of a stored challenge
with its flow; then nothing is written.  Whatever else comes of it, no challenge is issued or
completed, nothing is mailed and nothing is drawn: at most the challenge of the flow is ended, if
its time has run out, and its address notes that. -/
theorem openLink_grants_nothing [IdentityStore ι] [MailTransport τ] (h : e.Reachable w)
    (flow : FlowId) (token : String) :
    ∃ answer s ended, (openLink flow token : Action σ ι τ FlowState).perform w =
        (answer, { w with store := s }) ∧
      (answer = .error .notFound ↔
        ∀ c, VerificationStore.challenge? flow w.store = .ok (some c) → c.token ≠ token) ∧
      (∀ c, c ∈ ended ↔ VerificationStore.challenge? flow w.store = .ok (some c) ∧
        c.token = token ∧ c.isActive = true ∧ c.isLive w.now = false) ∧
      Backend.Lapses w.now ended w.store s ∧ (ended = [] → s = w.store) := by
  obtain ⟨m, hshows, hsettled⟩ := h.settled
  have hi := Backend.intact hshows
  have hself : Backend.Lapses w.now [] w.store w.store :=
    (MemoryStore.Lapses.nil w.now m).reads hshows hshows (fun c hc => absurd hc List.not_mem_nil)
  simp only [Backend.challenge?_eq hshows, Except.ok.injEq]
  by_cases hright : ∃ c, m.challenges.get? flow = some c ∧ c.token = token
  · obtain ⟨c, hc, rfl⟩ := hright
    obtain ⟨acc, hf⟩ := Finds.of_intact hi hc
    have hfound := Attempt.opened_ne_notFound ⟨c, acc.record⟩ w.now
    simp only [hc, Option.some.injEq]
    cases hout : c.isActive && !c.isLive w.now with
    | true =>
      obtain ⟨hact, hlive⟩ : c.isActive = true ∧ c.isLive w.now = false := by simpa using hout
      obtain ⟨s, m', hperform, hshows', hsets⟩ := openLink_yields (ι := ι) (τ := τ) hshows hf
      rw [Attempt.opened_of_elapsed hact hlive] at hsets
      refine ⟨_, s, [c], hperform, ?_, ?_, ?_, nofun⟩
      · simp [hfound]
      · grind
      · refine (hsettled.lapses hi hf hact hsets).reads hshows hshows' ?_
        simp [hi.id_of_challenge hc, hc, hact]
    | false =>
      have hin : c.isActive = true → c.isLive w.now = true := by simpa using hout
      refine ⟨_, w.store, [], openLink_unwritten hshows hf hin, ?_, ?_, hself, fun _ => rfl⟩
      · simp [hfound]
      · grind
  · have hwrong : ∀ c, m.challenges.get? flow = some c → c.token ≠ token := fun c hc hsame =>
      hright ⟨c, hc, hsame⟩
    refine ⟨_, w.store, [], openLink_notFound hshows hwrong, ?_, ?_, hself, fun _ => rfl⟩
    · exact ⟨fun _ => hwrong, fun _ => rfl⟩
    · grind

open Sample in
/-- The link of a challenge whose time has run out, with a token that goes on after its own and with
its own. -/
theorem overdue_link_grants_nothing :
    ∃ c, VerificationStore.challenge? (drawnAt .flow 16) overdue.store = .ok (some c) ∧
      (openLink (drawnAt .flow 16) (c.token ++ "0") : Action _ _ _ FlowState).perform overdue =
        (.error .notFound, overdue) ∧
      ∃ answer s, (openLink (drawnAt .flow 16) c.token : Action _ _ _ FlowState).perform overdue =
          (answer, { overdue with store := s }) ∧ answer ≠ .error .notFound ∧
        VerificationStore.challenge? (drawnAt .flow 16) s =
          .ok (some { c with state := .expired, expiredReason := some .elapsed }) := by
  obtain ⟨c, hc, hact, hlive⟩ : ∃ c,
      VerificationStore.challenge? (drawnAt .flow 16) overdue.store = .ok (some c) ∧
      c.isActive = true ∧ c.isLive overdue.now = false := ⟨_, rfl, rfl, rfl⟩
  have honly : ∀ d, VerificationStore.challenge? (drawnAt .flow 16) overdue.store = .ok (some d) →
      d = c := fun d hd => Option.some.inj (Except.ok.inj (hd.symm.trans hc))
  have htoken : c.token ≠ c.token ++ "0" := by
    intro hsame
    simpa using congrArg String.length hsame
  refine ⟨c, hc, ?_, ?_⟩
  · obtain ⟨answer, s, ended, hperform, hmissing, hended, -, hsame⟩ :=
      openLink_grants_nothing overdue_reachable (drawnAt .flow 16) (c.token ++ "0")
    have hnone : ended = [] := by
      rw [List.eq_nil_iff_forall_not_mem]
      intro d hd
      obtain ⟨hget, hright, -⟩ := (hended d).mp hd
      exact htoken (honly d hget ▸ hright)
    rw [hperform, hsame hnone, hmissing.mpr fun d hd => honly d hd ▸ htoken]
  · obtain ⟨answer, s, ended, hperform, hmissing, hended, hlapses, -⟩ :=
      openLink_grants_nothing overdue_reachable (drawnAt .flow 16) c.token
    refine ⟨answer, s, hperform, fun h => hmissing.mp h c hc rfl, ?_⟩
    rw [hlapses.challenge, hc,
      ← Challenge.lapseAmong_of_mem ((hended c).mpr ⟨hc, rfl, hact, hlive⟩)]
    rfl

end Engine

end Vouch
