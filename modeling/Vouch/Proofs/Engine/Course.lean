import Vouch.Proofs.Engine.Operation

/-!
# The course of a request

What a request answers, mails and leaves behind is a function of the account in its slot, of the
time and of the random bytes, given here; the lemmas say that the engine computes it.  A request
writes that account and no other.
-/

namespace Vouch

/-! ## Slots -/

namespace MemoryStore

/-- The account of the address that a slot holds. -/
def accountIn? (slot : Slot) (m : MemoryStore) : Option Account :=
  (m.slots.get? slot).bind m.account?

variable {m m' : MemoryStore} {slot : Slot} {id : AddressId} {acc : Account}

theorem accountIn?_eq_some_iff (hi : m.Intact) : m.accountIn? slot = some acc ↔
    m.account? acc.record.id = some acc ∧ acc.record.slot = slot := by
  rw [accountIn?, Option.bind_eq_some_iff]
  constructor
  · rintro ⟨id, hslot, hacc⟩
    obtain ⟨a, ha, haslot⟩ := hi.slot_iff.mp hslot
    rw [get?_of_account? hacc] at ha
    cases ha
    rw [hi.id_of_account hacc]
    exact ⟨hacc, haslot⟩
  · rintro ⟨hacc, hslot⟩
    exact ⟨acc.record.id, hi.slot_iff.mpr ⟨_, get?_of_account? hacc, hslot⟩, hacc⟩

theorem accountIn?_eq_none_iff (hi : m.Intact) :
    m.accountIn? slot = none ↔ m.slots.get? slot = none := by
  rw [accountIn?, Option.bind_eq_none_iff]
  constructor
  · intro h
    cases hslot : m.slots.get? slot with
    | none => rfl
    | some id =>
      obtain ⟨a, ha, -⟩ := hi.slot_iff.mp hslot
      rw [account?_eq_none_iff.mp (h id hslot)] at ha
      cases ha
  · intro h id hslot
    rw [h] at hslot
    cases hslot

theorem accountIn?_of_account? (hi : m.Intact) (hacc : m.account? id = some acc) :
    m.accountIn? acc.record.slot = some acc := by
  rw [accountIn?_eq_some_iff hi, hi.id_of_account hacc]
  exact ⟨hacc, rfl⟩

/-- All slots hold what they held, but for one. -/
def Fills (m : MemoryStore) (slot : Slot) (acc : Account) (m' : MemoryStore) : Prop :=
  ∀ slot', m'.accountIn? slot' = if slot' = slot then some acc else m.accountIn? slot'

/-- An account that stays in its slot changes no other slot. -/
theorem fills_of_sets (hi : m.Intact) (hi' : m'.Intact) (hsets : m.Sets id acc m')
    (hslot : acc.record.slot = slot)
    (hstays : ∀ old, m.account? id = some old → old.record.slot = slot) :
    m.Fills slot acc m' := by
  intro slot'
  split
  · rename_i hsame
    rw [hsame, ← hslot]
    exact accountIn?_of_account? hi' hsets.get?
  · rename_i hother
    refine Option.ext fun found => ?_
    rw [accountIn?_eq_some_iff hi, accountIn?_eq_some_iff hi', hsets found.record.id]
    by_cases hfound : found.record.id = id
    · -- the account that changes is in its own slot, before and after
      rw [if_pos hfound, hfound]
      constructor
      · rintro ⟨he, rfl⟩
        rw [Option.some.inj he] at hslot
        exact absurd hslot hother
      · rintro ⟨he, rfl⟩
        exact absurd (hstays found he) hother
    · rw [if_neg hfound]

-- The pointer of an address leads to the challenge of its history that is active.
theorem pointed_eq_find? (hi : m.Intact) (hacc : m.account? id = some acc) :
    (m.active.get? id).bind m.challenges.get? = acc.history.find? fun c => c.isActive := by
  have hhistory := history_of_account? hacc
  cases hp : m.active.get? id with
  | none =>
    refine (List.find?_eq_none.mpr fun c hc => ?_).symm
    rw [← hhistory] at hc
    rw [hi.inactive_of_no_pointer hp hc]
    exact Bool.false_ne_true
  | some f =>
    obtain ⟨c, hc, haddress, hact⟩ := hi.active_iff.mp hp
    rw [Option.bind_some, hc]
    cases hfind : acc.history.find? fun c => c.isActive with
    | none =>
      have hmem : c ∈ acc.history := by
        rw [← hhistory, hi.mem_history, hi.id_of_challenge hc]
        exact ⟨hc, haddress⟩
      exact absurd hact (List.find?_eq_none.mp hfind c hmem)
    | some d =>
      have hd := List.mem_of_find?_eq_some hfind
      rw [← hhistory] at hd
      obtain ⟨hget, hdaddress⟩ := hi.mem_history.mp hd
      rw [hi.eq_of_active hc hget (haddress.trans hdaddress.symm) hact (List.find?_some hfind)]

end MemoryStore

/-! ## Entering a record -/

/-- The account of a slot once it holds the value of a candidate. -/
def Account.entered (candidate : Address) : Option Account → Account
  | none => ⟨candidate, []⟩
  | some acc =>
    if acc.record.value = candidate.value then acc
    else acc.rebind candidate.value candidate.updatedAt

namespace Account

variable {candidate : Address} {acc : Account} {found : Option Account}

theorem slot_entered (h : ∀ acc, found = some acc → acc.record.slot = candidate.slot) :
    (entered candidate found).record.slot = candidate.slot := by
  cases found with
  | none => rfl
  | some acc =>
    rw [entered]
    split <;> exact h acc rfl

theorem id_entered (candidate : Address) (acc : Account) :
    (entered candidate (some acc)).record.id = acc.record.id := by
  rw [entered]
  split <;> rfl

end Account

-- What is stored under the identifier of the entered record is in its slot.
theorem MemoryStore.Intact.slot_of_entered {m : MemoryStore} (hi : m.Intact) {candidate : Address}
    (hnew : m.addresses.get? candidate.id = none) {old : Account}
    (hold : m.account? (Account.entered candidate (m.accountIn? candidate.slot)).record.id =
      some old) : old.record.slot = candidate.slot := by
  cases hfound : m.accountIn? candidate.slot with
  | none =>
    rw [hfound, Account.entered, account?_eq_none_iff.mpr hnew] at hold
    cases hold
  | some acc =>
    obtain ⟨hacc, hslot⟩ := (accountIn?_eq_some_iff hi).mp hfound
    rw [hfound, Account.id_entered, hacc] at hold
    cases hold
    exact hslot

theorem Backend.upsert_entered {σ : Type} [VerificationStore σ] [Backend σ] {s : σ}
    {m : MemoryStore} (h : Shows s m) (candidate : Address)
    (hnew : m.addresses.get? candidate.id = none) :
    VerificationStore.upsert candidate s = .error .badKeySize ∨
      ∃ out s' m', VerificationStore.upsert candidate s = .ok (out, s') ∧ Shows s' m' ∧
        (∀ f, m'.challenges.get? f = none ↔ m.challenges.get? f = none) ∧
        out.address = (Account.entered candidate (m.accountIn? candidate.slot)).record ∧
        m.Sets out.address.id (Account.entered candidate (m.accountIn? candidate.slot)) m' := by
  have hi := intact h
  rcases upsert_upserts h fun _ => hnew with hrefused | ⟨out, s', m', hup, hshows, hupserts⟩
  · exact .inl hrefused
  · have hflows := MemoryStore.flows_upserts hi (intact hshows) hupserts fun _ => hnew
    refine .inr ⟨out, s', m', hup, hshows,
      MemoryStore.unknown_iff_of_flows hi (intact hshows) hflows, ?_⟩
    cases hupserts with
    | created hslot hsets =>
      rw [(MemoryStore.accountIn?_eq_none_iff hi).mpr hslot]
      exact ⟨rfl, hsets⟩
    | unchanged hacc hslot hvalue =>
      rw [← hslot, MemoryStore.accountIn?_of_account? hi hacc, Account.entered, if_pos hvalue,
        Upserted.address, hi.id_of_account hacc]
      exact ⟨rfl, MemoryStore.sets_self hacc⟩
    | rebound hacc hslot hvalue hsets =>
      rw [← hslot, MemoryStore.accountIn?_of_account? hi hacc, Account.entered, if_neg hvalue,
        Upserted.address, Address.id_rebind, hi.id_of_account hacc]
      exact ⟨rfl, hsets⟩

namespace Engine

/-! ## The course -/

/-- What a request answers, and what it leaves behind. -/
structure Course where
  outcome : RequestOutcome
  account : Account
  mails : List Mail
  entropy : Entropy

/-- A new challenge for an account. -/
def issued (e : Engine) (acc : Account) (now : Timestamp) (entropy : Entropy) : Course :=
  let flow := entropy.drawId .flow
  let secret := Secret.issue acc.record.channel flow.1 flow.2
  let c := Challenge.issue flow.1 acc.record secret.1.token secret.1.code e.policy now
  ⟨.issued c.id, acc.add c, e.letters c, secret.2⟩

/-- What follows once the slot holds the value. -/
def challenged (e : Engine) (acc : Account) (now : Timestamp) (entropy : Entropy) : Course :=
  if acc.record.verified then ⟨.alreadyVerified, acc, [], entropy⟩
  else
    match acc.history.find? fun c => c.isActive with
    | none => e.issued acc now entropy
    | some c =>
      if c.isLive now ∧ c.value = acc.record.value then
        ⟨.resent c.id, acc, e.letters c, entropy⟩
      else e.issued (acc.amend (Attempt.expire ⟨c, acc.record⟩ .elapsed now)) now entropy

/-- The course of a request for a slot, given the account that the slot holds. -/
def ensured (e : Engine) (slot : Slot) (value : Contact) (found : Option Account)
    (now : Timestamp) (entropy : Entropy) : Course :=
  let id := entropy.drawId .address
  e.challenged (.entered (.fresh id.1 slot value now) found) now id.2

open Vouch.Action

variable {σ ι τ : Type} [VerificationStore σ] [MailTransport τ] [Backend σ] {w : World σ ι τ}
  {m : MemoryStore} {acc : Account} {slot : Slot} {value : Contact}

/-- The action takes a course, and leaves a store behind that has a property. -/
def Takes (x : Action σ ι τ RequestOutcome) (w : World σ ι τ) (course : Course)
    (P : MemoryStore → Prop) : Prop :=
  ∃ s m', x w = .ok course.outcome
      { w with
        store := s
        mailer := MailTransport.deliver w.now course.mails w.mailer
        entropy := course.entropy } ∧
    Backend.Shows s m' ∧ P m'

theorem issueChallenge_takes (e : Engine) (h : Backend.Shows w.store m)
    (hacc : m.account? acc.record.id = some acc)
    (hnew : m.challenges.get? (w.entropy.drawId .flow).1 = none) :
    Takes (do return .issued (← e.issueChallenge acc.record) : Action σ ι τ RequestOutcome) w
      (e.issued acc w.now w.entropy)
      (m.Sets acc.record.id (e.issued acc w.now w.entropy).account) := by
  have hsecret := Secret.textFits_issue acc.record.channel (w.entropy.drawId .flow).1
    (w.entropy.drawId .flow).2
  have hstorable : Backend.Storable σ (e.drawChallenge acc.record w).1 :=
    Backend.storable_issue h (MemoryStore.get?_of_account? hacc) hsecret.1 hsecret.2
  obtain ⟨superseded, s, m', hcreate, hshows, hsets⟩ :=
    Backend.create_new h hstorable rfl hnew hacc
  exact ⟨s, m', bind_of_ok (issueChallenge_of_ok e acc.record hcreate), hshows, hsets⟩

-- A record whose active challenge can no longer be used is given another one.
theorem replaceChallenge_takes (e : Engine) (h : Backend.Shows w.store m)
    (hacc : m.account? acc.record.id = some acc) {c : Challenge}
    (hc : m.challenges.get? c.id = some c) (haddress : c.address = acc.record.id)
    (hnew : m.challenges.get? (w.entropy.drawId .flow).1 = none) :
    Takes (do
        let _ ← changeStore (VerificationStore.expire c.id .elapsed w.now)
        return .issued (← e.issueChallenge acc.record) : Action σ ι τ RequestOutcome) w
      (e.issued (acc.amend (Attempt.expire ⟨c, acc.record⟩ .elapsed w.now)) w.now w.entropy)
      (m.Sets acc.record.id (e.issued (acc.amend (Attempt.expire ⟨c, acc.record⟩ .elapsed w.now))
        w.now w.entropy).account) := by
  have hi := Backend.intact h
  obtain ⟨s, m₁, hexpire, hshows₁, hsets₁⟩ :=
    Backend.expire_known h hc (by rw [haddress]; exact hacc) .elapsed w.now
  rw [haddress] at hsets₁
  have hbind : acc.record.SameBinding
      (acc.amend (Attempt.expire ⟨c, acc.record⟩ .elapsed w.now)).record :=
    (Attempt.expire_amends ⟨c, acc.record⟩ w.now .elapsed).address
  have hflows : ∀ id, m₁.flows id = m.flows id := by
    refine MemoryStore.flows_of_sets hi (Backend.intact hshows₁) hsets₁ ?_
    rw [MemoryStore.flows_amend, MemoryStore.flows, MemoryStore.history_of_account? hacc]
  have hnew₁ : m₁.challenges.get? (w.entropy.drawId .flow).1 = none :=
    (MemoryStore.unknown_iff_of_flows hi (Backend.intact hshows₁) hflows _).mpr hnew
  have hacc₁ := hsets₁.get?
  rw [← hbind.id] at hacc₁
  obtain ⟨s', m', hrun, hshows, hsets⟩ :=
    issueChallenge_takes (w := { w with store := s }) e hshows₁ hacc₁ hnew₁
  rw [hbind.id] at hsets
  rw [issueChallenge_sameBinding e hbind] at hrun
  exact ⟨s', m', (bind_of_ok (changeStore_of_ok hexpire)).trans hrun, hshows,
    hsets₁.trans hsets⟩

/-- A stored record is challenged, if the flow's identifier is not taken where one is drawn. -/
theorem challengeRecord_takes (e : Engine) (h : Backend.Shows w.store m)
    (hacc : m.account? acc.record.id = some acc)
    (hnew : w.entropy.drawn <
        ((e.challengeRecord acc.record w.now : Action σ ι τ _).perform w).2.entropy.drawn →
      m.challenges.get? (w.entropy.drawId .flow).1 = none) :
    Takes (e.challengeRecord acc.record w.now : Action σ ι τ _) w
      (e.challenged acc w.now w.entropy)
      (m.Sets acc.record.id (e.challenged acc w.now w.entropy).account) := by
  have hi := Backend.intact h
  rw [challenged]
  cases hverified : acc.record.verified with
  | true =>
    refine ⟨w.store, m, ?_, h, MemoryStore.sets_self hacc⟩
    rw [challengeRecord, if_pos hverified]
    rfl
  | false =>
    have hrun := challengeRecord_unverified (ι := ι) (τ := τ) e h hverified w.now
    rw [perform_congr hrun] at hnew
    rw [Takes, hrun, if_neg Bool.false_ne_true]
    rw [MemoryStore.pointed_eq_find? hi hacc] at hnew ⊢
    cases hfind : acc.history.find? fun c => c.isActive with
    | none =>
      simp only [hfind] at hnew ⊢
      rw [issueChallenge_drawn] at hnew
      exact issueChallenge_takes e h hacc (hnew (Nat.lt_add_of_pos_right (by decide)))
    | some c =>
      simp only [hfind] at hnew ⊢
      have hmem := List.mem_of_find?_eq_some hfind
      rw [← MemoryStore.history_of_account? hacc] at hmem
      obtain ⟨hget, haddress⟩ := hi.mem_history.mp hmem
      by_cases hlive : c.isLive w.now ∧ c.value = acc.record.value
      · rw [if_pos hlive, if_pos hlive]
        exact ⟨w.store, m, bind_of_ok (mailLink_run e c), h, MemoryStore.sets_self hacc⟩
      · rw [if_neg hlive] at hnew ⊢
        rw [if_neg hlive]
        refine replaceChallenge_takes e h hacc hget haddress (hnew ?_)
        obtain ⟨s, m₁, hexpire, -⟩ :=
          Backend.expire_known h hget (by rw [haddress]; exact hacc) .elapsed w.now
        rw [perform_congr (bind_of_ok (changeStore_of_ok hexpire)), issueChallenge_drawn]
        exact Nat.lt_add_of_pos_right (by decide)

omit [VerificationStore σ] [MailTransport τ] [Backend σ] in
theorem slot_challenged (e : Engine) (acc : Account) (now : Timestamp) (entropy : Entropy) :
    (e.challenged acc now entropy).account.record.slot = acc.record.slot := by
  rw [challenged]
  split
  · rfl
  · split
    · rfl
    · rename_i c _
      split
      · rfl
      · exact (Attempt.expire_amends ⟨c, acc.record⟩ now .elapsed).address.slot

-- The identifier of the record that a request enters is new.
theorem candidate_unknown {e : Engine} (h : Backend.Shows w.store m)
    (hdraws : w.DrawsUnknown ((e.ensureChallenge slot value : Action σ ι τ _).perform w).2) :
    m.addresses.get? (w.entropy.drawId .address).1 = none := by
  have haddress := hdraws.address (e.ensureChallenge_drawn slot value)
  rw [Backend.address?_eq h] at haddress
  exact Except.ok.inj haddress

omit [Backend σ] in
-- The backend may refuse the record of a request.  Only the identifier was drawn by then.
theorem ensureChallenge_refused (e : Engine) {cause : StoreError}
    (hrefused : VerificationStore.upsert
      (.fresh (w.entropy.drawId .address).1 slot value w.now) w.store = .error cause) :
    (e.ensureChallenge slot value : Action σ ι τ _) w =
      .error (.store cause) { w with entropy := (w.entropy.drawId .address).2 } :=
  (ensureChallenge_eq e slot value).trans (bind_of_error (changeStore_of_error hrefused))

/-- A request whose record is not refused takes its course, and fills its slot. -/
theorem ensureChallenge_takes (e : Engine) (h : Backend.Shows w.store m)
    (hdraws : w.DrawsUnknown ((e.ensureChallenge slot value : Action σ ι τ _).perform w).2)
    (hroom : VerificationStore.upsert
      (.fresh (w.entropy.drawId .address).1 slot value w.now) w.store ≠ .error .badKeySize) :
    Takes (e.ensureChallenge slot value : Action σ ι τ _) w
      (e.ensured slot value (m.accountIn? slot) w.now w.entropy)
      (m.Fills slot (e.ensured slot value (m.accountIn? slot) w.now w.entropy).account) := by
  have hi := Backend.intact h
  have hnew := candidate_unknown h hdraws
  let candidate : Address := .fresh (w.entropy.drawId .address).1 slot value w.now
  obtain ⟨out, s, m₁, hup, hshows₁, hunknown, hrecord, hsets₁⟩ :=
    (Backend.upsert_entered h candidate hnew).resolve_left hroom
  have hrun := (ensureChallenge_eq (w := w) e slot value).trans (bind_of_ok (changeStore_of_ok hup))
  have hflow := hdraws.flow
  rw [perform_congr hrun, Backend.challenge?_eq h] at hflow
  rw [hrecord] at hflow hrun hsets₁
  obtain ⟨s', m', hrun', hshows', hsets'⟩ := challengeRecord_takes
    (w := { w with store := s, entropy := (w.entropy.drawId .address).2 }) e hshows₁
    hsets₁.get? fun hdrawn => (hunknown _).mpr (Except.ok.inj (hflow hdrawn))
  have hentered : (Account.entered candidate (m.accountIn? candidate.slot)).record.slot = slot :=
    Account.slot_entered fun acc hacc => ((MemoryStore.accountIn?_eq_some_iff hi).mp hacc).2
  have hslot : (e.ensured slot value (m.accountIn? slot) w.now w.entropy).account.record.slot =
      slot := (slot_challenged e _ _ _).trans hentered
  exact ⟨s', m', hrun.trans hrun', hshows',
    MemoryStore.fills_of_sets hi (Backend.intact hshows') (hsets₁.trans hsets') hslot
      fun _ => hi.slot_of_entered hnew⟩

end Engine

end Vouch
