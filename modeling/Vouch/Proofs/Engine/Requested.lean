import Vouch.Proofs.Engine.Agreement
import Vouch.Proofs.Engine.Course
import Vouch.Proofs.Engine.Moves
import Vouch.Proofs.Engine.Sections
import Vouch.Proofs.Store.Thrifty

/-!
# What a request answers

What can be read from the store before a request, the time and the random bytes settle its answer
and what can be read afterwards.  A slot that holds the value is not written if the address is
verified or its challenge is live.  In every other case a challenge is issued, which is the only
active one of its slot from then on.
-/

namespace Vouch

/-! ## Slots and challenges -/

namespace MemoryStore

variable {m m' : MemoryStore} {slot : Slot} {value : Contact} {now : Timestamp} {id : AddressId}
  {acc : Account} {f : FlowId} {c d : Challenge}

/-- The challenges of every address are for its slot. -/
def Placed (m : MemoryStore) : Prop :=
  ∀ {f c acc}, Engine.Finds m f c acc → c.slot = acc.record.slot

-- What is found in a slot is the record of the slot's account.
theorem map_accountIn? (m : MemoryStore) (slot : Slot) :
    (m.slots.get? slot).bind m.addresses.get? = (m.accountIn? slot).map fun acc => acc.record := by
  rw [accountIn?]
  cases m.slots.get? slot with
  | none => rfl
  | some id =>
    simp only [Option.bind_some, account?, Option.map_map]
    exact (congrFun Option.map_id _).symm

theorem Addressed.history (h : m.Addressed slot value now id acc) (hi : m.Intact) :
    m.history id = acc.history := by
  cases h with
  | known hacc => exact history_of_account? hacc
  | fresh _ hnone => exact hi.history_of_no_account hnone

-- The challenges of a slot are those of the address in it.
theorem Addressed.address_iff (h : m.Addressed slot value now id acc) (hi : m.Intact)
    (hplaced : m.Placed) (hd : m.challenges.get? f = some d) : d.address = id ↔ d.slot = slot := by
  obtain ⟨owner, hf⟩ := Engine.Finds.of_intact hi hd
  have hslot := hplaced hf
  have hfull := hi.slot_iff.mpr ⟨_, hf.address, hslot.symm⟩
  cases h with
  | known hacc hown =>
    constructor
    · rintro rfl
      rw [hf.account] at hacc
      cases hacc
      exact hslot.trans hown
    · rintro rfl
      have hfull' := hi.slot_iff.mpr ⟨_, get?_of_account? hacc, hown⟩
      exact Option.some.inj (hfull.symm.trans hfull')
  | fresh hempty hnone =>
    constructor
    · rintro rfl
      rw [hf.account] at hnone
      cases hnone
    · rintro rfl
      rw [hfull] at hempty
      cases hempty

-- A slot with challenges is bound to the value of its account.
theorem Addressed.value_iff (h : m.Addressed slot value now id acc) (hi : m.Intact)
    (hplaced : m.Placed) (hd : m.challenges.get? f = some d) (hslot : d.slot = slot) :
    acc.record.value = value ↔ m.bound? slot = some value := by
  cases h with
  | known hacc hown =>
    have hfull := hi.slot_iff.mpr ⟨_, get?_of_account? hacc, hown⟩
    rw [bound?, hfull, Option.bind_some, get?_of_account? hacc, Option.map_some, Option.some.injEq]
  | fresh hempty hnone =>
    obtain ⟨owner, hf⟩ := Engine.Finds.of_intact hi hd
    have hfull := hi.slot_iff.mpr ⟨_, hf.address, (hplaced hf).symm.trans hslot⟩
    rw [hempty] at hfull
    cases hfull

/-- What is found after a challenge was issued for a slot: the challenge, and the others as they
were, except that what was active in the slot has ended. -/
theorem get?_issued (hi : m.Intact) (hi' : m'.Intact) (hplaced : m.Placed)
    (h : m.Addressed slot value now id acc) (hc : c.address = id)
    (hsets : m.Sets id (acc.issue c) m') (f : FlowId) :
    m'.challenges.get? f =
      if f = c.id then some c
      else (m.challenges.get? f).map fun d =>
        if d.slot = slot then
          d.expire (if acc.record.value = c.value then .elapsed else .addressChanged)
        else d := by
  have hhistory := history_of_sets hi hi' hsets
  by_cases hf : f = c.id
  · rw [if_pos hf, hi'.get?_iff, hhistory, if_pos hc]
    exact ⟨List.mem_append_right _ (List.mem_singleton_self c), hf.symm⟩
  · rw [if_neg hf]
    cases hd : m.challenges.get? f with
    | none =>
      refine Option.eq_none_iff_forall_ne_some.mpr fun d hd' => hf ?_
      have hsame := eq_of_issue hi hi' (h.history hi) hsets hd hd'
      rw [← hi'.id_of_challenge hd', hsame]
    | some d =>
      obtain ⟨hmem, hid⟩ := hi.get?_iff.mp hd
      have hhistory := hhistory d.address
      rw [Option.map_some]
      split
      · rename_i hslot
        have haddress := (h.address_iff hi hplaced hd).mpr hslot
        rw [if_pos haddress] at hhistory
        rw [haddress, h.history hi] at hmem
        rw [hi'.get?_iff, Challenge.address_expire, Challenge.id_expire, hhistory]
        exact ⟨List.mem_append_left _ (List.mem_map.mpr ⟨d, hmem, rfl⟩), hid⟩
      · rename_i hslot
        rw [if_neg (mt (h.address_iff hi hplaced hd).mp hslot)] at hhistory
        rw [hi'.get?_iff, hhistory]
        exact ⟨hmem, hid⟩

-- The issue of a challenge fills its slot.
theorem fills_issued (hi : m.Intact) (hi' : m'.Intact) (h : m.Addressed slot value now id acc)
    (hsets : m.Sets id (acc.issue c) m') : m.Fills slot (acc.issue c) m' := by
  refine fills_of_sets hi hi' hsets ?_ fun old hold => ?_
  · cases h with
    | known _ hslot => exact hslot
    | fresh => rfl
  · cases h with
    | known hacc hslot =>
      rw [hacc] at hold
      cases hold
      exact hslot
    | fresh _ hnone =>
      rw [hnone] at hold
      cases hold

end MemoryStore

/-! ## Answers -/

namespace Engine

section Answers

variable {σ ι τ : Type} [VerificationStore σ] [MailTransport τ]

/-- A challenge was issued for a slot on the way from one world to another. -/
structure Issues (e : Engine) (w : World σ ι τ) (slot : Slot) (value : Contact) (c : Challenge)
    (w' : World σ ι τ) : Prop where
  drawn : c.id = ((w.entropy.drawId .address).2.drawId .flow).1
  unknown : VerificationStore.challenge? c.id w.store = .ok none
  active : c.state = .active
  isFor : c.slot = slot ∧ c.value = value
  expiresAt : c.expiresAt = w.now.plus e.policy.challengeLifespan
  flowExpiresAt : c.flowExpiresAt = w.now.plus e.policy.flowLifespan
  /-- It is the one new challenge, and whatever was active in the slot has ended: because its time
  had run out, or because the slot had another value. -/
  challenges (f : FlowId) : VerificationStore.challenge? f w'.store =
    if f = c.id then .ok (some c)
    else (VerificationStore.challenge? f w.store).map (Option.map fun d =>
      if d.slot = slot then
        d.expire (if w.bound? slot = some value then .elapsed else .addressChanged)
      else d)
  record : ∃ a, VerificationStore.addressIn? slot w'.store = .ok (some a) ∧ a.id = c.address ∧
    a.value = value ∧ a.verified = false
  elsewhere (slot' : Slot) : slot' ≠ slot →
    VerificationStore.addressIn? slot' w'.store = VerificationStore.addressIn? slot' w.store
  mailer : w'.mailer = MailTransport.deliver w.now (e.letters c) w.mailer
  identities : w'.identities = w.identities
  now : w'.now = w.now

/-- What comes of a request for a slot that is not refused. -/
inductive Requested (e : Engine) (w : World σ ι τ) (slot : Slot) (value : Contact) :
    RequestOutcome → World σ ι τ → Prop where
  | alreadyVerified {a : Address} :
    VerificationStore.addressIn? slot w.store = .ok (some a) → a.value = value →
      a.verified = true →
      Requested e w slot value .alreadyVerified
        { w with entropy := (w.entropy.drawId .address).2 }
  | resent {a : Address} {c : Challenge} :
    VerificationStore.addressIn? slot w.store = .ok (some a) → a.value = value →
      a.verified = false → VerificationStore.activeFor? a.id w.store = .ok (some c) →
      c.isLive w.now = true →
      Requested e w slot value (.resent c.id)
        { w with
          mailer := MailTransport.deliver w.now (e.letters c) w.mailer
          entropy := (w.entropy.drawId .address).2 }
  | issued {c : Challenge} {w' : World σ ι τ} :
    (∀ a, VerificationStore.addressIn? slot w.store = .ok (some a) → a.value = value →
      a.verified = false ∧ ∀ d, VerificationStore.activeFor? a.id w.store = .ok (some d) →
        d.isLive w.now = false) →
      e.Issues w slot value c w' → Requested e w slot value (.issued c.id) w'

variable {e : Engine} {w w' : World σ ι τ} {slot : Slot} {value : Contact} {c : Challenge}
  {outcome : RequestOutcome}

-- Whatever else is active afterwards is of another slot.
theorem Issues.alone (h : e.Issues w slot value c w') {f : FlowId} {d : Challenge}
    (hd : VerificationStore.challenge? f w'.store = .ok (some d)) (hslot : d.slot = slot)
    (hact : d.isActive = true) : d = c := by
  rw [h.challenges f] at hd
  split at hd
  · exact (Option.some.inj (Except.ok.inj hd)).symm
  · cases hread : VerificationStore.challenge? f w.store with
    | error error =>
      rw [hread] at hd
      cases hd
    | ok found =>
      rw [hread] at hd
      obtain ⟨d', -, hd'⟩ := Option.map_eq_some_iff.mp (Except.ok.inj hd)
      split at hd'
      · rw [← hd', Challenge.isActive_expire] at hact
        cases hact
      · rename_i hother
        exact absurd (hd' ▸ hslot) hother

-- A question has one answer.
omit [VerificationStore σ] [MailTransport τ] in
theorem eq_of_found {α : Type} {x : Except StoreError (Option α)} {a b : α} (ha : x = .ok (some a))
    (hb : x = .ok (some b)) : a = b :=
  Option.some.inj (Except.ok.inj (ha.symm.trans hb))

namespace Requested

variable (h : e.Requested w slot value outcome w')

include h

theorem alreadyVerified_iff : outcome = .alreadyVerified ↔
    ∃ a, VerificationStore.addressIn? slot w.store = .ok (some a) ∧ a.value = value ∧
      a.verified = true := by
  cases h with
  | alreadyVerified ha hvalue hverified =>
    exact ⟨fun _ => ⟨_, ha, hvalue, hverified⟩, fun _ => rfl⟩
  | resent ha _ hverified =>
    refine ⟨fun he => (nomatch he), ?_⟩
    rintro ⟨a, ha', -, hverified'⟩
    obtain rfl := eq_of_found ha ha'
    exact absurd (hverified.symm.trans hverified') Bool.false_ne_true
  | issued hneeded =>
    refine ⟨fun he => (nomatch he), ?_⟩
    rintro ⟨a, ha, hvalue, hverified⟩
    exact absurd ((hneeded a ha hvalue).1.symm.trans hverified) Bool.false_ne_true

theorem resent_iff {flow : FlowId} : outcome = .resent flow ↔
    ∃ a c, VerificationStore.addressIn? slot w.store = .ok (some a) ∧ a.value = value ∧
      a.verified = false ∧ VerificationStore.activeFor? a.id w.store = .ok (some c) ∧
      c.isLive w.now = true ∧ c.id = flow := by
  cases h with
  | alreadyVerified ha _ hverified =>
    refine ⟨fun he => (nomatch he), ?_⟩
    rintro ⟨a, c, ha', -, hverified', -⟩
    obtain rfl := eq_of_found ha ha'
    exact absurd (hverified'.symm.trans hverified) Bool.false_ne_true
  | resent ha hvalue hverified hc hlive =>
    constructor
    · intro he
      exact ⟨_, _, ha, hvalue, hverified, hc, hlive, RequestOutcome.resent.inj he⟩
    · rintro ⟨a, c, ha', -, -, hc', -, rfl⟩
      obtain rfl := eq_of_found ha ha'
      obtain rfl := eq_of_found hc hc'
      rfl
  | issued hneeded =>
    refine ⟨fun he => (nomatch he), ?_⟩
    rintro ⟨a, c, ha, hvalue, -, hc, hlive, -⟩
    exact absurd (((hneeded a ha hvalue).2 c hc).symm.trans hlive) Bool.false_ne_true

end Requested

-- What is resent is the active challenge of the slot, and nothing is stored.
theorem Requested.of_resent {flow : FlowId} (h : e.Requested w slot value (.resent flow) w') :
    ∃ a c, VerificationStore.addressIn? slot w.store = .ok (some a) ∧
      VerificationStore.activeFor? a.id w.store = .ok (some c) ∧ c.id = flow ∧
      w' = { w with
        mailer := MailTransport.deliver w.now (e.letters c) w.mailer
        entropy := (w.entropy.drawId .address).2 } := by
  generalize houtcome : RequestOutcome.resent flow = outcome at h
  cases h with
  | alreadyVerified => cases houtcome
  | resent ha _ _ hc _ =>
    exact ⟨_, _, ha, hc, (RequestOutcome.resent.inj houtcome).symm, rfl⟩
  | issued => cases houtcome

end Answers

/-! ## The answer of a request -/

-- A slot without the value, or with neither trust nor a live challenge, is issued a challenge.
theorem ensured_issues (e : Engine) (slot : Slot) (value : Contact) {found : Option Account}
    {now : Timestamp}
    (hneeded : ∀ acc, found = some acc → acc.record.value = value → acc.record.verified = false ∧
      ∀ c, acc.history.find? (fun c => c.isActive) = some c → c.isLive now = false)
    (entropy : Entropy) :
    (e.ensured slot value found now entropy).outcome =
      .issued ((entropy.drawId .address).2.drawId .flow).1 := by
  cases found with
  | none => rfl
  | some acc =>
    by_cases hvalue : acc.record.value = value
    · obtain ⟨hverified, hactive⟩ := hneeded acc rfl hvalue
      have hentered : Account.entered (.fresh (entropy.drawId .address).1 slot value now)
          (some acc) = acc := if_pos hvalue
      rw [ensured, hentered, challenged, if_neg (by rw [hverified]; exact Bool.false_ne_true)]
      cases hfind : acc.history.find? fun c => c.isActive with
      | none => rfl
      | some c =>
        have hdead : ¬ (c.isLive now = true ∧ c.value = acc.record.value) := fun hlive =>
          Bool.false_ne_true ((hactive c hfind).symm.trans hlive.1)
        simp only [if_neg hdead]
        rfl
    · -- a rebound record is not trusted, and its history has ended
      have hentered : Account.entered (.fresh (entropy.drawId .address).1 slot value now)
          (some acc) = acc.rebind value now := if_neg hvalue
      have hended : (acc.rebind value now).history.find? (fun c => c.isActive) = none :=
        List.find?_eq_none.mpr fun c hc => by
          rw [Challenge.inactive_of_mem_expired hc]
          exact Bool.false_ne_true
      rw [ensured, hentered, challenged, hended]
      rfl

-- What is known of a request that has issued a challenge.
theorem Ensures.of_issued {e : Engine} {m m' : MemoryStore} {slot : Slot} {value : Contact}
    {now : Timestamp} {flow : FlowId} (h : e.Ensures m slot value now (.ok (.issued flow)) m') :
    ∃ id acc c token code, c.id = flow ∧ m.Addressed slot value now id acc ∧
      m.challenges.get? c.id = none ∧
      c = .issue c.id { acc.record with value } token code e.policy now ∧
      m.Sets id (acc.issue c) m' := by
  generalize hanswer : Except.ok (RequestOutcome.issued flow) = answer at h
  cases h with
  | refused => cases hanswer
  | alreadyVerified => cases hanswer
  | resent => cases hanswer
  | @issued id acc c token code _ haddressed _ hnew hc hsets =>
    exact ⟨id, acc, c, token, code, (RequestOutcome.issued.inj (Except.ok.inj hanswer)).symm,
      haddressed, hnew, hc, hsets⟩

open Vouch.Action

variable {σ ι τ : Type} [VerificationStore σ] [MailTransport τ] [Backend σ] {e : Engine}
  {w : World σ ι τ} {m : MemoryStore} {slot : Slot} {value : Contact} {acc : Account}

omit [MailTransport τ] in
theorem addressIn?_read (h : Backend.Shows w.store m) (slot : Slot) :
    VerificationStore.addressIn? slot w.store =
      .ok ((m.accountIn? slot).map fun acc => acc.record) := by
  rw [Backend.addressIn?_eq h, MemoryStore.map_accountIn?]

omit [MailTransport τ] in
theorem activeFor?_read (h : Backend.Shows w.store m) {id : AddressId}
    (hacc : m.account? id = some acc) :
    VerificationStore.activeFor? id w.store = .ok (acc.history.find? fun c => c.isActive) := by
  rw [Backend.activeFor?_eq h, MemoryStore.pointed_eq_find? (Backend.intact h) hacc]

-- What is read after a challenge was issued.
theorem issues_of_sets {w' : World σ ι τ} {m' : MemoryStore} (h : Backend.Shows w.store m)
    (h' : Backend.Shows w'.store m') (hplaced : m.Placed) {id : AddressId} {c : Challenge}
    {token code : String} (haddressed : m.Addressed slot value w.now id acc)
    (hnew : m.challenges.get? c.id = none)
    (hc : c = .issue c.id { acc.record with value } token code e.policy w.now)
    (hsets : m.Sets id (acc.issue c) m')
    (hdrawn : c.id = ((w.entropy.drawId .address).2.drawId .flow).1)
    (hmailer : w'.mailer = MailTransport.deliver w.now (e.letters c) w.mailer)
    (hidentities : w'.identities = w.identities) (hnow : w'.now = w.now) :
    e.Issues w slot value c w' := by
  have hi := Backend.intact h
  have hi' := Backend.intact h'
  have hrecord : acc.record.id = id ∧ acc.record.slot = slot := by
    cases haddressed with
    | known hacc hslot => exact ⟨hi.id_of_account hacc, hslot⟩
    | fresh => exact ⟨rfl, rfl⟩
  have haddress : c.address = id := (congrArg Challenge.address hc).trans hrecord.1
  have hvalue : c.value = value := congrArg Challenge.value hc
  have hfills := MemoryStore.fills_issued hi hi' haddressed hsets
  refine
    { drawn := hdrawn
      unknown := by rw [Backend.challenge?_eq h, hnew]
      active := congrArg Challenge.state hc
      isFor := ⟨(congrArg Challenge.slot hc).trans hrecord.2, hvalue⟩
      expiresAt := congrArg Challenge.expiresAt hc
      flowExpiresAt := congrArg Challenge.flowExpiresAt hc
      challenges := fun f => ?_
      record := ⟨(acc.issue c).record, ?_, hrecord.1.trans haddress.symm, hvalue, rfl⟩
      elsewhere := fun slot' hother => ?_
      mailer := hmailer
      identities := hidentities
      now := hnow }
  · rw [Backend.challenge?_eq h, Backend.challenge?_eq h', World.bound?_eq h,
      MemoryStore.get?_issued hi hi' hplaced haddressed haddress hsets, hvalue]
    split
    · rfl
    · -- which reason it was matters only for challenges of the slot
      cases hd : m.challenges.get? f with
      | none => rfl
      | some d =>
        simp only [Option.map_some, Except.map]
        by_cases hslot : d.slot = slot
        · simp only [if_pos hslot, haddressed.value_iff hi hplaced hd hslot]
        · simp only [if_neg hslot]
  · rw [addressIn?_read h', hfills slot, if_pos rfl]
    rfl
  · rw [addressIn?_read h', addressIn?_read h, hfills slot', if_neg hother]

-- Where the slot holds the value, nothing is written before the record is challenged.
theorem ensureChallenge_held [FirmBackend σ] [ThriftyBackend σ] (h : Backend.Shows w.store m)
    (hacc : m.accountIn? slot = some acc) (hvalue : acc.record.value = value) :
    (e.ensureChallenge slot value : Action σ ι τ _) w =
      (e.challengeRecord acc.record w.now : Action σ ι τ _)
        { w with entropy := (w.entropy.drawId .address).2 } := by
  obtain ⟨hacc, hslot⟩ := (MemoryStore.accountIn?_eq_some_iff (Backend.intact h)).mp hacc
  have hsame : VerificationStore.upsert (.fresh (w.entropy.drawId .address).1 slot value w.now)
      w.store = .ok (.unchanged acc.record, w.store) :=
    ThriftyBackend.upsert_same h hacc hslot hvalue
  exact (ensureChallenge_eq e slot value).trans (bind_of_ok
    (changeStore_of_ok (w := { w with entropy := (w.entropy.drawId .address).2 }) hsame))

-- If the address is verified or its challenge is live, nothing is written after that either.
theorem ensureChallenge_idle [FirmBackend σ] [ThriftyBackend σ] (h : Backend.Shows w.store m)
    (hsound : ∀ {flow c acc}, Finds m flow c acc → Attempt.Sound ⟨c, acc.record⟩)
    (hacc : m.accountIn? slot = some acc) (hvalue : acc.record.value = value)
    (hidle : acc.record.verified = true ∨
      ∃ c, acc.history.find? (fun c => c.isActive) = some c ∧ c.isLive w.now = true) :
    ∃ outcome w', (e.ensureChallenge slot value : Action σ ι τ _).perform w = (.ok outcome, w') ∧
      e.Requested w slot value outcome w' := by
  have hi := Backend.intact h
  have hread : VerificationStore.addressIn? slot w.store = .ok (some acc.record) := by
    rw [addressIn?_read h, hacc]
    rfl
  obtain ⟨haccount, hslot⟩ := (MemoryStore.accountIn?_eq_some_iff hi).mp hacc
  rw [perform_congr (ensureChallenge_held h hacc hvalue)]
  cases hverified : acc.record.verified with
  | true =>
    rw [challengeRecord, if_pos hverified]
    exact ⟨_, _, rfl, .alreadyVerified hread hvalue hverified⟩
  | false =>
    obtain ⟨c, hfind, hlive⟩ := hidle.resolve_left (by rw [hverified]; exact Bool.false_ne_true)
    -- the active challenge of an address is for the value that the address has
    have hmem := List.mem_of_find?_eq_some hfind
    rw [← MemoryStore.history_of_account? haccount] at hmem
    obtain ⟨hget, haddress⟩ := hi.mem_history.mp hmem
    have hf : Finds m c.id c acc := ⟨hget, by rw [haddress]; exact haccount⟩
    have hcontact : c.value = acc.record.value := (hsound hf).value (List.find?_some hfind)
    have hactive := activeFor?_read h haccount
    rw [hfind] at hactive
    rw [perform_congr (challengeRecord_unverified
        (w := { w with entropy := (w.entropy.drawId .address).2 }) e h hverified w.now),
      MemoryStore.pointed_eq_find? hi haccount, hfind]
    simp only [if_pos (And.intro hlive hcontact)]
    have hmail := mailLink_run (w := { w with entropy := (w.entropy.drawId .address).2 }) e c
    rw [perform_congr (bind_of_ok hmail)]
    exact ⟨_, _, rfl, .resent hread hvalue hverified hactive hlive⟩

-- If there is no room for the record, nothing is written.
theorem ensureChallenge_no_room [FirmBackend σ] [ThriftyBackend σ] (e : Engine)
    (h : Backend.Shows w.store m) (hfits : ¬ FirmBackend.Fits σ slot value) :
    (e.ensureChallenge slot value : Action σ ι τ _).perform w =
      (.error (.store .badKeySize), { w with entropy := (w.entropy.drawId .address).2 }) := by
  have hrefused : VerificationStore.upsert (.fresh (w.entropy.drawId .address).1 slot value w.now)
      w.store = .error .badKeySize := ThriftyBackend.upsert_of_not_fits h hfits
  exact perform_of_error (ensureChallenge_refused e hrefused)

/-- A request that is not refused is answered by one of the three answers, and leaves behind what
that answer says. -/
theorem ensureChallenge_requested [FirmBackend σ] [ThriftyBackend σ]
    (h : Backend.Shows w.store m)
    (hsound : ∀ {flow c acc}, Finds m flow c acc → Attempt.Sound ⟨c, acc.record⟩)
    (hdraws : w.DrawsUnknown ((e.ensureChallenge slot value : Action σ ι τ _).perform w).2)
    (hfits : FirmBackend.Fits σ slot value) :
    ∃ outcome w', (e.ensureChallenge slot value : Action σ ι τ _).perform w = (.ok outcome, w') ∧
      e.Requested w slot value outcome w' := by
  by_cases hidle : ∃ acc, m.accountIn? slot = some acc ∧ acc.record.value = value ∧
      (acc.record.verified = true ∨
        ∃ c, acc.history.find? (fun c => c.isActive) = some c ∧ c.isLive w.now = true)
  · obtain ⟨acc, hacc, hvalue, hidle⟩ := hidle
    exact ensureChallenge_idle h hsound hacc hvalue hidle
  · have hneeded : ∀ acc, m.accountIn? slot = some acc → acc.record.value = value →
        acc.record.verified = false ∧
          ∀ c, acc.history.find? (fun c => c.isActive) = some c → c.isLive w.now = false := by
      intro acc hacc hvalue
      refine ⟨?_, fun c hc => ?_⟩
      · exact Bool.eq_false_iff.mpr fun hverified => hidle ⟨acc, hacc, hvalue, .inl hverified⟩
      · exact Bool.eq_false_iff.mpr fun hlive => hidle ⟨acc, hacc, hvalue, .inr ⟨c, hc, hlive⟩⟩
    have houtcome := e.ensured_issues slot value hneeded w.entropy
    obtain ⟨s, m₁, hrun, -⟩ := ensureChallenge_takes e h hdraws
      (FirmBackend.upsert_of_fits h (candidate_unknown h hdraws) hfits)
    obtain ⟨m', hshows', hensures, hmailer⟩ := Operation.ensureChallenge_ends e h hdraws
    rw [houtcome] at hrun
    rw [perform_of_ok hrun] at hshows' hensures hmailer ⊢
    obtain ⟨id, acc, c, token, code, hid, haddressed, hnew, hc, hsets⟩ := hensures.of_issued
    have hletters := e.mailsFor_eq (.issued c.id) (Backend.intact hshows') hsets.get?
      (List.mem_append_right _ (List.mem_singleton_self c)) rfl
    rw [← hid, hletters] at hmailer
    have hissues := issues_of_sets h hshows' (fun hf => (hsound hf).slot) haddressed hnew hc hsets
      hid hmailer rfl rfl
    rw [← hid]
    refine ⟨_, _, rfl, .issued (fun a ha hvalue => ?_) hissues⟩
    rw [addressIn?_read h] at ha
    obtain ⟨found, hfound, rfl⟩ := Option.map_eq_some_iff.mp (Except.ok.inj ha)
    obtain ⟨hverified, hactive⟩ := hneeded found hfound hvalue
    refine ⟨hverified, fun d hd => hactive d ?_⟩
    rw [activeFor?_read h ((MemoryStore.accountIn?_eq_some_iff (Backend.intact h)).mp hfound).1]
      at hd
    exact Except.ok.inj hd

end Engine

end Vouch
