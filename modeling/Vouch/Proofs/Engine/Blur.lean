import Vouch.Proofs.Engine.Issue
import Vouch.Proofs.Engine.Outcome

/-!
# How a challenge lapsed

A challenge that has run out of time is ended by whatever comes across it first: its link, a code,
a sweep, or the request that replaces it.  Which of them it was can be seen in the reason of its
end and in what its address notes of that, and nowhere else.  `blur` forgets just this; whatever
the engine answers and writes is the same up to it.
-/

namespace Vouch

/-! ## Forgetting -/

namespace Challenge

/-- Whether the challenge has expired, be it recorded or only by the clock, and not for want of
attempts. -/
def lapsed (c : Challenge) (now : Timestamp) : Bool :=
  match c.state with
  | .active => !c.isLive now
  | .expired => c.expiredReason ≠ some .attemptsExhausted
  | .completed => false

/-- The challenge without how it lapsed. -/
def blur (now : Timestamp) (c : Challenge) : Challenge :=
  if c.lapsed now then { c with state := .expired, expiredReason := none } else c

end Challenge

/-- The record without what it notes of an attempt that failed. -/
def Address.blur (a : Address) : Address :=
  if a.verified then a else { a with status := .unverified, updatedAt := .epoch }

def Attempt.blur (now : Timestamp) (p : Attempt) : Attempt :=
  ⟨p.challenge.blur now, p.address.blur⟩

def Account.blur (now : Timestamp) (acc : Account) : Account :=
  ⟨acc.record.blur, acc.history.map fun c => c.blur now⟩

/-- The context without the reason of the end. -/
def ExpiredContext.blur (context : ExpiredContext) : ExpiredContext :=
  { context with address := context.address.blur, reason := .elapsed }

def VerificationError.blur : VerificationError → VerificationError
  | .expiredFlow context => .expiredFlow context.blur
  | error => error

/-- What was answered and left behind, up to how a challenge lapsed. -/
def Attempt.blurOutcome {α : Type} (now : Timestamp)
    (out : Except VerificationError α × Attempt) : Except VerificationError α × Attempt :=
  (out.1.mapError VerificationError.blur, out.2.blur now)

/-! ## Challenges -/

namespace Challenge

variable {c d : Challenge} {now later : Timestamp}

theorem blur_of_lapsed (h : c.lapsed now = true) :
    c.blur now = { c with state := .expired, expiredReason := none } := if_pos h

theorem blur_of_not_lapsed (h : c.lapsed now = false) : c.blur now = c :=
  if_neg (by rw [h]; exact Bool.false_ne_true)

-- Only that is forgotten which a challenge may lose anyway.
theorem sameIssue_blur (now : Timestamp) (c : Challenge) : c.SameIssue (c.blur now) := by
  unfold blur
  split <;> rfl

@[simp] theorem id_blur (now : Timestamp) (c : Challenge) : (c.blur now).id = c.id :=
  (c.sameIssue_blur now).id

theorem lapsed_blur (now : Timestamp) (c : Challenge) :
    (c.blur now).lapsed now = c.lapsed now := by
  cases h : c.lapsed now with
  | true => rw [blur_of_lapsed h]; rfl
  | false => rw [blur_of_not_lapsed h, h]

@[simp] theorem blur_blur (now : Timestamp) (c : Challenge) :
    (c.blur now).blur now = c.blur now := by
  cases h : c.lapsed now with
  | true => rw [blur_of_lapsed ((lapsed_blur now c).trans h), blur_of_lapsed h]
  | false => rw [blur_of_not_lapsed h, blur_of_not_lapsed h]

theorem lapsed_of_isLive (h : c.isLive now = true) : c.lapsed now = false := by
  simp only [lapsed, active_of_isLive h, h, Bool.not_true]

-- The time of a lapsed challenge is over.
theorem isLive_of_lapsed (h : c.lapsed now = true) : c.isLive now = false := by
  cases hl : c.isLive now with
  | false => rfl
  | true =>
    rw [lapsed_of_isLive hl] at h
    cases h

theorem blur_of_isLive (h : c.isLive now = true) : c.blur now = c :=
  blur_of_not_lapsed (lapsed_of_isLive h)

-- A live challenge is seen as it is, and nothing else looks like it.
theorem eq_of_blur_eq (h : c.blur now = d.blur now) (hlive : c.isLive now = true) : d = c := by
  rw [blur_of_isLive hlive] at h
  have hd : d.lapsed now = false := by
    rw [← lapsed_blur, ← h]
    exact lapsed_of_isLive hlive
  rw [h, blur_of_not_lapsed hd]

theorem lapsed_expire_of_isActive (h : c.isActive = true) {reason : ExpiredReason}
    (hreason : reason ≠ .attemptsExhausted) : (c.expire reason).lapsed now = true := by
  rw [Attempt.expire_of_isActive h]
  simpa [lapsed] using hreason

-- To end a challenge whose time is over changes nothing that is seen.
theorem blur_expire_of_not_live (h : c.isLive now = false) {reason : ExpiredReason}
    (hreason : reason ≠ .attemptsExhausted) : (c.expire reason).blur now = c.blur now := by
  cases hact : c.isActive with
  | false => rw [Attempt.expire_of_isActive_eq_false hact]
  | true =>
    have hlapsed : c.lapsed now = true := by
      simp only [lapsed, isActive_iff.mp hact, h, Bool.not_false]
    rw [blur_of_lapsed (lapsed_expire_of_isActive hact hreason), blur_of_lapsed hlapsed,
      Attempt.expire_of_isActive hact]

-- What a challenge looks like once it was ended depends on what it looked like before.
theorem blur_expire (c : Challenge) (reason : ExpiredReason)
    (hreason : reason ≠ .attemptsExhausted) :
    ((c.blur now).expire reason).blur now = (c.expire reason).blur now := by
  cases h : c.lapsed now with
  | false => rw [blur_of_not_lapsed h]
  | true =>
    have hblur : (c.blur now).isLive now = false :=
      isLive_of_lapsed ((lapsed_blur now c).trans h)
    rw [blur_expire_of_not_live hblur hreason, blur_blur,
      blur_expire_of_not_live (isLive_of_lapsed h) hreason]

theorem isLive_antitone (h : now.secs ≤ later.secs) (hlive : c.isLive later = true) :
    c.isLive now = true := by
  simp only [isLive, tokenElapsed, flowElapsed, Timestamp.isReached, Bool.and_eq_true,
    Bool.not_eq_true', decide_eq_false_iff_not] at hlive ⊢
  exact ⟨⟨hlive.1.1, fun he => hlive.1.2 (UInt64.le_trans he h)⟩,
    fun he => hlive.2 (UInt64.le_trans he h)⟩

theorem lapsed_mono (h : now.secs ≤ later.secs) (hlapsed : c.lapsed now = true) :
    c.lapsed later = true := by
  cases hs : c.state with
  | active =>
    simp only [lapsed, hs, Bool.not_eq_true'] at hlapsed ⊢
    cases hl : c.isLive later with
    | false => rfl
    | true =>
      rw [isLive_antitone h hl] at hlapsed
      cases hlapsed
  | completed => simp only [lapsed, hs, Bool.false_eq_true] at hlapsed
  | expired => simpa only [lapsed, hs] using hlapsed

-- What is forgotten early need not be forgotten later.
theorem blur_later (h : now.secs ≤ later.secs) (c : Challenge) :
    (c.blur now).blur later = c.blur later := by
  cases hc : c.lapsed now with
  | false => rw [blur_of_not_lapsed hc]
  | true =>
    have hblur := lapsed_mono h ((lapsed_blur now c).trans hc)
    rw [blur_of_lapsed hblur, blur_of_lapsed hc, blur_of_lapsed (lapsed_mono h hc)]

end Challenge

/-! ## Addresses -/

namespace Address

variable {a : Address}

theorem blur_of_verified (h : a.verified = true) : a.blur = a := if_pos h

theorem blur_of_unverified (h : a.verified = false) :
    a.blur = { a with status := .unverified, updatedAt := .epoch } :=
  if_neg (by rw [h]; exact Bool.false_ne_true)

theorem sameBinding_blur (a : Address) : a.SameBinding a.blur := by
  unfold blur
  split <;> rfl

@[simp] theorem verified_blur (a : Address) : a.blur.verified = a.verified := by
  unfold blur
  split <;> rfl

@[simp] theorem verifiedAt_blur (a : Address) : a.blur.verifiedAt = a.verifiedAt := by
  unfold blur
  split <;> rfl

@[simp] theorem blur_blur (a : Address) : a.blur.blur = a.blur := by
  cases h : a.verified with
  | true => rw [blur_of_verified (a.verified_blur.trans h)]
  | false => rw [blur_of_unverified (a.verified_blur.trans h), blur_of_unverified h]

/-! Whatever is noted of a failed attempt is written over by everything else. -/

@[simp] theorem rebind_blur (a : Address) (value : Contact) (now : Timestamp) :
    a.blur.rebind value now = a.rebind value now := by
  unfold blur
  split <;> rfl

@[simp] theorem markPending_blur (a : Address) (now : Timestamp) :
    a.blur.markPending now = a.markPending now := by
  cases h : a.verified with
  | true => rw [blur_of_verified h]
  | false => simp only [blur_of_unverified h, markPending, h, Bool.false_eq_true, if_false]

@[simp] theorem markVerified_blur (a : Address) (now : Timestamp) :
    a.blur.markVerified now = a.markVerified now := by
  unfold blur
  split <;> rfl

@[simp] theorem blur_markAttemptExpired (a : Address) (value : Contact) (now : Timestamp) :
    (a.markAttemptExpired value now).blur = a.blur := by
  unfold markAttemptExpired
  split
  · rfl
  · rename_i h
    have hverified : a.verified = false := by simpa using fun he => h (.inl he)
    rw [blur_of_unverified hverified]
    exact blur_of_unverified hverified

end Address

/-! ## What is answered -/

namespace Attempt

variable {α : Type} {p : Attempt} {now : Timestamp}

theorem vouchesFor_blur (c : Challenge) (a : Address) : c.vouchesFor a.blur = c.vouchesFor a := by
  have ha := a.sameBinding_blur
  simp only [Challenge.vouchesFor, ha.id, ha.value, a.verified_blur]

-- To end a challenge whose time is over changes nothing that is seen of the attempt.
theorem blur_expire_of_not_live (h : p.challenge.isLive now = false) :
    (p.expire .elapsed now).blur now = p.blur now := by
  cases hact : p.challenge.isActive with
  | false => rw [(p.expire_amends now .elapsed).ended hact]
  | true =>
    rw [expire_elapsed p now hact, blur, blur, Address.blur_markAttemptExpired,
      Challenge.blur_expire_of_not_live h (by decide)]

-- The answer for an expired challenge does not tell how it expired.
theorem lapsed_blur (p : Attempt) (now : Timestamp) :
    blurOutcome now ((p.blur now).lapsed (α := α)) = blurOutcome now p.lapsed := by
  have hc := p.challenge.sameIssue_blur now
  have hlapsed (p : Attempt) : blurOutcome now (p.lapsed (α := α)) =
      (.error (.blur (Engine.expiredError p (p.challenge.expiredReason.getD .addressChanged))),
        p.blur now) := rfl
  simp only [hlapsed, Engine.expiredError, blur, VerificationError.blur, ExpiredContext.blur,
    ExpiredContext.ofChallenge, hc.id, hc.identity, hc.value, Challenge.blur_blur,
    Address.blur_blur]

theorem blurOutcome_lapsed {q : Attempt} (h : p.blur now = q.blur now) :
    blurOutcome now (p.lapsed (α := α)) = blurOutcome now q.lapsed := by
  rw [← lapsed_blur p, h, lapsed_blur q]

-- A lapsed challenge is answered for as such, by its link and by every code.
theorem opened_of_lapsed (h : p.challenge.lapsed now = true) :
    blurOutcome now (p.opened now) = blurOutcome now p.lapsed := by
  cases hs : p.challenge.state with
  | active =>
    have hlive := Challenge.isLive_of_lapsed h
    rw [opened_of_elapsed (Challenge.isActive_iff.mpr hs) hlive]
    exact blurOutcome_lapsed (blur_expire_of_not_live hlive)
  | completed => simp only [Challenge.lapsed, hs, Bool.false_eq_true] at h
  | expired => simp only [opened, hs]

theorem submitted_of_lapsed (h : p.challenge.lapsed now = true) (code : String) :
    blurOutcome now (p.submitted code now) = blurOutcome now p.lapsed := by
  cases hs : p.challenge.state with
  | active =>
    have hlive := Challenge.isLive_of_lapsed h
    rw [submitted_of_elapsed (Challenge.isActive_iff.mpr hs) hlive]
    exact blurOutcome_lapsed (blur_expire_of_not_live hlive)
  | completed => simp only [Challenge.lapsed, hs, Bool.false_eq_true] at h
  | expired =>
    simp only [Challenge.lapsed, hs, decide_eq_true_eq] at h
    simp only [submitted, hs, if_neg h]

theorem blur_of_not_lapsed (h : p.challenge.lapsed now = false) :
    p.blur now = ⟨p.challenge, p.address.blur⟩ := by
  rw [blur, Challenge.blur_of_not_lapsed h]

/-! Where the challenge has not lapsed, all that is forgotten is what its address notes. -/

variable {c : Challenge} {a : Address}

theorem blur_address (c : Challenge) (a : Address) (now : Timestamp) :
    blur now ⟨c, a.blur⟩ = blur now ⟨c, a⟩ := by
  simp only [blur, Address.blur_blur]

theorem opened_address (h : c.lapsed now = false) :
    blurOutcome now (opened ⟨c, a.blur⟩ now) = blurOutcome now (opened ⟨c, a⟩ now) := by
  cases hs : c.state with
  | active =>
    have hlive : c.isLive now = true := by
      simpa only [Challenge.lapsed, hs, Bool.not_eq_false'] using h
    rw [opened_of_live (p := ⟨c, a⟩) hlive, opened_of_live (p := ⟨c, a.blur⟩) hlive]
    exact Prod.ext rfl (blur_address c a now)
  | completed =>
    simp only [opened, hs, vouchesFor_blur]
    split
    · exact Prod.ext rfl (blur_address c a now)
    · exact blurOutcome_lapsed (blur_address c a now)
  | expired =>
    simp only [opened, hs]
    exact blurOutcome_lapsed (blur_address c a now)

theorem accepted_address_of_live (hlive : c.isLive now = true) :
    blurOutcome now (accepted ⟨c, a.blur⟩ now) = blurOutcome now (accepted ⟨c, a⟩ now) := by
  have ha := a.sameBinding_blur
  have hs := Challenge.active_of_isLive hlive
  simp only [Challenge.isLive, Bool.and_eq_true, Bool.not_eq_true'] at hlive
  simp only [accepted, complete, hs, hlive.1.2, hlive.2, Bool.or_self, Bool.false_eq_true, if_false,
    ha.id, ha.value, Address.markVerified_blur]
  by_cases hother : c.address ≠ a.id ∨ c.value ≠ a.value
  · simp only [if_pos hother]
    exact blurOutcome_lapsed (blur_address _ a now)
  · simp only [if_neg hother]

theorem accepted_address_of_completed (hs : c.state = .completed) :
    blurOutcome now (accepted ⟨c, a.blur⟩ now) = blurOutcome now (accepted ⟨c, a⟩ now) := by
  cases h : c.vouchesFor a with
  | true =>
    -- an address that is spoken for is verified, and seen as it is
    have hverified : a.verified = true := by
      simp only [Challenge.vouchesFor, Bool.and_eq_true] at h
      exact h.2
    rw [Address.blur_of_verified hverified]
  | false =>
    have hblur : c.vouchesFor a.blur = false := (vouchesFor_blur c a).trans h
    simp only [accepted, complete_of_not_vouches (p := ⟨c, a⟩) hs h,
      complete_of_not_vouches (p := ⟨c, a.blur⟩) hs hblur]
    exact blurOutcome_lapsed (blur_address c a now)

theorem rejected_address (hact : c.isActive = true) :
    blurOutcome now (rejected ⟨c, a.blur⟩ now) = blurOutcome now (rejected ⟨c, a⟩ now) := by
  simp only [rejected, fail, if_pos hact]
  cases c.attemptsRemaining with
  | none => exact Prod.ext rfl (blur_address c a now)
  | some n =>
    simp only
    generalize (if n = 0 then 0 else n - 1) = left
    by_cases hleft : left = 0
    · simp only [if_pos hleft]
      refine Prod.ext rfl ?_
      simp only [blurOutcome, blur, Address.blur_markAttemptExpired, Address.blur_blur]
    · simp only [if_neg hleft]
      exact Prod.ext rfl (blur_address _ a now)

theorem submitted_address (h : c.lapsed now = false) (code : String) :
    blurOutcome now (submitted ⟨c, a.blur⟩ code now) =
      blurOutcome now (submitted ⟨c, a⟩ code now) := by
  cases hs : c.state with
  | active =>
    have hlive : c.isLive now = true := by
      simpa only [Challenge.lapsed, hs, Bool.not_eq_false'] using h
    simp only [submitted, hs, hlive, Bool.not_true, Bool.false_eq_true, if_false]
    split
    · exact accepted_address_of_live hlive
    · exact rejected_address (Challenge.isActive_iff.mpr hs)
  | completed =>
    simp only [submitted, hs]
    split
    · exact accepted_address_of_completed hs
    · exact Prod.ext rfl (blur_address c a now)
  | expired =>
    simp only [submitted, hs]
    split
    · exact Prod.ext rfl (blur_address c a now)
    · exact blurOutcome_lapsed (blur_address c a now)

/-! ## All attempts -/

/-- What opening a link comes to depends on what is seen of the attempt. -/
theorem opened_blur (p : Attempt) (now : Timestamp) :
    blurOutcome now ((p.blur now).opened now) = blurOutcome now (p.opened now) := by
  cases h : p.challenge.lapsed now with
  | true =>
    have hblur := (p.challenge.lapsed_blur now).trans h
    rw [opened_of_lapsed (p := p.blur now) hblur, opened_of_lapsed h, lapsed_blur]
  | false =>
    rw [blur_of_not_lapsed h]
    exact opened_address h

/-- What entering a code comes to depends on what is seen of the attempt. -/
theorem submitted_blur (p : Attempt) (code : String) (now : Timestamp) :
    blurOutcome now ((p.blur now).submitted code now) = blurOutcome now (p.submitted code now) := by
  cases h : p.challenge.lapsed now with
  | true =>
    have hblur := (p.challenge.lapsed_blur now).trans h
    rw [submitted_of_lapsed (p := p.blur now) hblur, submitted_of_lapsed h, lapsed_blur]
  | false =>
    rw [blur_of_not_lapsed h]
    exact submitted_address h code

end Attempt

/-! ## What is left behind -/

namespace Account

variable {now later : Timestamp}

theorem blur_later (h : now.secs ≤ later.secs) (acc : Account) :
    (acc.blur now).blur later = acc.blur later := by
  simp only [blur, Address.blur_blur, List.map_map, Function.comp_def, Challenge.blur_later h]

theorem blur_amend (acc : Account) (p : Attempt) (now : Timestamp) :
    (acc.amend p).blur now = (acc.blur now).amend (p.blur now) := by
  simp only [blur, amend, Attempt.blur, List.map_map, Function.comp_def,
    (p.challenge.sameIssue_blur now).id, Challenge.id_blur, apply_ite (Challenge.blur now)]

theorem blur_rebind (acc : Account) (value : Contact) (now t : Timestamp) :
    ((acc.blur now).rebind value t).blur now = (acc.rebind value t).blur now := by
  simp only [blur, rebind, Address.rebind_blur, List.map_map, Function.comp_def,
    Challenge.blur_expire _ .addressChanged (by decide)]

theorem blur_add (acc : Account) (c : Challenge) (now : Timestamp) :
    ((acc.blur now).add c).blur now = (acc.add c).blur now := by
  simp only [blur, add, Address.markPending_blur, List.map_append, List.map_map, Function.comp_def,
    Challenge.blur_expire _ .superseded (by decide)]

theorem blur_elapse (acc : Account) (value : Contact) (now t : Timestamp) :
    ((acc.blur now).elapse value t).blur now = (acc.elapse value t).blur now := by
  simp only [blur, elapse, Address.blur_markAttemptExpired, Address.blur_blur, List.map_map,
    Function.comp_def, Challenge.blur_expire _ .elapsed (by decide)]

-- Which value the lapsed challenge was for is not seen.
theorem blur_elapse_congr (acc : Account) (value value' : Contact) (now t : Timestamp) :
    (acc.elapse value t).blur now = (acc.elapse value' t).blur now := by
  simp only [blur, elapse, Address.blur_markAttemptExpired]

-- An account without an active challenge has none that could run out of time.
theorem blur_elapse_of_inactive {acc : Account} (h : ∀ c ∈ acc.history, c.isActive = false)
    (value : Contact) (now t : Timestamp) : (acc.elapse value t).blur now = acc.blur now := by
  simp only [blur, elapse, Address.blur_markAttemptExpired, map_expire_of_inactive h]

variable {acc acc' : Account} {c : Challenge}

-- Accounts that look the same have challenges that look the same.
theorem exists_of_blur_eq (h : acc.blur now = acc'.blur now) (hc : c ∈ acc.history) :
    ∃ d ∈ acc'.history, d.blur now = c.blur now := by
  have hhistory : (acc.history.map fun d => d.blur now) = acc'.history.map fun d => d.blur now :=
    congrArg history h
  have hmem : c.blur now ∈ acc'.history.map fun d => d.blur now := by
    rw [← hhistory]
    exact List.mem_map_of_mem hc
  exact List.mem_map.mp hmem

-- One that is live is the same in both.
theorem mem_of_blur_eq (h : acc.blur now = acc'.blur now) (hc : c ∈ acc.history)
    (hlive : c.isLive now = true) : c ∈ acc'.history := by
  obtain ⟨d, hd, hblur⟩ := exists_of_blur_eq h hc
  rw [Challenge.eq_of_blur_eq hblur.symm hlive] at hd
  exact hd

end Account

end Vouch
