import Vouch.Proofs.Engine.Moves

/-!
# Wrong codes are counted

A challenge that is issued with a bound survives fewer wrong codes than the bound says, whatever
happens in between: it is mailed again, its link is opened, other flows come and go, the clock
jumps.  What is left of the bound and what was answered for as wrong always make up the bound.  The
last wrong code that is allowed ends the flow for good.
-/

namespace Vouch

/-- How many wrong codes for a flow there are among what was asked and answered. -/
def wrongCodes (flow : FlowId) (log : List (Operation × Answer)) : Nat :=
  log.countP fun entry => entry.1.isWrongCode flow entry.2

theorem wrongCodes_append (flow : FlowId) (log : List (Operation × Answer)) (op : Operation)
    (answer : Answer) :
    wrongCodes flow (log ++ [(op, answer)]) =
      wrongCodes flow log + if op.isWrongCode flow answer then 1 else 0 := by
  simp only [wrongCodes, List.countP_append, List.countP_singleton]

/-- What is left of the bound of a challenge, after so many codes were wrong. -/
def Challenge.Tallies (c : Challenge) (wrong : Nat) : Option UInt32 → Prop
  | some bound => c.isActive = true →
    ∃ left, c.attemptsRemaining = some left ∧ 0 < left.toNat ∧ left.toNat + wrong = bound.toNat
  | none => c.attemptsRemaining = none ∧ c.expiredReason ≠ some .attemptsExhausted

namespace Challenge

variable {c d : Challenge} {now : Timestamp} {op : Operation} {answer : Answer}
  {bound : Option UInt32} {wrong : Nat}

theorem attemptsRemaining_expire (c : Challenge) (reason : ExpiredReason) :
    (c.expire reason).attemptsRemaining = c.attemptsRemaining := by
  unfold expire
  split <;> rfl

-- Only a code for the challenge itself is counted against it.
theorem Moves.attemptsRemaining (h : c.Moves now op answer d)
    (hop : ∀ code, op ≠ .submit c.id code) : d.attemptsRemaining = c.attemptsRemaining := by
  cases h with
  | kept => rfl
  | ended => exact c.attemptsRemaining_expire _
  | completed => rfl
  | counted => exact absurd rfl (hop _)
  | spent => exact absurd rfl (hop _)

-- What an operation does to a challenge, and what it answers, leave the sum as it is.
theorem Moves.tallies (h : c.Moves now op answer d) (hc : c.Tallies wrong bound) :
    d.Tallies (wrong + if op.isWrongCode c.id answer then 1 else 0) bound := by
  cases bound with
  | none =>
    obtain ⟨hleft, hreason⟩ := hc
    cases h with
    | kept => exact ⟨hleft, hreason⟩
    | @ended _ _ reason _ hother =>
      refine ⟨(c.attemptsRemaining_expire reason).trans hleft, ?_⟩
      unfold expire
      split
      · exact fun he => hother (Option.some.inj he)
      · exact hreason
    | completed => exact ⟨hleft, hreason⟩
    | counted _ hsome =>
      rw [hleft] at hsome
      cases hsome
    | spent _ hsome => exact absurd hleft hsome
  | some bound =>
    intro hact
    cases h with
    | kept hwrong =>
      obtain ⟨left, hleft, hpos, hsum⟩ := hc hact
      have hnot : op.isWrongCode c.id answer = false := by
        cases hw : op.isWrongCode c.id answer with
        | false => rfl
        | true =>
          rcases hwrong hw with hended | hnone
          · rw [hact] at hended
            cases hended
          · rw [hleft] at hnone
            cases hnone
      rw [hnot]
      exact ⟨left, hleft, hpos, hsum⟩
    | ended =>
      rw [isActive_expire] at hact
      cases hact
    | completed => cases hact
    | @counted code n hlive hn hmore =>
      obtain ⟨left, hleft, hpos, hsum⟩ := hc (isActive_iff.mpr (active_of_isLive hlive))
      rw [hn] at hleft
      cases hleft
      have hsub : (n - 1).toNat = n.toNat - 1 := UInt32.toNat_sub_of_le _ _ (UInt32.le_of_lt hmore)
      rw [UInt32.lt_iff_toNat_lt, UInt32.toNat_one] at hmore
      refine ⟨n - 1, rfl, by omega, ?_⟩
      simp only [Operation.isWrongCode, decide_true, if_true]
      omega
    | spent =>
      rw [isActive_expire] at hact
      cases hact

theorem tallies_issue (f : FlowId) (a : Address) (token code : String) (policy : Policy)
    (now : Timestamp) (hpos : ∀ n, policy.maxAttempts = some n → 1 ≤ n) :
    (Challenge.issue f a token code policy now).Tallies 0 policy.maxAttempts := by
  cases hbound : policy.maxAttempts with
  | none => exact ⟨hbound, by simp [issue]⟩
  | some n =>
    have hn := hpos n hbound
    rw [UInt32.le_iff_toNat_le, UInt32.toNat_one] at hn
    exact fun _ => ⟨n, hbound, hn, Nat.add_zero _⟩

end Challenge

/-- What is left of a bound, for every challenge, and no wrong code for what is not known. -/
structure MemoryStore.Tallies (bound : Option UInt32) (log : List (Operation × Answer))
    (m : MemoryStore) : Prop where
  known : ∀ f c, m.challenges.get? f = some c → c.Tallies (wrongCodes f log) bound
  unknown : ∀ f, m.challenges.get? f = none → wrongCodes f log = 0

namespace Engine

variable {σ ι τ : Type} [VerificationStore σ] [IdentityStore ι] [MailTransport τ]

/-- A run together with what was asked and answered in it.  A batch only requests, so none of its
answers tells of a wrong code, and they are left out. -/
inductive Logged (e : Engine) (w₀ : World σ ι τ) :
    List (Operation × Answer) → World σ ι τ → Prop where
  | start : Logged e w₀ [] w₀
  | operation {log : List (Operation × Answer)} {w : World σ ι τ} {op : Operation} :
    Logged e w₀ log w → op.Possible e w →
      Logged e w₀ (log ++ [(op, (op.perform e w).1)]) (op.perform e w).2
  | batch {log : List (Operation × Answer)} {w : World σ ι τ} {b : Batch} :
    Logged e w₀ log w → e.DrawUnknown (b.operations w) w → Logged e w₀ log (b.perform e w).2
  | outside {log : List (Operation × Answer)} {w w' : World σ ι τ} :
    Logged e w₀ log w → w'.store = w.store → Logged e w₀ log w'

variable [Backend σ] {e : Engine} {w₀ w w' : World σ ι τ} {m m' : MemoryStore}
  {log : List (Operation × Answer)} {op : Operation} {answer : Answer} {now : Timestamp}
  {flow : FlowId} {c : Challenge} {acc : Account}

omit [Backend σ] in
theorem Logged.run (h : e.Logged w₀ log w) : e.Run w₀ w := by
  induction h with
  | start => exact .refl
  | operation _ hop ih => exact ih.tail (.step (.operation hop))
  | batch _ hdraws ih => exact ih.tail (.batch hdraws)
  | outside _ hstore ih => exact ih.tail (.step (.outside hstore))

omit [Backend σ] in
/-- Every run can be looked at with what was asked and answered in it. -/
theorem Run.logged (h : e.Run w₀ w) : ∃ log, e.Logged w₀ log w := by
  induction h with
  | refl => exact ⟨[], .start⟩
  | tail _ hevent ih =>
    obtain ⟨log, hlog⟩ := ih
    cases hevent with
    | step hstep =>
      cases hstep with
      | operation hop => exact ⟨_, hlog.operation hop⟩
      | outside hstore => exact ⟨_, hlog.outside hstore⟩
    | batch hdraws => exact ⟨_, hlog.batch hdraws⟩

/-! ## What is left of the bound, in every run -/

-- One more operation, and what it answered.
theorem tallies_of_moves (hpos : ∀ n, e.policy.maxAttempts = some n → 1 ≤ n) (hi : m.Intact)
    (h : m.Tallies e.policy.maxAttempts log) (hmoves : m.Moves e now op answer m') :
    m'.Tallies e.policy.maxAttempts (log ++ [(op, answer)]) where
  known f d hd := by
    rw [wrongCodes_append]
    cases hc : m.challenges.get? f with
    | some c =>
      obtain ⟨d', hd', hmove⟩ := hmoves.known f c hc
      rw [hd] at hd'
      cases hd'
      have hkept := hmove.tallies (h.known f c hc)
      rw [hi.id_of_challenge hc] at hkept
      exact hkept
    | none =>
      -- nothing was wrong about it before it was issued
      obtain ⟨a, token, code, rfl⟩ := hmoves.new f d hc hd
      rw [h.unknown f hc, hmoves.unknown f hc]
      exact Challenge.tallies_issue f a token code e.policy now hpos
  unknown f hnone := by
    rw [wrongCodes_append]
    cases hc : m.challenges.get? f with
    | some c =>
      obtain ⟨d, hd, -⟩ := hmoves.known f c hc
      rw [hnone] at hd
      cases hd
    | none =>
      rw [h.unknown f hc, hmoves.unknown f hc]
      rfl

omit [IdentityStore ι] [MailTransport τ] [Backend σ] in
theorem resend_of_mem_resends {channel : Channel} {parsed : Except InputError Contact}
    (hop : op ∈ Batch.resends w channel parsed) :
    ∃ owner value, op = .resend owner channel value := by
  cases parsed with
  | error => cases hop
  | ok value =>
    rw [Batch.resends] at hop
    cases hread : VerificationStore.addressesWith channel value w.store with
    | error =>
      rw [hread] at hop
      cases hop
    | ok owners =>
      rw [hread] at hop
      obtain ⟨owner, -, rfl⟩ := List.mem_map.mp hop
      exact ⟨_, _, rfl⟩

omit [MailTransport τ] [Backend σ] in
-- No operation of a batch enters a code.
theorem ne_submit_of_mem_operations {b : Batch} (hop : op ∈ b.operations w) (code : String) :
    op ≠ .submit flow code := by
  rintro rfl
  cases b with
  | requestByValue channel raw =>
    rw [Batch.operations] at hop
    obtain ⟨_, _, hsubmit⟩ := resend_of_mem_resends hop
    cases hsubmit
  | afterRegistration id =>
    obtain ⟨_, -, hsubmit⟩ := List.mem_map.mp hop
    cases hsubmit
  | afterSettings id =>
    obtain ⟨_, -, hsubmit⟩ := List.mem_map.mp hop
    cases hsubmit

-- What every operation keeps that enters no code, a batch keeps.
theorem batch_keeps {P : MemoryStore → Prop} {b : Batch}
    (hP : ∀ {m m' : MemoryStore} {now : Timestamp} {op : Operation} {answer : Answer}, m.Intact →
      m'.Intact → P m → op.Ends e m now answer m' → (∀ f code, op ≠ .submit f code) → P m')
    (h : Backend.Shows w.store m) (hm : P m) (hdraws : e.DrawUnknown (b.operations w) w) :
    ∃ m', Backend.Shows (b.perform e w).2.store m' ∧ P m' := by
  have hsteps := batch_within h (R := fun w w' => ∀ m, Backend.Shows w.store m → P m →
    ∃ m', Backend.Shows w'.store m' ∧ P m') (fun op hop w hpossible m hshows hm => ?_)
    (fun m hshows hm => ⟨m, hshows, hm⟩) hdraws
  · generalize (b.perform e w).2 = w' at hsteps
    induction hsteps with
    | refl => exact ⟨m, h, hm⟩
    | tail _ hstep ih =>
      obtain ⟨m₁, hshows₁, hm₁⟩ := ih
      exact hstep m₁ hshows₁ hm₁
  · obtain ⟨m', hshows', hends⟩ := Operation.perform_ends e hshows hpossible
    exact ⟨m', hshows', hP (Backend.intact hshows) (Backend.intact hshows') hm hends
      fun f code => ne_submit_of_mem_operations hop code⟩

theorem isWrongCode_of_ne_submit (hop : ∀ f code, op ≠ .submit f code) (answer : Answer) :
    op.isWrongCode flow answer = false := by
  cases op with
  | submit f code => exact absurd rfl (hop f code)
  | _ => rfl

/-- At every point of every run, what is left of the bound and the wrong codes make it up. -/
theorem Logged.tallies (hpos : ∀ n, e.policy.maxAttempts = some n → 1 ≤ n)
    (hempty : w₀.store = Backend.empty) (h : e.Logged w₀ log w) :
    ∃ m, Backend.Shows w.store m ∧ m.Tallies e.policy.maxAttempts log := by
  induction h with
  | start =>
    refine ⟨.empty, ?_, ⟨fun _ _ hc => (nomatch hc), fun _ _ => rfl⟩⟩
    rw [hempty]
    exact Backend.shows_empty
  | operation _ hop ih =>
    obtain ⟨m, hshows, hm⟩ := ih
    obtain ⟨m', hshows', hends⟩ := Operation.perform_ends e hshows hop
    have hi := Backend.intact hshows
    exact ⟨m', hshows', tallies_of_moves hpos hi hm (.ends hi (Backend.intact hshows') hends)⟩
  | @batch log w b _ hdraws ih =>
    obtain ⟨m, hshows, hm⟩ := ih
    refine batch_keeps (fun {m m' now op answer} hi hi' hm hends hop => ?_) hshows hm hdraws
    have hnot : ∀ f, op.isWrongCode f answer = false := fun _ => isWrongCode_of_ne_submit hop answer
    have htallies := tallies_of_moves hpos hi hm (.ends hi hi' hends)
    have hsame : ∀ f, wrongCodes f (log ++ [(op, answer)]) = wrongCodes f log := by
      intro f
      rw [wrongCodes_append, hnot]
      rfl
    exact ⟨fun f c hc => hsame f ▸ htallies.known f c hc,
      fun f hc => hsame f ▸ htallies.unknown f hc⟩
  | outside _ hstore ih =>
    rw [hstore]
    exact ih

end Engine

/-! ## Codes for one flow -/

namespace Attempt

variable {p : Attempt} {now : Timestamp}

theorem rejected_eq_fail (p : Attempt) (now : Timestamp) (hact : p.challenge.isActive = true) :
    (p.rejected now).2 = (p.fail now).2 := by
  rcases p.fail_cases now hact with hfail | ⟨left, hfail⟩ | hfail
  all_goals simp only [rejected, hfail]

theorem rejected_of_bound (hact : p.challenge.isActive = true) {left : UInt32}
    (hleft : p.challenge.attemptsRemaining = some left) :
    p.rejected now = if 1 < left then
        (.error (.invalidCode (some (left - 1))),
          ⟨p.challenge.withAttempts (left - 1), p.address⟩)
      else
        (.error .attemptsExhausted, ⟨(p.challenge.withAttempts 0).expire .attemptsExhausted,
          p.address.markAttemptExpired p.challenge.value now⟩) := by
  rw [rejected, fail_of_bound hact hleft]
  by_cases hmore : 1 < left
  · rw [if_pos hmore, if_pos hmore]
  · rw [if_neg hmore, if_neg hmore]

theorem rejected_of_unbounded (hact : p.challenge.isActive = true)
    (hleft : p.challenge.attemptsRemaining = none) :
    p.rejected now = (.error (.invalidCode none), p) := by
  rw [rejected, fail_of_unbounded hact hleft]

end Attempt

namespace Engine

open Vouch.Action

variable {σ ι τ : Type} [VerificationStore σ] [IdentityStore ι] [MailTransport τ] [Backend σ]
  {e : Engine} {w₀ w w' : World σ ι τ} {m m' : MemoryStore} {log : List (Operation × Answer)}
  {op : Operation} {answer : Answer} {now : Timestamp} {flow : FlowId} {c : Challenge}
  {acc : Account}

-- A flow that is known stays known, and what is left of its bound stays as it is.
theorem attempts_of_ends (hi : m.Intact) (hi' : m'.Intact) (hends : op.Ends e m now answer m')
    (hop : ∀ code, op ≠ .submit flow code) {left : Option UInt32}
    (h : ∃ c, m.challenges.get? flow = some c ∧ c.attemptsRemaining = left) :
    ∃ c, m'.challenges.get? flow = some c ∧ c.attemptsRemaining = left := by
  obtain ⟨c, hc, rfl⟩ := h
  obtain ⟨d, hd, hmove⟩ := (MemoryStore.Moves.ends hi hi' hends).known flow c hc
  rw [← hi.id_of_challenge hc] at hop
  exact ⟨d, hd, hmove.attemptsRemaining hop⟩

omit [IdentityStore ι] [MailTransport τ] in
theorem resume_unchanged (h : Backend.Shows w.store m) (flow : FlowId) :
    ((resume flow : Action σ ι τ FlowState).perform w).2 = w := by
  cases hc : m.challenges.get? flow with
  | none =>
    rw [resume, perform_of_error (bind_of_error (challenge_of_unknown h hc))]
  | some c =>
    obtain ⟨acc, hf⟩ := Finds.of_intact (Backend.intact h) hc
    rw [resume_run h hf]

omit [IdentityStore ι] [MailTransport τ] in
-- A wrong code for a live challenge is counted against it.
theorem submit_wrong (h : Backend.Shows w.store m) (hf : Finds m flow c acc)
    (hlive : c.isLive w.now = true) {code : String} (hcode : code ≠ c.code) :
    ∃ s m', (submit flow code : Action σ ι τ SubmitOutcome).perform w =
        ((Attempt.rejected ⟨c, acc.record⟩ w.now).1, { w with store := s }) ∧
      Backend.Shows s m' ∧ m'.challenges.get? flow =
        some (Attempt.rejected ⟨c, acc.record⟩ w.now).2.challenge := by
  have hi := Backend.intact h
  have hs := Challenge.active_of_isLive hlive
  obtain ⟨s, m', hrun, hshows, hsets⟩ := submit_yields (ι := ι) (τ := τ) h hf code
  have hrejected : Attempt.submitted ⟨c, acc.record⟩ code w.now =
      Attempt.rejected ⟨c, acc.record⟩ w.now := by
    simp only [Attempt.submitted, hs, hlive, Bool.not_true, Bool.false_eq_true, if_false,
      if_neg hcode]
  have hfail := Attempt.rejected_eq_fail ⟨c, acc.record⟩ w.now (Challenge.isActive_iff.mpr hs)
  rw [hrejected] at hrun hsets
  refine ⟨s, m', hrun, hshows, ?_⟩
  rw [hfail] at hsets ⊢
  have hp := (Attempt.fail_amends ⟨c, acc.record⟩ w.now).challenge
  rw [MemoryStore.get?_of_amend hi (Backend.intact hshows) hf hp hsets hf.challenge, if_pos rfl]

omit [IdentityStore ι] [MailTransport τ] in
theorem submit_exhausted (h : Backend.Shows w.store m) (hc : m.challenges.get? flow = some c)
    (hs : c.state = .expired) (hreason : c.expiredReason = some .attemptsExhausted)
    (code : String) :
    (submit flow code : Action σ ι τ SubmitOutcome).perform w = (.error .attemptsExhausted, w) := by
  rw [submit, perform_congr (bind_of_ok (challenge_of_known h hc))]
  simp only [hs, hreason, if_true]
  rfl

/-- A challenge that has ended is the same in every later world. -/
theorem ended_for_good (h : Backend.Shows w.store m) (hc : m.challenges.get? flow = some c)
    (hact : c.isActive = false) (hrun : e.Run w w') :
    ∃ m', Backend.Shows w'.store m' ∧ m'.challenges.get? flow = some c := by
  have hi := Backend.intact h
  obtain ⟨hmem, hid⟩ := hi.get?_iff.mp hc
  obtain ⟨acc, hacc, hin⟩ := hi.account_of_challenge hc
  obtain ⟨m', hshows', -, acc', hacc', hin'⟩ :=
    hrun.keeps (e.keeps_holds c) h ⟨hact, acc, hacc, hin⟩
  rw [← MemoryStore.history_of_account? hacc'] at hin'
  exact ⟨m', hshows', (Backend.intact hshows').get?_iff.mpr ⟨hin', hid⟩⟩

/-- What a bound means for a flow, in a world that a run has led to. -/
structure Bounded (e : Engine) (log : List (Operation × Answer)) (w : World σ ι τ) (flow : FlowId)
    (c : Challenge) (bound : UInt32) : Prop where
  remaining : c.state = .active → wrongCodes flow log ≤ bound.toNat - 1 ∧
    c.attemptsRemaining.map UInt32.toNat = some (bound.toNat - wrongCodes flow log)
  others : ∀ op : Operation, op.Possible e w → (∀ code, op ≠ .submit flow code) →
    ∃ c', VerificationStore.challenge? flow (op.perform e w).2.store = .ok (some c') ∧
      c'.attemptsRemaining = c.attemptsRemaining
  batches : ∀ b : Batch, e.DrawUnknown (b.operations w) w →
    ∃ c', VerificationStore.challenge? flow (b.perform e w).2.store = .ok (some c') ∧
      c'.attemptsRemaining = c.attemptsRemaining
  resumes : ∀ f, ((resume f : Action σ ι τ FlowState).perform w).2 = w
  /-- A wrong code that is not the last one allowed. -/
  counted : ∀ code, code ≠ c.code → c.isLive w.now = true →
    wrongCodes flow log + 1 < bound.toNat →
    ∃ left, left.toNat = bound.toNat - (wrongCodes flow log + 1) ∧
      ((submit flow code).perform w).1 = .error (.invalidCode (some left)) ∧
      VerificationStore.challenge? flow
        ((submit flow code : Action σ ι τ SubmitOutcome).perform w).2.store =
          .ok (some (c.withAttempts left))
  /-- The last wrong code that is allowed.  The flow is the same ever after, and answers so. -/
  spent : ∀ code, code ≠ c.code → c.isLive w.now = true →
    wrongCodes flow log + 1 = bound.toNat →
    ((submit flow code).perform w).1 = .error .attemptsExhausted ∧
    ∀ w', e.Run ((submit flow code : Action σ ι τ SubmitOutcome).perform w).2 w' →
      VerificationStore.challenge? flow w'.store =
        .ok (some ((c.withAttempts 0).expire .attemptsExhausted)) ∧
      ∀ code', (submit flow code').perform w' = (.error .attemptsExhausted, w')

/-- The world after one code after another was entered for a flow. -/
def afterCodes (flow : FlowId) (codes : List String) (w : World σ ι τ) : World σ ι τ :=
  codes.foldl (fun w code => ((submit flow code : Action σ ι τ SubmitOutcome).perform w).2) w

/-- What it means that there is no bound. -/
structure Unbounded (w : World σ ι τ) (flow : FlowId) (c : Challenge) : Prop where
  never : c.expiredReason ≠ some .attemptsExhausted
  kept : ∀ codes, c.code ∉ codes → c.isLive w.now = true →
    VerificationStore.challenge? flow (afterCodes flow codes w).store = .ok (some c) ∧
    ∀ code, code ≠ c.code →
      ((submit flow code).perform (afterCodes flow codes w)).1 = .error (.invalidCode none)

theorem bounded_of_tallies {bound : UInt32} (h : Backend.Shows w.store m)
    (hm : m.Tallies (some bound) log) (hc : m.challenges.get? flow = some c) :
    e.Bounded log w flow c bound := by
  have hi := Backend.intact h
  obtain ⟨acc, hf⟩ := Finds.of_intact hi hc
  have htally := hm.known flow c hc
  refine ⟨fun hs => ?_, fun op hop hother => ?_, fun b hdraws => ?_, resume_unchanged h,
    fun code hcode hlive hmore => ?_, fun code hcode hlive hlast => ?_⟩
  · obtain ⟨left, hleft, hpos, hsum⟩ := htally (Challenge.isActive_iff.mpr hs)
    refine ⟨by omega, ?_⟩
    rw [hleft, Option.map_some, ← hsum, Nat.add_sub_cancel]
  · obtain ⟨m', hshows', hends⟩ := Operation.perform_ends e h hop
    obtain ⟨c', hc', hsame⟩ :=
      attempts_of_ends hi (Backend.intact hshows') hends hother ⟨c, hc, rfl⟩
    exact ⟨c', by rw [Backend.challenge?_eq hshows', hc'], hsame⟩
  · obtain ⟨m', hshows', c', hc', hsame⟩ := batch_keeps
      (P := fun m => ∃ d, m.challenges.get? flow = some d ∧
        d.attemptsRemaining = c.attemptsRemaining)
      (fun hi hi' hm hends hop => attempts_of_ends hi hi' hends (hop flow) hm) h ⟨c, hc, rfl⟩ hdraws
    exact ⟨c', by rw [Backend.challenge?_eq hshows', hc'], hsame⟩
  · have hact := Challenge.isActive_iff.mpr (Challenge.active_of_isLive hlive)
    obtain ⟨left, hleft, -, hsum⟩ := htally hact
    have hone : 1 < left := by
      rw [UInt32.lt_iff_toNat_lt, UInt32.toNat_one]
      omega
    have hsub : (left - 1).toNat = left.toNat - 1 :=
      UInt32.toNat_sub_of_le _ _ (UInt32.le_of_lt hone)
    obtain ⟨s, m', hrun, hshows', hget⟩ := submit_wrong (ι := ι) (τ := τ) h hf hlive hcode
    rw [Attempt.rejected_of_bound hact hleft, if_pos hone] at hrun hget
    refine ⟨left - 1, by omega, by rw [hrun], ?_⟩
    rw [hrun, Backend.challenge?_eq hshows', hget]
  · have hact := Challenge.isActive_iff.mpr (Challenge.active_of_isLive hlive)
    obtain ⟨left, hleft, -, hsum⟩ := htally hact
    have hone : ¬ 1 < left := by
      rw [UInt32.lt_iff_toNat_lt, UInt32.toNat_one]
      omega
    obtain ⟨s, m', hrun, hshows', hget⟩ := submit_wrong (ι := ι) (τ := τ) h hf hlive hcode
    rw [Attempt.rejected_of_bound hact hleft, if_neg hone] at hrun hget
    have hended := Attempt.expire_of_isActive (c := c.withAttempts 0) hact .attemptsExhausted
    rw [hrun]
    refine ⟨rfl, fun w' hlater => ?_⟩
    obtain ⟨m'', hshows'', hget''⟩ := ended_for_good (w := { w with store := s }) hshows' hget
      (Challenge.isActive_expire _ _) hlater
    refine ⟨by rw [Backend.challenge?_eq hshows'', hget''], ?_⟩
    refine submit_exhausted hshows'' hget'' ?_ ?_
    · rw [hended]
    · rw [hended]

omit [IdentityStore ι] [MailTransport τ] in
-- Without a bound, wrong codes do nothing at all to a challenge.
theorem afterCodes_unbounded (h : Backend.Shows w.store m)
    (hc : m.challenges.get? flow = some c) (hleft : c.attemptsRemaining = none)
    (hlive : c.isLive w.now = true) {codes : List String} (hcodes : c.code ∉ codes) :
    ∃ m', Backend.Shows (afterCodes flow codes w).store m' ∧
      m'.challenges.get? flow = some c ∧ (afterCodes flow codes w).now = w.now := by
  induction codes generalizing w m with
  | nil => exact ⟨m, h, hc, rfl⟩
  | cons code codes ih =>
    rw [List.mem_cons, not_or] at hcodes
    obtain ⟨hcode, hrest⟩ := hcodes
    obtain ⟨acc, hf⟩ := Finds.of_intact (Backend.intact h) hc
    have hact := Challenge.isActive_iff.mpr (Challenge.active_of_isLive hlive)
    obtain ⟨s, m₁, hrun, hshows₁, hget⟩ :=
      submit_wrong (ι := ι) (τ := τ) h hf hlive (Ne.symm hcode)
    rw [Attempt.rejected_of_unbounded hact hleft] at hrun hget
    rw [afterCodes, List.foldl_cons, hrun]
    exact ih (w := { w with store := s }) hshows₁ hget hlive hrest

omit [IdentityStore ι] [MailTransport τ] in
theorem unbounded_of_tallies (h : Backend.Shows w.store m) (hm : m.Tallies none log)
    (hc : m.challenges.get? flow = some c) : Unbounded w flow c := by
  obtain ⟨hleft, hreason⟩ := hm.known flow c hc
  refine ⟨hreason, fun codes hcodes hlive => ?_⟩
  obtain ⟨m', hshows', hget, hnow⟩ := afterCodes_unbounded h hc hleft hlive hcodes
  refine ⟨by rw [Backend.challenge?_eq hshows', hget], fun code hcode => ?_⟩
  obtain ⟨acc, hf⟩ := Finds.of_intact (Backend.intact hshows') hget
  rw [← hnow] at hlive
  have hact := Challenge.isActive_iff.mpr (Challenge.active_of_isLive hlive)
  obtain ⟨s, m'', hrun, -, -⟩ := submit_wrong (ι := ι) (τ := τ) hshows' hf hlive hcode
  rw [hrun, Attempt.rejected_of_unbounded hact hleft]

/-- The bound on wrong codes holds over whole runs, and without a bound wrong codes end nothing. -/
theorem wrong_codes_counted (hpos : ∀ bound, e.policy.maxAttempts = some bound → 1 ≤ bound)
    (hempty : w₀.store = Backend.empty) (hlog : e.Logged w₀ log w)
    (hc : VerificationStore.challenge? flow w.store = .ok (some c)) :
    (∀ bound, e.policy.maxAttempts = some bound → e.Bounded log w flow c bound) ∧
      (e.policy.maxAttempts = none → Unbounded w flow c) := by
  obtain ⟨m, hshows, hm⟩ := hlog.tallies hpos hempty
  rw [Backend.challenge?_eq hshows] at hc
  refine ⟨fun bound hbound => ?_, fun hbound => ?_⟩
  · rw [hbound] at hm
    exact bounded_of_tallies hshows hm (Except.ok.inj hc)
  · rw [hbound] at hm
    exact unbounded_of_tallies hshows hm (Except.ok.inj hc)

end Engine

namespace Sample

-- A code that is never right.
def guess : Operation := .submit (drawnAt .flow 16) "guess"

-- The world after so many guesses.
def guessed : Nat → World MemoryStore MemoryIdentities MailRecorder
  | 0 => requested
  | n + 1 => (guess.perform engine (guessed n)).2

-- What was asked and answered on the way there.
def guesses : Nat → List (Operation × Answer)
  | 0 => [(.request ann home, ((Operation.request ann home).perform engine start).1)]
  | n + 1 => guesses n ++ [(guess, (guess.perform engine (guessed n)).1)]

theorem guessed_logged : engine.Logged start (guesses 4) (guessed 4) := by
  have hrequest : (Operation.request ann home).Possible engine start :=
    ⟨⟨fun _ => rfl, fun _ => rfl⟩, trivial⟩
  have hguess : ∀ n, n < 4 → guess.Possible engine (guessed n)
    | 0, _ | 1, _ | 2, _ | 3, _ => ⟨⟨fun _ => rfl, fun _ => rfl⟩, trivial⟩
  have h₀ : engine.Logged start (guesses 0) (guessed 0) :=
    Engine.Logged.start.operation hrequest
  exact (((h₀.operation (hguess 0 (by decide))).operation (hguess 1 (by decide))).operation
    (hguess 2 (by decide))).operation (hguess 3 (by decide))

/-- Four guesses are counted against the five that are allowed, and the fifth is the last. -/
theorem guessed_counted : ∃ c,
    VerificationStore.challenge? (drawnAt .flow 16) (guessed 4).store = .ok (some c) ∧
    wrongCodes (drawnAt .flow 16) (guesses 4) = 4 ∧
    c.attemptsRemaining.map UInt32.toNat = some 1 ∧
    ∀ w', engine.Run (guessed 5) w' → ∀ code,
      (Engine.submit (drawnAt .flow 16) code).perform w' = (.error .attemptsExhausted, w') := by
  obtain ⟨c, hc, hs, hcode, hlive⟩ : ∃ c,
      VerificationStore.challenge? (drawnAt .flow 16) (guessed 4).store = .ok (some c) ∧
      c.state = .active ∧ "guess" ≠ c.code ∧ c.isLive (guessed 4).now = true :=
    ⟨_, rfl, rfl, by decide, rfl⟩
  have hfour : wrongCodes (drawnAt .flow 16) (guesses 4) = 4 := rfl
  obtain ⟨hbounded, -⟩ := Engine.wrong_codes_counted (e := engine)
    (fun bound hbound => by cases hbound; decide) rfl guessed_logged hc
  have hfive := hbounded 5 rfl
  obtain ⟨-, hremaining⟩ := hfive.remaining hs
  rw [hfour] at hremaining
  exact ⟨c, hc, hfour, hremaining, fun w' hrun =>
    ((hfive.spent "guess" hcode hlive (by rw [hfour]; rfl)).2 w' hrun).2⟩

end Sample

end Vouch
