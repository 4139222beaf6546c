import Vouch.Proofs.Engine.Resemblance

/-!
# The same operation in two worlds

Two worlds resemble each other if only their stores differ, and these resemble each other.
Whatever the engine is asked for in both, it answers the same, up to how challenges lapsed, draws
the same bytes, mails the same, and leaves worlds that resemble each other.
-/

namespace Vouch

variable {σ ι τ α β : Type} [VerificationStore σ] [Backend σ] {now : Timestamp} {w w' : World σ ι τ}

/-- The worlds differ in nothing but how challenges have lapsed. -/
inductive World.Resembles (now : Timestamp) (w : World σ ι τ) : World σ ι τ → Prop where
  | intro {s' : σ} {m m' : MemoryStore} : w.now = now → Backend.Shows w.store m →
    Backend.Shows s' m' → m.Resembles now m' → Resembles now w { w with store := s' }

/-- The world with its clock set. -/
def World.atTime (clock : Timestamp) (w : World σ ι τ) : World σ ι τ := { w with now := clock }

namespace World.Resembles

theorem atTime (h : w.Resembles now w') {clock : Timestamp}
    (hle : now.secs ≤ clock.secs) : Resembles clock (w.atTime clock) (w'.atTime clock) := by
  cases h with
  | intro hnow hshows hshows' hm => exact .intro rfl hshows hshows' (hm.mono hle)

theorem edit (h : w.Resembles now w') (change : ι → ι) :
    Resembles now { w with identities := change w.identities }
      { w' with identities := change w'.identities } := by
  cases h with
  | intro hnow hshows hshows' hm => exact .intro hnow hshows hshows' hm

theorem mailer (h : w.Resembles now w') : w'.mailer = w.mailer := by
  cases h
  rfl

theorem entropy (h : w.Resembles now w') : w'.entropy = w.entropy := by
  cases h
  rfl

-- The trust in an address does not depend on how its challenges lapsed.
theorem address (h : w.Resembles now w') (id : AddressId) :
    ∃ found found', VerificationStore.address? id w.store = .ok found ∧
      VerificationStore.address? id w'.store = .ok found' ∧
      Option.Rel (fun a b => b.value = a.value ∧ b.verified = a.verified ∧
        b.verifiedAt = a.verifiedAt) found found' := by
  cases h with
  | @intro s' m m' hnow hshows hshows' hm =>
  refine ⟨_, _, Backend.address?_eq hshows id, Backend.address?_eq hshows' id, ?_⟩
  cases ha : m.addresses.get? id with
  | none =>
    rw [MemoryStore.account?_eq_none_iff.mp
      (hm.account_none (MemoryStore.account?_eq_none_iff.mpr ha))]
    exact .none
  | some a =>
    obtain ⟨b, hb, hblur⟩ := hm.record ha
    rw [hb]
    refine .some ⟨(Address.sameBinding_of_blur hblur).value, ?_, ?_⟩
    · rw [← b.verified_blur, ← hblur, a.verified_blur]
    · rw [← b.verifiedAt_blur, ← hblur, a.verifiedAt_blur]

end World.Resembles

/-- Two actions end alike: with one answer or one error, and in worlds that resemble each other. -/
inductive Together (now : Timestamp) : EStateM.Result VerificationError (World σ ι τ) α →
    EStateM.Result VerificationError (World σ ι τ) α → Prop where
  | ok (a : α) {w w' : World σ ι τ} : w.Resembles now w' → Together now (.ok a w) (.ok a w')
  | error (e : VerificationError) {w w' : World σ ι τ} : w.Resembles now w' →
    Together now (.error e w) (.error e w')

namespace Together

open Vouch.Action

variable {x x' : Action σ ι τ α}

theorem bind {f f' : α → Action σ ι τ β} (h : Together now (x w) (x' w'))
    (hf : ∀ {a w₁ w₁'}, x w = .ok a w₁ → w₁.Resembles now w₁' →
      Together now (f a w₁) (f' a w₁')) :
    Together now ((x >>= f) w) ((x' >>= f') w') := by
  generalize hx : x w = result at h
  generalize hx' : x' w' = result' at h
  cases h with
  | ok a hw =>
    rw [bind_of_ok hx, bind_of_ok hx']
    exact hf hx hw
  | error e hw =>
    rw [bind_of_error hx, bind_of_error hx']
    exact .error e hw

theorem answer (h : Together now (x w) (x' w')) : (x.perform w).1 = (x'.perform w').1 := by
  rw [perform, perform]
  generalize x w = result at h
  generalize x' w' = result' at h
  cases h <;> rfl

theorem world (h : Together now (x w) (x' w')) :
    (x.perform w).2.Resembles now (x'.perform w').2 := by
  rw [perform, perform]
  generalize x w = result at h
  generalize x' w' = result' at h
  cases h with
  | ok _ hw => exact hw
  | error _ hw => exact hw

end Together

namespace Engine

open Vouch.Action

variable {e : Engine} {s s' : σ} {m m' : MemoryStore}

/-! ## Mail -/

theorem send_together [MailTransport τ] (h : w.Resembles now w') (mail : Mail) :
    Together now ((send mail : Action σ ι τ Unit) w) ((send mail : Action σ ι τ Unit) w') := by
  obtain ⟨hnow, hshows, hshows', hm⟩ := h
  have hmodify : ∀ f (w : World σ ι τ), (modify f : Action σ ι τ Unit) w = .ok () (f w) :=
    fun _ _ => rfl
  rw [send, hmodify, hmodify]
  cases MailTransport.send mail w.now w.mailer with
  | ok mailer => exact .ok () (.intro hnow hshows hshows' hm)
  | error _ => exact .ok () (.intro hnow hshows hshows' hm)

theorem mailLink_together [MailTransport τ] (h : w.Resembles now w') (c : Challenge) :
    Together now ((e.mailLink c : Action σ ι τ Unit) w)
      ((e.mailLink c : Action σ ι τ Unit) w') := by
  rw [mailLink]
  cases e.publicUrl.link c.id c.token with
  | ok url => exact send_together h _
  | error _ => exact .ok () h

/-! ## Requests -/

variable [MailTransport τ]

-- An address that is stored on the left is issued the same challenge on both sides.
theorem issueChallenge_together (h : w.Resembles now w') {a : Address}
    (ha : VerificationStore.address? a.id w.store = .ok (some a)) :
    Together now ((e.issueChallenge a : Action σ ι τ FlowId) w)
      ((e.issueChallenge a : Action σ ι τ FlowId) w') := by
  obtain ⟨hnow, hshows, hshows', hm⟩ := h
  rw [Backend.address?_eq hshows] at ha
  have hget := Except.ok.inj ha
  have hsecret := Secret.textFits_issue a.channel (w.entropy.drawId .flow).1
    (w.entropy.drawId .flow).2
  have hstorable : Backend.Storable σ (e.drawChallenge a w).1 :=
    Backend.storable_issue hshows hget hsecret.1 hsecret.2
  -- the bytes are drawn before anything is written
  let drawn (s : σ) : World σ ι τ := { w with store := s, entropy := (e.drawChallenge a w).2 }
  have hrun (s : σ) : (e.issueChallenge a : Action σ ι τ FlowId) { w with store := s } =
      (do
        let _ ← changeStore (VerificationStore.create (e.drawChallenge a w).1)
        e.mailLink (e.drawChallenge a w).1
        return (e.drawChallenge a w).1.id : Action σ ι τ FlowId) (drawn s) := rfl
  rw [show e.issueChallenge a w = _ from hrun w.store, hrun]
  rcases Backend.create_resembles hshows hshows' hm hstorable rfl
    (MemoryStore.account?_of_get? hget) with
    ⟨error, hcreate, hcreate'⟩ | ⟨_, _, s, s', m₁, m₁', hcreate, hcreate', hs, hs', hm₁⟩
  · rw [bind_of_error (changeStore_of_error (w := drawn w.store) hcreate),
      bind_of_error (changeStore_of_error (w := drawn _) hcreate')]
    exact .error _ (.intro hnow hshows hshows' hm)
  · rw [bind_of_ok (changeStore_of_ok (w := drawn w.store) hcreate),
      bind_of_ok (changeStore_of_ok (w := drawn _) hcreate')]
    have hw : (drawn s).Resembles now (drawn s') := .intro hnow hs hs' hm₁
    exact (mailLink_together hw _).bind fun _ hw => .ok _ hw

section Record

variable {a b : Address}

-- A live challenge for the value of a record is mailed again.
theorem challengeRecord_resends (h : Backend.Shows w.store m) (hverified : a.verified = false)
    {c : Challenge} (hc : c ∈ m.history a.id) (hlive : c.isLive now = true)
    (hvalue : c.value = a.value) :
    (e.challengeRecord a now : Action σ ι τ RequestOutcome) w =
      (do
        e.mailLink c
        return .resent c.id : Action σ ι τ RequestOutcome) w := by
  have hi := Backend.intact h
  obtain ⟨hget, haddress⟩ := hi.mem_history.mp hc
  have hactive := hi.active_iff.mpr
    ⟨c, hget, haddress, Challenge.isActive_iff.mpr (Challenge.active_of_isLive hlive)⟩
  rw [challengeRecord_unverified e h hverified]
  simp only [hactive, Option.bind_some, hget, hlive, hvalue, and_self, if_true]

-- Without one, whatever is still active ends, and a challenge is issued.
theorem challengeRecord_issues (h : Backend.Shows w.store m)
    (ha : m.addresses.get? a.id = some a) (hverified : a.verified = false)
    (hnone : ∀ c ∈ m.history a.id, c.isLive now = true → c.value ≠ a.value) :
    ∃ s m₁ acc, (e.challengeRecord a now : Action σ ι τ RequestOutcome) w =
        (do return .issued (← e.issueChallenge a) : Action σ ι τ RequestOutcome)
          { w with store := s } ∧
      Backend.Shows s m₁ ∧ m.Sets a.id acc m₁ ∧
      acc.blur now = (Account.elapse ⟨a, m.history a.id⟩ a.value now).blur now := by
  have hi := Backend.intact h
  have hacc := MemoryStore.account?_of_get? ha
  rw [challengeRecord_unverified e h hverified]
  cases hp : m.active.get? a.id with
  | none =>
    refine ⟨w.store, m, _, rfl, h, MemoryStore.sets_self hacc, ?_⟩
    exact (Account.blur_elapse_of_inactive (fun _ => hi.inactive_of_no_pointer hp) _ _ _).symm
  | some f =>
    obtain ⟨c, hc, haddress, hact⟩ := hi.active_iff.mp hp
    have hid := hi.id_of_challenge hc
    have hmem := hi.mem_history.mpr ⟨by rw [hid]; exact hc, haddress⟩
    obtain ⟨s, m₁, hexpire, hshows, hsets⟩ :=
      Backend.expire_known h hc (by rw [haddress]; exact hacc) .elapsed now
    rw [haddress, hi.amend_expire_elapsed hacc hmem hact] at hsets
    rw [← hid] at hexpire
    refine ⟨s, m₁, _, ?_, hshows, hsets, Account.blur_elapse_congr _ _ _ _ _⟩
    have hunfit : ¬ (c.isLive now = true ∧ c.value = a.value) :=
      fun hfit => hnone c hmem hfit.1 hfit.2
    simp only [Option.bind_some, hc, if_neg hunfit]
    exact bind_of_ok (changeStore_of_ok hexpire)

-- Without one on either side, what is issued is the same.
theorem challengeRecord_issues_together (hnow : w.now = now) (hshows : Backend.Shows w.store m)
    (hshows' : Backend.Shows s' m') (hm : m.Resembles now m') (ha : m.addresses.get? a.id = some a)
    (hb : m'.addresses.get? a.id = some b)
    (hblur : Account.blur now ⟨a, m.history a.id⟩ = Account.blur now ⟨b, m'.history a.id⟩)
    (hverified : a.verified = false)
    (hnone : ∀ c ∈ m.history a.id, c.isLive now = true → c.value ≠ a.value) :
    Together now ((e.challengeRecord a now : Action σ ι τ RequestOutcome) w)
      ((e.challengeRecord b now : Action σ ι τ RequestOutcome) { w with store := s' }) := by
  have hrecord : a.blur = b.blur := congrArg Account.record hblur
  have hbind := Address.sameBinding_of_blur hrecord
  have hid : b.id = a.id := hbind.id
  have hverified' : b.verified = false := by
    rw [← b.verified_blur, ← hrecord, a.verified_blur, hverified]
  obtain ⟨s₁, m₁, acc, hrun, hs, hsets, hacc⟩ :=
    challengeRecord_issues (e := e) (w := w) hshows ha hverified hnone
  obtain ⟨s₁', m₁', acc', hrun', hs', hsets', hacc'⟩ :=
    challengeRecord_issues (e := e) (w := { w with store := s' }) hshows' (hid ▸ hb) hverified'
      fun c hc hlive hvalue => hnone c (Account.mem_of_blur_eq hblur.symm (hid ▸ hc) hlive) hlive
        (hvalue.trans hbind.value)
  rw [hid] at hsets'
  rw [hid, hbind.value] at hacc'
  have hsame : acc.blur now = acc'.blur now := by
    rw [hacc, hacc', ← Account.blur_elapse, hblur, Account.blur_elapse]
  -- the records that are stored now differ from the given ones in their trust alone
  have hstored : acc.record.blur = a.blur :=
    (congrArg Account.record hacc).trans (a.blur_markAttemptExpired _ _)
  have hbind₁ := Address.sameBinding_of_blur hstored
  rw [hrun, hrun', issueChallenge_sameBinding e hbind, issueChallenge_sameBinding e hbind₁]
  have hw : World.Resembles now { w with store := s₁ } { w with store := s₁' } :=
    .intro hnow hs hs' (hm.sets hsets hsets' hsame)
  refine (issueChallenge_together hw ?_).bind fun _ hw => .ok _ hw
  rw [Backend.address?_eq hs, ← hbind₁.id]
  exact congrArg Except.ok (MemoryStore.get?_of_account? hsets.get?)

-- Records that look the same are challenged alike.
theorem challengeRecord_together (h : w.Resembles now w')
    (ha : VerificationStore.address? a.id w.store = .ok (some a))
    (hb : VerificationStore.address? a.id w'.store = .ok (some b)) :
    Together now ((e.challengeRecord a now : Action σ ι τ RequestOutcome) w)
      ((e.challengeRecord b now : Action σ ι τ RequestOutcome) w') := by
  cases h with
  | @intro s' m m' hnow hshows hshows' hm =>
  rw [Backend.address?_eq hshows] at ha
  rw [Backend.address?_eq hshows'] at hb
  have hget := Except.ok.inj ha
  have hget' := Except.ok.inj hb
  have hblur := hm.blur_eq (MemoryStore.account?_of_get? hget) (MemoryStore.account?_of_get? hget')
  have hrecord : a.blur = b.blur := congrArg Account.record hblur
  have hbind := Address.sameBinding_of_blur hrecord
  have hverified : b.verified = a.verified := by
    rw [← b.verified_blur, ← hrecord, a.verified_blur]
  cases hv : a.verified with
  | true =>
    rw [challengeRecord, challengeRecord, hverified, hv]
    exact .ok _ (.intro hnow hshows hshows' hm)
  | false =>
    by_cases hfit : ∃ c ∈ m.history a.id, c.isLive now = true ∧ c.value = a.value
    · obtain ⟨c, hc, hlive, hvalue⟩ := hfit
      have hc' : c ∈ m'.history b.id := by
        rw [show b.id = a.id from hbind.id]
        exact Account.mem_of_blur_eq hblur hc hlive
      rw [challengeRecord_resends hshows hv hc hlive hvalue,
        challengeRecord_resends (w := { w with store := s' }) hshows' (hverified.trans hv) hc' hlive
          (hvalue.trans hbind.value.symm)]
      exact (mailLink_together (.intro hnow hshows hshows' hm) c).bind fun _ hw => .ok _ hw
    · exact challengeRecord_issues_together hnow hshows hshows' hm hget hget' hblur hv
        fun c hc hlive hvalue => hfit ⟨c, hc, hlive, hvalue⟩

end Record

-- The record is put into its slot on both sides, and challenged there.
theorem ensureChallenge_together [SteadyBackend σ] (h : w.Resembles now w') {slot : Slot}
    {value : Contact}
    (hnew : VerificationStore.address? (w.entropy.drawId .address).1 w.store = .ok none) :
    Together now ((e.ensureChallenge slot value : Action σ ι τ RequestOutcome) w)
      ((e.ensureChallenge slot value : Action σ ι τ RequestOutcome) w') := by
  cases h with
  | @intro s' m m' hnow hshows hshows' hm =>
  subst hnow
  rw [Backend.address?_eq hshows] at hnew
  -- the identifier is drawn before anything is written
  let drawn (s : σ) : World σ ι τ := { w with store := s, entropy := (w.entropy.drawId .address).2 }
  let candidate : Address := .fresh (w.entropy.drawId .address).1 slot value w.now
  have hrun (s : σ) : (e.ensureChallenge slot value : Action σ ι τ RequestOutcome)
      { w with store := s } =
        (do
          let upserted ← changeStore (VerificationStore.upsert candidate)
          e.challengeRecord upserted.address w.now : Action σ ι τ RequestOutcome) (drawn s) := rfl
  rw [show e.ensureChallenge slot value w = _ from hrun w.store, hrun]
  rcases Backend.upsert_resembles hshows hshows' hm (a := candidate) (Except.ok.inj hnew) with
    ⟨hrefused, hrefused'⟩ | ⟨out, out', s₁, s₁', m₁, m₁', hup, hup', hs, hs', halike⟩
  · rw [bind_of_error (changeStore_of_error (w := drawn w.store) hrefused),
      bind_of_error (changeStore_of_error (w := drawn s') hrefused')]
    exact .error _ (.intro rfl hshows hshows' hm)
  · rw [bind_of_ok (changeStore_of_ok (w := drawn w.store) hup),
      bind_of_ok (changeStore_of_ok (w := drawn s') hup')]
    have hw : (drawn s₁).Resembles w.now (drawn s₁') := .intro rfl hs hs' halike.stores
    refine challengeRecord_together hw ?_ ?_
    · rw [Backend.address?_eq hs]
      exact congrArg Except.ok halike.stored
    · rw [Backend.address?_eq hs']
      exact congrArg Except.ok halike.stored'

omit [MailTransport τ]

/-! ## Answers -/

/-- Two answers, and the worlds that are left, are the same up to how challenges lapsed. -/
structure Alike (now : Timestamp)
    (r r' : Except VerificationError α × World σ ι τ) : Prop where
  answer : r.1.mapError VerificationError.blur = r'.1.mapError VerificationError.blur
  world : r.2.Resembles now r'.2

-- What was changed is one challenge and its address on either side.
theorem Yields.alike {x x' : Action σ ι τ α} {c c' : Challenge} {acc acc' : Account}
    {out out' : Except VerificationError α × Attempt} (hnow : w.now = now)
    (hm : m.Resembles now m') (h : Yields x w m c acc out)
    (h' : Yields x' { w with store := s' } m' c' acc' out') (haddress : c.address = c'.address)
    (hacc : acc.blur now = acc'.blur now)
    (hout : Attempt.blurOutcome now out = Attempt.blurOutcome now out') :
    Alike now (x.perform w) (x'.perform { w with store := s' }) := by
  obtain ⟨s₁, m₁, hrun, hshows, hsets⟩ := h
  obtain ⟨s₁', m₁', hrun', hshows', hsets'⟩ := h'
  rw [hrun, hrun']
  rw [← haddress] at hsets'
  refine ⟨congrArg Prod.fst hout, .intro hnow hshows hshows' (hm.sets hsets hsets' ?_)⟩
  have hleft : out.2.blur now = out'.2.blur now := congrArg Prod.snd hout
  rw [Account.blur_amend, hacc, hleft, ← Account.blur_amend]

/-- A challenge and its address on both sides. -/
theorem finds_alike (hshows : Backend.Shows s m) (hshows' : Backend.Shows s' m')
    (hm : m.Resembles now m') {flow : FlowId} {c : Challenge} {acc : Account}
    (hf : Finds m flow c acc) :
    ∃ c' acc', Finds m' flow c' acc' ∧ c'.address = c.address ∧ c'.token = c.token ∧
      acc.blur now = acc'.blur now ∧
      Attempt.blur now ⟨c, acc.record⟩ = Attempt.blur now ⟨c', acc'.record⟩ := by
  obtain ⟨c', acc', hf', hc, hacc⟩ :=
    hm.finds (Backend.intact hshows) (Backend.intact hshows') hf
  have hissue := c.sameIssue_blur now
  rw [hc] at hissue
  have hissue' := c'.sameIssue_blur now
  refine ⟨c', acc', hf', hissue'.address.symm.trans hissue.address,
    hissue'.token.symm.trans hissue.token, hacc, ?_⟩
  rw [Attempt.blur, Attempt.blur, hc]
  exact congrArg (Attempt.mk _) (congrArg Account.record hacc)

theorem openLink_alike (h : w.Resembles now w') (flow : FlowId) (token : String) :
    Alike now ((openLink flow token : Action σ ι τ FlowState).perform w)
      ((openLink flow token : Action σ ι τ FlowState).perform w') := by
  cases h with
  | @intro s' m m' hnow hshows hshows' hm =>
  have hw : w.Resembles now { w with store := s' } := .intro hnow hshows hshows' hm
  cases hc : m.challenges.get? flow with
  | none =>
    have hc' := hm.unknown (Backend.intact hshows) (Backend.intact hshows') hc
    rw [perform_of_error (openLink_unknown hshows hc token),
      perform_of_error (openLink_unknown (w := { w with store := s' }) hshows' hc' token)]
    exact ⟨rfl, hw⟩
  | some c =>
    obtain ⟨acc, hf⟩ := Finds.of_intact (Backend.intact hshows) hc
    obtain ⟨c', acc', hf', haddress, htoken', hacc, hattempt⟩ :=
      finds_alike hshows hshows' hm hf
    by_cases htoken : c.token = token
    · subst htoken
      have hleft := openLink_yields (ι := ι) (τ := τ) hshows hf
      have hright := openLink_yields (w := { w with store := s' }) hshows' hf'
      rw [htoken'] at hright
      refine hleft.alike hnow hm hright haddress.symm hacc ?_
      rw [hnow, ← Attempt.opened_blur, hattempt, Attempt.opened_blur]
    · rw [perform_of_error (openLink_wrongToken hshows hf htoken),
        perform_of_error (openLink_wrongToken (w := { w with store := s' }) hshows' hf'
          (by rw [htoken']; exact htoken))]
      exact ⟨rfl, hw⟩

theorem submit_alike (h : w.Resembles now w') (flow : FlowId) (code : String) :
    Alike now ((submit flow code : Action σ ι τ SubmitOutcome).perform w)
      ((submit flow code : Action σ ι τ SubmitOutcome).perform w') := by
  cases h with
  | @intro s' m m' hnow hshows hshows' hm =>
  cases hc : m.challenges.get? flow with
  | none =>
    have hc' := hm.unknown (Backend.intact hshows) (Backend.intact hshows') hc
    have hrun : (submit flow code : Action σ ι τ SubmitOutcome) w = .error .notFound w := by
      rw [submit, bind_of_error (challenge_of_unknown hshows hc)]
    have hrun' : (submit flow code : Action σ ι τ SubmitOutcome) { w with store := s' } =
        .error .notFound { w with store := s' } := by
      rw [submit, bind_of_error (challenge_of_unknown hshows' hc')]
    rw [perform_of_error hrun, perform_of_error hrun']
    exact ⟨rfl, .intro hnow hshows hshows' hm⟩
  | some c =>
    obtain ⟨acc, hf⟩ := Finds.of_intact (Backend.intact hshows) hc
    obtain ⟨c', acc', hf', haddress, -, hacc, hattempt⟩ := finds_alike hshows hshows' hm hf
    refine (submit_yields hshows hf code).alike hnow hm
      (submit_yields (w := { w with store := s' }) hshows' hf' code) haddress.symm hacc ?_
    rw [hnow, ← Attempt.submitted_blur, hattempt, Attempt.submitted_blur]

end Engine

end Vouch
