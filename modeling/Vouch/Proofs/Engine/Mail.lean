import Vouch.Proofs.Engine.Transports
import Vouch.Proofs.Link
import Vouch.Proofs.Url.Reread

/-!
# What is mailed

A link and a code reach no one but the owner of the value that they are for.  Right after the
request that mails them, the link leads to an active challenge for that value, and the value is the
one that the slot of the address has.  A notice goes to no one who has an address.
-/

namespace Vouch

open Vouch.Action

variable {σ ι τ : Type} [VerificationStore σ]

/-- A message is for the one who has what it tells of. -/
inductive Mail.Sound (e : Engine) (s : σ) : Mail → Prop where
  /-- The link and the code are those of an active challenge, for the value that its slot has. -/
  | verification {url : Url} {c : Challenge} {a : Address} :
    VerificationStore.challenge? c.id s = .ok (some c) → c.isActive = true →
      e.publicUrl.link c.id c.token = .ok url →
      readLink? url.render = (if e.publicUrl.hostReads then some (c.id, c.token) else none) →
      VerificationStore.address? c.address s = .ok (some a) →
      VerificationStore.addressIn? a.slot s = .ok (some a) → a.value = c.value →
      Sound e s (.verification c.value url.render c.code)
  /-- No address has the value. -/
  | unknownAddress {value : Contact} :
    (∀ id a, VerificationStore.address? id s = .ok (some a) → a.value ≠ value) →
      Sound e s (.unknownAddress value)

section Messages

variable [IdentityStore ι] [MailTransport τ]

/-- The messages of operations one after another, as far as the first one that fails, each with the
store as it is right after the operation. -/
def Engine.sent (e : Engine) : List Operation → World σ ι τ → List (Mail × σ)
  | [], _ => []
  | op :: ops, w =>
    (op.mails e w).map (·, (op.perform e w).2.store) ++
      match (op.perform e w).1 with
      | .requested (.ok _) => e.sent ops (op.perform e w).2
      | _ => []

/-- The messages of a batch, each with the store as it is right after it was sent. -/
def Batch.sent (e : Engine) (w : World σ ι τ) (b : Batch) : List (Mail × σ) :=
  (b.notices w).map (·, w.store) ++ e.sent (b.operations w) w

end Messages

/-! ## What is sent -/

namespace Engine

variable {e : Engine} {w : World σ ι τ} {m m' : MemoryStore} {s : σ}

section Letters

variable [Backend σ] {slot : Slot} {value : Contact} {now : Timestamp}

omit [VerificationStore σ] [Backend σ] in
-- Whatever flow a request names, the slot has an active challenge for the value there.
theorem Ensures.challenge {outcome : RequestOutcome}
    (h : e.Ensures m slot value now (.ok outcome) m') {flow : FlowId}
    (hflow : outcome.flow? = some flow) : ∃ id acc c, m'.account? id = some acc ∧
      acc.record.slot = slot ∧ acc.record.value = value ∧ c ∈ acc.history ∧ c.id = flow ∧
      c.isActive = true ∧ c.value = value := by
  cases h with
  | alreadyVerified => cases hflow
  | resent hacc hslot hvalue _ hc hact _ hcv =>
    exact ⟨_, _, _, hacc, hslot, hvalue, hc, Option.some.inj hflow, hact, hcv⟩
  | @issued id acc c token code m' haddressed hverified hnew hc hsets =>
    have hslot : acc.record.slot = slot := by
      cases haddressed with
      | known _ hslot => exact hslot
      | fresh => rfl
    have hvalue : c.value = value := by
      rw [hc]
      rfl
    have hact : c.isActive = true := by
      rw [hc]
      rfl
    exact ⟨id, _, c, hsets.get?, hslot, hvalue, List.mem_append_right _ (List.mem_singleton_self c),
      Option.some.inj hflow, hact, hvalue⟩

theorem sound_of_mem_letters (hbase : e.publicUrl.base.Formed) (h : Backend.Shows s m)
    {id : AddressId} {acc : Account} (hacc : m.account? id = some acc) {c : Challenge}
    (hc : c ∈ acc.history) (hact : c.isActive = true) (hvalue : acc.record.value = c.value)
    {mail : Mail} (hmail : mail ∈ e.letters c) : mail.Sound e s := by
  have hi := Backend.intact h
  have hget := MemoryStore.get?_of_account? hacc
  rw [← MemoryStore.history_of_account? hacc] at hc
  obtain ⟨hstored, rfl⟩ := hi.mem_history.mp hc
  rw [letters] at hmail
  cases hlink : e.publicUrl.link c.id c.token with
  | error _ =>
    rw [hlink] at hmail
    cases hmail
  | ok url =>
    rw [hlink] at hmail
    cases List.mem_singleton.mp hmail
    refine .verification ?_ hact hlink (e.publicUrl.readLink?_link hbase hlink) ?_ ?_ hvalue
    · rw [Backend.challenge?_eq h, hstored]
    · rw [Backend.address?_eq h, hget]
    · rw [Backend.addressIn?_eq h, hi.slot_iff.mpr ⟨_, hget, rfl⟩]
      exact congrArg Except.ok hget

theorem sound_of_mem_mailsFor (hbase : e.publicUrl.base.Formed) (h : Backend.Shows s m')
    {answer : Except VerificationError RequestOutcome}
    (hensures : e.Ensures m slot value now answer m') {mail : Mail}
    (hmail : mail ∈ e.mailsFor m' answer) : mail.Sound e s := by
  cases answer with
  | error error => cases hmail
  | ok outcome =>
    cases hflow : outcome.flow? with
    | none =>
      rw [mailsFor, hflow] at hmail
      cases hmail
    | some flow =>
      obtain ⟨id, acc, c, hacc, -, hrecord, hc, rfl, hact, hvalue⟩ := hensures.challenge hflow
      rw [e.mailsFor_eq outcome (Backend.intact h) hacc hc hflow] at hmail
      exact sound_of_mem_letters hbase h hacc hc hact (hrecord.trans hvalue.symm) hmail

/-- The messages that lead to an answer. -/
def mailsOf (e : Engine) (m : MemoryStore) : Answer → List Mail
  | .requested outcome => e.mailsFor m outcome
  | .opened _ | .submitted _ | .swept _ => []

-- What is shown by one store leads to the same messages.
theorem mailsFor_congr (h : Backend.Shows s m) (h' : Backend.Shows s m')
    (answer : Except VerificationError RequestOutcome) :
    e.mailsFor m answer = e.mailsFor m' answer := by
  have hget : m.challenges.get? = m'.challenges.get? := by
    funext flow
    have hread := Backend.challenge?_eq h flow
    rw [Backend.challenge?_eq h' flow] at hread
    exact (Except.ok.inj hread).symm
  cases answer with
  | error error => rfl
  | ok outcome => rw [mailsFor, mailsFor, hget]

end Letters

end Engine

namespace Operation

variable [IdentityStore ι] [MailTransport τ] [Backend σ] {e : Engine} {w : World σ ι τ}
  {m : MemoryStore} {op : Operation}

omit [IdentityStore ι] in
-- What a recorder has noted of a request.
theorem sent_ensureChallenge {w : World σ ι MailRecorder} {slot : Slot} {value : Contact}
    (h : Backend.Shows w.store m) (hmailer : w.mailer = .of [])
    (hdraws : w.DrawsUnknown ((e.ensureChallenge slot value).perform w).2) :
    ∃ m', Backend.Shows ((e.ensureChallenge slot value).perform w).2.store m' ∧
      ((e.ensureChallenge slot value).perform w).2.mailer.sent =
        e.mailsFor m' ((e.ensureChallenge slot value).perform w).1 := by
  obtain ⟨m', hshows, -, hsent⟩ := ensureChallenge_ends e h hdraws
  rw [hsent, hmailer, MailRecorder.deliver_of]
  exact ⟨m', hshows, rfl⟩

omit [VerificationStore σ] [IdentityStore ι] [Backend σ] in
-- An action that hands nothing to the transport leaves a recorder empty.
theorem sent_of_recorded {α : Type} {x : Action σ ι MailRecorder α}
    (hx : Recorded (fun _ => False) x x) {w : World σ ι MailRecorder}
    (hmailer : w.mailer = .of []) : (x.perform w).2.mailer.sent = [] := by
  have hw : w.withMailer (MailRecorder.of []) = w := by
    rw [← hmailer]
    rfl
  have hnone := (Handed.mailer hx w).1
  rw [show w.withMailer MailRecorder.empty = w from hw] at hnone
  exact List.eq_nil_iff_forall_not_mem.mpr hnone

-- What a recorder has noted of an operation.
theorem sent_perform {w : World σ ι MailRecorder} (h : Backend.Shows w.store m)
    (hmailer : w.mailer = .of []) (hop : op.Possible e w) :
    ∃ m', Backend.Shows (op.perform e w).2.store m' ∧
      (op.perform e w).2.mailer.sent = e.mailsOf m' (op.perform e w).1 := by
  have hnone : w.mailer.sent = [] := congrArg MailRecorder.sent hmailer
  obtain ⟨m', hshows, -⟩ := op.perform_ends e h hop
  have hdraws := hop.draws
  cases op with
  | request id declared =>
    rcases request_run (w := w) e id declared with ⟨error, hrun⟩ | hrun
    · rw [perform, perform_of_error hrun]
      exact ⟨m, h, hnone⟩
    · rw [perform, perform_congr hrun] at hdraws ⊢
      exact sent_ensureChallenge h hmailer hdraws
  | traitsChanged id declared =>
    rcases traitsChanged_run (w := w) e id declared with ⟨error, hrun⟩ | ⟨identities, hrun⟩
    · rw [perform, perform_of_error hrun]
      exact ⟨m, h, hnone⟩
    · rw [perform, perform_congr hrun] at hdraws ⊢
      exact sent_ensureChallenge (w := { w with identities }) h hmailer
        ⟨hdraws.address, hdraws.flow⟩
  | resend owner channel value => exact sent_ensureChallenge h hmailer hdraws
  | openLink flow token =>
    exact ⟨m', hshows, sent_of_recorded (Engine.recorded_openLink flow token) hmailer⟩
  | submit flow code =>
    exact ⟨m', hshows, sent_of_recorded (Engine.recorded_submit flow code) hmailer⟩
  | sweep => exact ⟨m', hshows, sent_of_recorded Engine.recorded_sweep hmailer⟩

/-- The messages of an operation are those that lead to its answer, and no more. -/
theorem mails_ends (e : Engine) (h : Backend.Shows w.store m) (hop : op.Possible e w) :
    ∃ m', Backend.Shows (op.perform e w).2.store m' ∧
      op.Ends e m w.now (op.perform e w).1 m' ∧
      op.mails e w = e.mailsOf m' (op.perform e w).1 := by
  obtain ⟨m', hshows, hends⟩ := op.perform_ends e h hop
  obtain ⟨m'', hshows', hsent⟩ := sent_perform (w := w.withMailer MailRecorder.empty) h rfl
    (Engine.possible_withMailer hop MailRecorder.empty)
  rw [op.perform_withMailer e w MailRecorder.empty] at hshows' hsent
  refine ⟨m', hshows, hends, ?_⟩
  rw [mails, op.perform_withMailer e w MailRecorder.empty, hsent]
  dsimp only
  cases (op.perform e w).1 with
  | requested outcome => exact Engine.mailsFor_congr hshows' hshows outcome
  | opened _ | submitted _ | swept _ => rfl

/-- Whatever an operation mails is right once it is done. -/
theorem sound_of_mem_mails (hbase : e.publicUrl.base.Formed) (h : Backend.Shows w.store m)
    (hop : op.Possible e w) {mail : Mail} (hmail : mail ∈ op.mails e w) :
    mail.Sound e (op.perform e w).2.store := by
  obtain ⟨m', hshows, hends, hmails⟩ := mails_ends e h hop
  rw [hmails] at hmail
  generalize (op.perform e w).1 = answer at hends hmail
  cases hends with
  | refused => cases hmail
  | declared _ hensures => exact Engine.sound_of_mem_mailsFor hbase hshows hensures hmail
  | resent _ _ _ hensures => exact Engine.sound_of_mem_mailsFor hbase hshows hensures hmail
  | opened | submitted | swept => cases hmail

-- What is mailed by a request that names a flow.
theorem mails_of_requested (h : Backend.Shows w.store m) (hop : op.Possible e w)
    {outcome : RequestOutcome} {flow : FlowId}
    (hanswer : (op.perform e w).1 = .requested (.ok outcome))
    (hflow : outcome.flow? = some flow) :
    ∃ c, VerificationStore.challenge? flow (op.perform e w).2.store = .ok (some c) ∧
      c.id = flow ∧ op.mails e w = e.letters c := by
  obtain ⟨m', hshows, hends, hmails⟩ := mails_ends e h hop
  rw [hanswer] at hends hmails
  obtain ⟨slot, value, hensures⟩ : ∃ slot value, e.Ensures m slot value w.now (.ok outcome) m' := by
    cases hends with
    | declared _ hensures => exact ⟨_, _, hensures⟩
    | resent _ _ _ hensures => exact ⟨_, _, hensures⟩
  obtain ⟨id, acc, c, hacc, -, -, hc, rfl, -, -⟩ := hensures.challenge hflow
  have hi := Backend.intact hshows
  refine ⟨c, ?_, rfl, hmails.trans (e.mailsFor_eq outcome hi hacc hc hflow)⟩
  rw [← MemoryStore.history_of_account? hacc] at hc
  rw [Backend.challenge?_eq hshows, (hi.mem_history.mp hc).1]

/-- A request that names a flow mails its link, if one can be made. -/
theorem mails_of_flow (hlink : ∀ flow token, ∃ url, e.publicUrl.link flow token = .ok url)
    (h : Backend.Shows w.store m) (hop : op.Possible e w) {outcome : RequestOutcome}
    {flow : FlowId} (hanswer : (op.perform e w).1 = .requested (.ok outcome))
    (hflow : outcome.flow? = some flow) :
    ∃ c url, VerificationStore.challenge? flow (op.perform e w).2.store = .ok (some c) ∧
      e.publicUrl.link flow c.token = .ok url ∧
      op.mails e w = [.verification c.value url.render c.code] := by
  obtain ⟨c, hstored, rfl, hmails⟩ := op.mails_of_requested h hop hanswer hflow
  obtain ⟨url, hurl⟩ := hlink c.id c.token
  exact ⟨c, url, hstored, hurl, by rw [hmails, Engine.letters, hurl]⟩

end Operation

namespace Engine

variable [IdentityStore ι] [MailTransport τ] {e : Engine} {w : World σ ι τ} {m : MemoryStore}

/-! ## Batches -/

-- The same messages are sent whatever the transport.
theorem sent_withMailer {τ' : Type} [MailTransport τ'] (e : Engine) (ops : List Operation)
    (w : World σ ι τ) (mailer : τ') : e.sent ops (w.withMailer mailer) = e.sent ops w := by
  induction ops generalizing w mailer with
  | nil => rfl
  | cons op ops ih =>
    rw [sent, sent, op.perform_withMailer e w mailer]
    have hmails : op.mails e (w.withMailer mailer) = op.mails e w := rfl
    rw [hmails]
    refine congrArg (_ ++ ·) ?_
    dsimp only
    split
    · exact ih _ _
    · rfl

variable [Backend σ]

theorem sound_of_mem_sent (hbase : e.publicUrl.base.Formed) {ops : List Operation}
    (h : Backend.Shows w.store m) (hpossible : e.AllPossible ops w) :
    ∀ sent ∈ e.sent ops w, sent.1.Sound e sent.2 := by
  induction ops generalizing w m with
  | nil => exact fun _ hmem => (nomatch hmem)
  | cons op ops ih =>
    obtain ⟨hop, hrest⟩ := hpossible
    intro sent hmem
    rcases List.mem_append.mp hmem with hmem | hmem
    · obtain ⟨mail, hmail, rfl⟩ := List.mem_map.mp hmem
      exact op.sound_of_mem_mails hbase h hop hmail
    · obtain ⟨m', hshows, -⟩ := op.perform_ends e h hop
      split at hmem
      · rename_i outcome houtcome
        exact ih hshows (hrest outcome houtcome) sent hmem
      · cases hmem

omit [IdentityStore ι] [MailTransport τ] in
-- A notice goes to a value that is nobody's.
theorem sound_of_mem_notices (h : Backend.Shows w.store m) {b : Batch} {mail : Mail}
    (hmail : mail ∈ b.notices w) : mail.Sound e w.store := by
  cases b with
  | afterRegistration id => cases hmail
  | afterSettings id => cases hmail
  | requestByValue channel raw =>
    rw [Batch.notices] at hmail
    cases hparse : Contact.parse channel raw with
    | error cause =>
      rw [hparse] at hmail
      cases hmail
    | ok value =>
      obtain ⟨owners, hread, -, howners⟩ := Backend.addressesWith_eq h channel value
      rw [hparse, Batch.notice, hread] at hmail
      cases owners with
      | cons owner owners => cases hmail
      | nil =>
        cases List.mem_singleton.mp hmail
        refine .unknownAddress fun id a ha hvalue => ?_
        rw [Backend.address?_eq h] at ha
        have hget := Except.ok.inj ha
        rw [← (Backend.intact h).id_of_address hget] at hget
        exact List.not_mem_nil ((howners a).mpr ⟨hget, rfl, hvalue⟩)

omit [Backend σ] in
-- The operations of a list, performed by one action, send what they send one after another.
theorem mapM_mailer {α : Type} {f : α → Action σ ι τ RequestOutcome} {g : α → Operation}
    (hperform : ∀ a w, (g a).perform e w = ((f a).perform w).map .requested id) (l : List α)
    (w : World σ ι τ) : ((l.mapM f).perform w).2.mailer =
      MailTransport.deliver w.now ((e.sent (l.map g) w).map Prod.fst) w.mailer := by
  induction l generalizing w with
  | nil => rfl
  | cons a l ih =>
    obtain ⟨-, hnow, hmailer⟩ := Handed.mailer ((g a).handed e) w
    have hfirst : ((g a).mails e w).map (Prod.fst ∘ (·, ((g a).perform e w).2.store)) =
      (g a).mails e w := List.map_id _
    rw [List.map_cons, sent, List.map_append, List.map_map, hfirst, MailTransport.deliver_append,
      Operation.mails, ← hmailer, List.mapM_cons]
    rw [hperform] at hnow ⊢
    cases hrun : f a w with
    | error error =>
      rw [perform_of_error hrun, perform_of_error (bind_of_error hrun)]
      rfl
    | ok outcome w₁ =>
      rw [perform_of_ok hrun] at hnow ⊢
      have hrest := ih w₁
      rw [perform_congr (bind_of_ok hrun), perform_return, hrest]
      exact congrArg (MailTransport.deliver · _ w₁.mailer) hnow

/-- The transport is handed these messages by a batch, and nothing else. -/
theorem mailer_batch (e : Engine) (h : Backend.Shows w.store m) (b : Batch) :
    (b.perform e w).2.mailer =
      MailTransport.deliver w.now ((b.sent e w).map Prod.fst) w.mailer := by
  rcases batch_performs e h b with ⟨hnone, hworld⟩ | ⟨hnone, _, f, g, l, hperform, hops, hrun⟩
  · rw [hworld, Batch.sent, hnone, sent, List.append_nil, List.map_map]
    exact congrArg (MailTransport.deliver w.now · w.mailer) (List.map_id _).symm
  · rw [hrun, Batch.sent, hnone, hops, List.map_nil, List.nil_append]
    exact mapM_mailer hperform l w

omit [Backend σ] in
theorem sent_batch_withMailer {τ' : Type} [MailTransport τ'] (e : Engine) (b : Batch)
    (w : World σ ι τ) (mailer : τ') : b.sent e (w.withMailer mailer) = b.sent e w := by
  rw [Batch.sent, Batch.sent, b.operations_withMailer, b.notices_withMailer, sent_withMailer]
  rfl

/-- What a recorder notes of a batch is what its requests send, one after another. -/
theorem mails_batch (e : Engine) (h : Backend.Shows w.store m) (b : Batch) :
    b.mails e w = (b.sent e w).map Prod.fst := by
  have hmailer := mailer_batch (w := w.withMailer MailRecorder.empty) e h b
  rw [Batch.mails, hmailer, sent_batch_withMailer]
  exact congrArg MailRecorder.sent (MailRecorder.deliver_of w.now _ [])

theorem sound_of_mem_batch (hbase : e.publicUrl.base.Formed) (h : Backend.Shows w.store m)
    {b : Batch} (hdraws : e.DrawUnknown (b.operations w) w) :
    ∀ sent ∈ b.sent e w, sent.1.Sound e sent.2 := by
  intro sent hmem
  rcases List.mem_append.mp hmem with hmem | hmem
  · obtain ⟨mail, hmail, rfl⟩ := List.mem_map.mp hmem
    exact sound_of_mem_notices h hmail
  · exact sound_of_mem_sent hbase h (batch_possible h hdraws) sent hmem

/-! ## All runs -/

/-- In every run, whatever is mailed is for the one who has what it tells of, right after the
request that mails it.  A request that names a flow mails the link of that flow.  The transport is
handed nothing else, and what becomes of the messages changes nothing but the transport. -/
theorem mails_sound_of_reachable (hw : e.Reachable w) {text : String}
    (hurl : PublicUrl.parse text = .ok e.publicUrl) :
    (∀ op : Operation, op.Possible e w →
      (∀ mail ∈ op.mails e w, mail.Sound e (op.perform e w).2.store) ∧
      (e.publicUrl.base.authority ≠ none → ∀ outcome flow,
        (op.perform e w).1 = .requested (.ok outcome) → outcome.flow? = some flow →
          ∃ c url, VerificationStore.challenge? flow (op.perform e w).2.store = .ok (some c) ∧
            e.publicUrl.link flow c.token = .ok url ∧
            op.mails e w = [.verification c.value url.render c.code]) ∧
      ∀ {τ' : Type} [MailTransport τ'] (mailer : τ'), op.perform e (w.withMailer mailer) =
        ((op.perform e w).1, (op.perform e w).2.withMailer
          (MailTransport.deliver w.now (op.mails e w) mailer))) ∧
    ∀ b : Batch, e.DrawUnknown (b.operations w) w →
      (∀ sent ∈ b.sent e w, sent.1.Sound e sent.2) ∧
      ∀ {τ' : Type} [MailTransport τ'] (mailer : τ'), b.perform e (w.withMailer mailer) =
        ((b.perform e w).1, (b.perform e w).2.withMailer
          (MailTransport.deliver w.now ((b.sent e w).map Prod.fst) mailer)) := by
  obtain ⟨m, hshows, -⟩ := hw.keeps (P := fun _ => True) (fun _ _ _ _ => trivial) trivial
  have hbase := PublicUrl.formed_of_parse hurl
  refine ⟨fun op hop => ⟨fun mail => op.sound_of_mem_mails hbase hshows hop,
    fun hauthority outcome flow =>
      op.mails_of_flow (e.publicUrl.link_total hbase hauthority) hshows hop, ?_⟩,
    fun b hdraws => ⟨sound_of_mem_batch hbase hshows hdraws, ?_⟩⟩
  · exact op.perform_withMailer e w
  · intro τ' _ mailer
    rw [← mails_batch e hshows b]
    exact b.perform_withMailer e w mailer

end Engine

/-! ## The first mail of a run -/

namespace Sample

/-- The record of the first address. -/
def firstRecord : Address :=
  .fresh (drawnAt .address 0) ⟨ann, .email⟩ home.value start.now

/-- The world in which the record has been stored, and no challenge yet. -/
def stored : World MemoryStore MemoryIdentities MailRecorder where
  store := (start.store.upsert firstRecord).toOption.elim .empty Prod.snd
  identities := start.identities
  mailer := start.mailer
  now := start.now
  entropy := (start.entropy.drawId .address).2

def firstChallenge : Challenge :=
  (engine.drawChallenge firstRecord stored).1

theorem request_possible (p : PublicUrl) :
    (Operation.request ann home).Possible ⟨p, .standard⟩ start :=
  ⟨⟨fun _ => rfl, fun _ => rfl⟩, trivial⟩

-- Wherever links lead, the first request issues the first challenge and mails its link.
theorem request_issues (p : PublicUrl) :
    ((Operation.request ann home).perform ⟨p, .standard⟩ start).1 =
        .requested (.ok (.issued firstChallenge.id)) ∧
      (Operation.request ann home).mails ⟨p, .standard⟩ start =
        Engine.letters ⟨p, .standard⟩ firstChallenge := by
  let e : Engine := ⟨p, .standard⟩
  have hrequest : (e.request ann home : Action MemoryStore MemoryIdentities MailRecorder _) start =
      (do return RequestOutcome.issued (← e.issueChallenge firstRecord)) stored := rfl
  have hcreate : ∃ result, VerificationStore.create (e.drawChallenge firstRecord stored).1
      stored.store = .ok result := ⟨_, rfl⟩
  obtain ⟨⟨superseded, s⟩, hcreate⟩ := hcreate
  have hissue := e.issueChallenge_of_ok firstRecord hcreate
  have hmails : (Operation.request ann home).mails e start =
      ((e.request ann home).perform start).2.mailer.sent := rfl
  rw [hmails, Operation.perform, perform_congr hrequest, perform_congr (bind_of_ok hissue)]
  exact ⟨rfl, congrArg MailRecorder.sent (MailRecorder.deliver_of start.now _ [])⟩

/-- Under a plain address the first request mails the link of the flow that it names.  The link is
read, and the message is sound. -/
theorem first_mail_sound : ∃ p : PublicUrl, PublicUrl.parse "https://vouch.example/" = .ok p ∧
    ∃ c url,
      VerificationStore.challenge? firstChallenge.id
        ((Operation.request ann home).perform ⟨p, .standard⟩ start).2.store = .ok (some c) ∧
      p.link firstChallenge.id c.token = .ok url ∧
      (Operation.request ann home).mails ⟨p, .standard⟩ start =
        [.verification c.value url.render c.code] ∧
      readLink? url.render = some (firstChallenge.id, c.token) ∧
      (Mail.verification c.value url.render c.code).Sound ⟨p, .standard⟩
        ((Operation.request ann home).perform ⟨p, .standard⟩ start).2.store := by
  have hscheme : Url.IsScheme "https".toList :=
    ⟨List.all_iff_forall_prop.mp (by decide), by decide, by decide⟩
  have hallowed : ∀ c ∈ "vouch.example".toList, Url.isForbiddenInDomain c = false :=
    List.all_iff_forall_prop.mp (by decide)
  have hascii : Idna.toAscii? "vouch.example".toList = some "vouch.example".toList :=
    Idna.toAscii?_ascii (List.all_iff_forall_prop.mp (by decide)) (by decide)
  have hname : Url.normalizeHost "vouch.example".toList = .ok "vouch.example".toList :=
    Url.normalizeHost_domain hascii (by decide) hallowed (by decide)
  obtain ⟨p, hp, hauthority, hreads⟩ := PublicUrl.parse_site hscheme (by decide) (by decide)
    (.of_allowed hallowed) (by decide) hname
  rw [hname] at hreads
  rw [PublicUrl.render_site] at hp
  have hstart : Engine.Reachable ⟨p, .standard⟩ start := ⟨start, rfl, .refl⟩
  obtain ⟨hsound, hnamed, -⟩ :=
    (Engine.mails_sound_of_reachable hstart hp).1 _ (request_possible p)
  obtain ⟨c, url, hstored, hlink, hmails⟩ := hnamed hauthority _ _ (request_issues p).1 rfl
  have hread := p.readLink?_link (PublicUrl.formed_of_parse hp) hlink
  rw [hreads] at hread
  refine ⟨p, hp, c, url, hstored, hlink, hmails, hread, hsound _ ?_⟩
  rw [hmails]
  exact List.mem_singleton_self _

/-- Under an address whose host takes up too much in Punycode a message is sent, but its link is
not read. -/
theorem mailed_link_refused : ∃ p : PublicUrl,
    PublicUrl.parse (.ofList ("http://".toList ++ Url.farApart 700 ++ ['/'])) = .ok p ∧
    Engine.Reachable ⟨p, .standard⟩ start ∧
    (Operation.request ann home).Possible ⟨p, .standard⟩ start ∧
    ∃ url, p.link firstChallenge.id firstChallenge.token = .ok url ∧
      .verification home.value url.render firstChallenge.code ∈
        (Operation.request ann home).mails ⟨p, .standard⟩ start ∧ readLink? url.render = none := by
  have hscheme : Url.IsScheme "http".toList :=
    ⟨List.all_iff_forall_prop.mp (by decide), by decide, by decide⟩
  have hideographs := Url.isIdeograph_farApart (n := 700) (by decide)
  have hlength : (Url.farApart 700).length = 700 := by
    rw [Url.farApart, List.length_map, List.length_range]
  obtain ⟨name, hname, hrefused⟩ := Url.normalizeHost_spaced hideographs
    (Url.spaced_farApart (by decide)) (by omega) (by rw [hlength]; decide)
  obtain ⟨p, hp, hauthority, hreads⟩ := PublicUrl.parse_site hscheme (by decide) (by decide)
    (Url.isHost_ideographs hideographs) (List.ne_nil_of_length_pos (by omega)) hname
  rw [hrefused] at hreads
  rw [PublicUrl.render_site] at hp
  have hbase := PublicUrl.formed_of_parse hp
  obtain ⟨url, hlink⟩ := p.link_total hbase hauthority firstChallenge.id firstChallenge.token
  have hread := p.readLink?_link hbase hlink
  rw [hreads] at hread
  refine ⟨p, hp, ⟨start, rfl, .refl⟩, request_possible p, url, hlink, ?_, hread⟩
  rw [(request_issues p).2, Engine.letters, hlink]
  exact List.mem_singleton_self _

end Sample

end Vouch
