import Mathlib.Data.List.Forall2
import Vouch.Node
import Vouch.Proofs.Engine.Mail
import Vouch.Proofs.Url.Base

/-!
# Whether a request mails a link

A request that names a flow mails the link of that flow, once, if links can be made under the
public address.  Under an address that is rootless none can be made: whatever a request answers, it
mails nothing.
-/

namespace Vouch

open Vouch.Action

variable {σ ι τ : Type}

/-- The message carries a link under the public address that leads to the flow. -/
def Engine.LeadsTo (e : Engine) (flow : FlowId) (mail : Mail) : Prop :=
  ∃ value token code url, e.publicUrl.link flow token = .ok url ∧
    mail = .verification value url.render code

namespace Operation

variable [VerificationStore σ] [IdentityStore ι] [MailTransport τ] [Backend σ] {e : Engine}
  {w : World σ ι τ} {m : MemoryStore} {op : Operation} {outcome : RequestOutcome} {flow : FlowId}

-- A request that names no flow mails nothing.
theorem mails_of_no_flow (h : Backend.Shows w.store m) (hop : op.Possible e w)
    (hanswer : (op.perform e w).1 = .requested (.ok outcome)) (hflow : outcome.flow? = none) :
    op.mails e w = [] := by
  obtain ⟨m', -, -, hmails⟩ := mails_ends e h hop
  rw [hmails, hanswer, Engine.mailsOf, Engine.mailsFor, hflow]
  rfl

/-- Without links nothing is mailed, whatever the answer. -/
theorem mails_eq_nil (hletters : ∀ c, e.letters c = []) (h : Backend.Shows w.store m)
    (hop : op.Possible e w) : op.mails e w = [] := by
  obtain ⟨m', -, -, hmails⟩ := mails_ends e h hop
  rw [hmails]
  cases (op.perform e w).1 with
  | requested outcome =>
    cases outcome with
    | error error => rfl
    | ok outcome =>
      rw [Engine.mailsOf, Engine.mailsFor]
      cases outcome.flow?.bind m'.challenges.get? with
      | none => rfl
      | some c => exact hletters c
  | opened _ | submitted _ | swept _ => rfl

end Operation

namespace Engine

variable [VerificationStore σ] [IdentityStore ι] [MailTransport τ] [Backend σ] {e : Engine}
  {w w' : World σ ι τ} {m : MemoryStore}

/-! ## Requests one after another -/

section Sequences

variable {α : Type} {f : α → Action σ ι τ RequestOutcome} {g : α → Operation} {l : List α}

-- Every flow that is named is told of, in order.
theorem sent_leadsTo (hlink : ∀ flow token, ∃ url, e.publicUrl.link flow token = .ok url)
    (hperform : ∀ a w, (g a).perform e w = ((f a).perform w).map .requested id)
    (h : Backend.Shows w.store m) (hpossible : e.AllPossible (l.map g) w)
    {outcomes : List RequestOutcome} (hrun : l.mapM f w = .ok outcomes w') :
    List.Forall₂ e.LeadsTo (outcomes.filterMap RequestOutcome.flow?)
      ((e.sent (l.map g) w).map Prod.fst) := by
  induction l generalizing w outcomes m with
  | nil =>
    cases hrun
    exact .nil
  | cons a l ih =>
    obtain ⟨hop, hrest⟩ := hpossible
    obtain ⟨m₁, hshows, -⟩ := (g a).perform_ends e h hop
    rw [List.mapM_cons] at hrun
    cases hfirst : f a w with
    | error error w₁ =>
      rw [bind_of_error hfirst] at hrun
      cases hrun
    | ok outcome w₁ =>
      have hanswer : (g a).perform e w = (.requested (.ok outcome), w₁) := by
        rw [hperform, perform_of_ok hfirst]
        rfl
      rw [bind_of_ok hfirst] at hrun
      cases hmore : l.mapM f w₁ with
      | error error w₂ =>
        rw [bind_of_error hmore] at hrun
        cases hrun
      | ok more w₂ =>
        rw [bind_of_ok hmore] at hrun
        cases hrun
        rw [hanswer] at hshows hrest
        have hothers := ih hshows (hrest outcome rfl) hmore
        have hsame : ((g a).mails e w).map (Prod.fst ∘ (·, ((g a).perform e w).2.store)) =
          (g a).mails e w := List.map_id _
        rw [List.map_cons, sent, List.map_append, List.map_map, hsame]
        cases hflow : outcome.flow? with
        | none =>
          rw [Operation.mails_of_no_flow h hop (congrArg Prod.fst hanswer) hflow,
            List.filterMap_cons_none hflow, hanswer]
          exact hothers
        | some flow =>
          obtain ⟨c, -, hid, hmails⟩ :=
            Operation.mails_of_requested h hop (congrArg Prod.fst hanswer) hflow
          obtain ⟨url, hurl⟩ := hlink c.id c.token
          rw [hmails, letters, hurl, List.filterMap_cons_some hflow, hanswer]
          exact .cons ⟨c.value, c.token, c.code, url, hid ▸ hurl, rfl⟩ hothers

theorem sent_eq_nil (hletters : ∀ c, e.letters c = []) {ops : List Operation}
    (h : Backend.Shows w.store m) (hpossible : e.AllPossible ops w) : e.sent ops w = [] := by
  induction ops generalizing w m with
  | nil => rfl
  | cons op ops ih =>
    obtain ⟨hop, hrest⟩ := hpossible
    obtain ⟨m₁, hshows, -⟩ := op.perform_ends e h hop
    rw [sent, op.mails_eq_nil hletters h hop, List.map_nil, List.nil_append]
    split
    · rename_i outcome hanswer
      exact ih hshows (hrest outcome hanswer)
    · rfl

end Sequences

omit [VerificationStore σ] [MailTransport τ] [Backend σ] in
-- A hook that finds nothing declared answers nothing.
theorem hook_eq_nil {id : IdentityId} {f : DeclaredAddress → Action σ ι τ RequestOutcome}
    (hnone : Batch.declared w id = []) {outcomes : List RequestOutcome}
    (hanswer : (Action.perform (do (← declaredAddresses id).mapM f) w).1 = .ok outcomes) :
    outcomes = [] := by
  rcases declaredAddresses_run (w := w) id with ⟨⟨error, hrun⟩, -⟩ | hrun
  · rw [perform_of_error (bind_of_error hrun)] at hanswer
    cases hanswer
  · rw [perform_congr (bind_of_ok hrun), hnone] at hanswer
    exact (Except.ok.inj hanswer).symm

-- A batch that makes no requests names no flows.
theorem outcomes_eq_nil (h : Backend.Shows w.store m) {b : Batch} (hnone : b.operations w = [])
    {outcomes : List RequestOutcome} (hanswer : (b.perform e w).1 = .ok outcomes) :
    outcomes = [] := by
  cases b with
  | requestByValue channel raw =>
    cases hparse : Contact.parse channel raw with
    | error cause =>
      have hrun := e.requestByValue_unparsed (w := w) hparse
      rw [Batch.perform, perform_of_error hrun] at hanswer
      cases hanswer
    | ok value =>
      obtain ⟨owners, hread, -, -⟩ := Backend.addressesWith_eq h channel value
      rw [Batch.operations, hparse, Batch.resends, hread, List.map_eq_nil_iff] at hnone
      rw [Batch.perform, perform_congr (e.requestByValue_run hparse hread), hnone,
        if_pos List.isEmpty_nil, perform_congr (bind_of_ok (send_run _))] at hanswer
      exact (Except.ok.inj hanswer).symm
  | afterRegistration id =>
    rw [Batch.operations, List.map_eq_nil_iff] at hnone
    exact hook_eq_nil hnone hanswer
  | afterSettings id =>
    rw [Batch.operations, List.map_eq_nil_iff] at hnone
    exact hook_eq_nil hnone hanswer

/-! ## All runs -/

/-- Every text that is accepted as a public address is accepted by a node.  If it is rootless, no
link can be made and no request mails one, whatever it answers.  Otherwise every link can be made,
a request that names a flow mails that flow's link and nothing else, and requests that are made
together mail one link for each flow that they name, in order. -/
theorem dispatch_of_reachable (h : e.Reachable w) {text : String}
    (hurl : PublicUrl.parse text = .ok e.publicUrl) :
    (∀ config : Config, config.publicUrl = text →
      Node.engine config = .ok ⟨e.publicUrl, config.policy⟩) ∧
    if Url.isRootless text then
      (∀ flow token, e.publicUrl.link flow token = .error .cannotBeABase) ∧
      (∀ op : Operation, op.Possible e w → op.mails e w = []) ∧
      ∀ b : Batch, e.DrawUnknown (b.operations w) w → b.mails e w = b.notices w
    else
      (∀ flow token, ∃ url, e.publicUrl.link flow token = .ok url) ∧
      (∀ op : Operation, op.Possible e w → ∀ outcome flow,
        (op.perform e w).1 = .requested (.ok outcome) → outcome.flow? = some flow →
          ∃ c url, VerificationStore.challenge? flow (op.perform e w).2.store = .ok (some c) ∧
            e.publicUrl.link flow c.token = .ok url ∧
            op.mails e w = [.verification c.value url.render c.code]) ∧
      ∀ b : Batch, e.DrawUnknown (b.operations w) w → ∀ outcomes,
        (b.perform e w).1 = .ok outcomes →
          ∃ letters, b.mails e w = b.notices w ++ letters ∧
            List.Forall₂ e.LeadsTo (outcomes.filterMap RequestOutcome.flow?) letters := by
  obtain ⟨m, hshows, -⟩ := h.keeps (P := fun _ => True) (fun _ _ _ _ => trivial) trivial
  have hlink := PublicUrl.link_of_parse hurl
  have hmails : ∀ b : Batch, b.mails e w = b.notices w ++ (e.sent (b.operations w) w).map Prod.fst :=
    fun b => by
      rw [mails_batch e hshows b, Batch.sent, List.map_append, List.map_map]
      exact congrArg (· ++ _) (List.map_id _)
  refine ⟨fun config hconfig => ?_, ?_⟩
  · rw [Node.engine, hconfig, hurl]
    rfl
  split
  · rename_i hrootless
    simp only [if_pos hrootless] at hlink
    have hletters : ∀ c, e.letters c = [] := fun c => by rw [letters, hlink]
    refine ⟨hlink, fun op => op.mails_eq_nil hletters hshows, fun b hdraws => ?_⟩
    rw [hmails, sent_eq_nil hletters hshows (batch_possible hshows hdraws)]
    exact List.append_nil _
  · rename_i hrooted
    simp only [if_neg hrooted] at hlink
    refine ⟨hlink, fun op hop outcome flow => op.mails_of_flow hlink hshows hop,
      fun b hdraws outcomes hanswer => ⟨_, hmails b, ?_⟩⟩
    have hpossible := batch_possible hshows hdraws
    rcases batch_performs e hshows b with ⟨hnone, -⟩ | ⟨-, _, f, g, l, hperform, hops, hrun⟩
    · rw [outcomes_eq_nil hshows hnone hanswer, hnone]
      exact .nil
    · rw [hops] at hpossible ⊢
      rw [hrun] at hanswer
      have hrun : (l.mapM f).perform w = (.ok outcomes, ((l.mapM f).perform w).2) :=
        Prod.ext hanswer rfl
      exact sent_leadsTo hlink hperform hshows hpossible (of_perform_ok hrun)

end Engine

namespace Sample

/-- A host and its port without a scheme in front of them: the host reads as a scheme. -/
def hostAndPort : PublicUrl :=
  ⟨"localhost".toList, none, .rootless "4455/".toList, none, none⟩

/-- Under it the first request answers as it would otherwise, and mails nothing. -/
theorem issued_without_mail :
    PublicUrl.parse "localhost:4455" = .ok hostAndPort ∧
    ((Operation.request ann home).perform ⟨hostAndPort, .standard⟩ start).1 =
      .requested (.ok (.issued (drawnAt .flow 16))) ∧
    (Operation.request ann home).mails ⟨hostAndPort, .standard⟩ start = [] := by
  have hparse : PublicUrl.parse "localhost:4455" = .ok hostAndPort := rfl
  have hstart : Engine.Reachable ⟨hostAndPort, .standard⟩ start := ⟨start, rfl, .refl⟩
  have hdispatch := (Engine.dispatch_of_reachable hstart hparse).2
  rw [if_pos (by decide)] at hdispatch
  exact ⟨hparse, rfl, hdispatch.2.1 _ (request_possible hostAndPort)⟩

end Sample

end Vouch
