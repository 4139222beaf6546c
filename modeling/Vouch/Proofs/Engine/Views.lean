import Mathlib.Data.List.Forall2
import Vouch.Cli.Run
import Vouch.Proofs.Engine.Outcome
import Vouch.Proofs.Engine.Rebind
import Vouch.Proofs.Store.Failures

/-!
# Flows in a list and by themselves

The list of an identity's flows shows every challenge by itself, while a flow that is resumed is
held against its address.  Both show the same, unless a completed challenge was overtaken: its slot
was rebound, and the newest challenge of the address is not completed for the same value.  Then the
list still shows it as completed, and resuming it as expired.
-/

namespace Vouch

/-! ## Histories -/

/-- A backend that lists only challenges that it keeps. -/
class ListingBackend (σ : Type) [VerificationStore σ] [Backend σ] : Prop where
  stored_of_history {s : σ} {m : MemoryStore} (h : Backend.Shows s m) {id : AddressId}
    {l : List Challenge} : VerificationStore.history id s = .ok l →
      ∀ c ∈ l, m.challenges.get? c.id = some c

instance : ListingBackend MemoryStore where
  stored_of_history {s m} h id l hl c hc := by
    obtain ⟨rfl, hi⟩ := h
    have hlist : s.history id = l := Except.ok.inj hl
    subst hlist
    exact (hi.mem_history.mp hc).1

namespace Durable.Ledger

-- Everything in a list was made of something.
theorem exists_of_mapM_ok {α β ε : Type} {f : α → Except ε β} {xs : List α} {ys : List β}
    (h : xs.mapM f = .ok ys) : ∀ y ∈ ys, ∃ x ∈ xs, f x = .ok y := by
  induction xs generalizing ys with
  | nil =>
    cases h
    exact fun _ hy => (nomatch hy)
  | cons x xs ih =>
    rw [List.mapM_cons] at h
    cases hy : f x with
    | error e =>
      rw [hy] at h
      cases h
    | ok y =>
      cases hrest : xs.mapM f with
      | error e =>
        rw [hy, hrest] at h
        cases h
      | ok rest =>
        rw [hy, hrest] at h
        cases h
        intro z hz
        rcases List.mem_cons.mp hz with rfl | hz
        · exact ⟨x, List.mem_cons_self, hy⟩
        · obtain ⟨x', hx', hz⟩ := ih hrest z hz
          exact ⟨x', List.mem_cons_of_mem x hx', hz⟩

-- This holds even when the numbers have run over.
theorem Mirrors.stored_of_historyOf {s : Ledger} {m : MemoryStore} (h : s.Mirrors m)
    {id : AddressId} {l : List Challenge} (hl : s.historyOf id = .ok l) :
    ∀ c ∈ l, m.challenges.get? c.id = some c := by
  -- every entry names a flow that is known, and its challenge is what is read for it
  have hentry : ∀ bs ∈ valuesUnder s.history id.bytes, ∃ f c, bs = f.bytes ∧
      m.challenges.get? f = some c := fun bs hbs => by
    obtain ⟨k, hk, -⟩ := mem_valuesUnder.mp hbs
    exact h.flow_of_history hk
  rw [Ledger.historyOf, scan_id] at hl
  intro c hc
  obtain ⟨bs, hbs, hread⟩ := exists_of_mapM_ok hl c hc
  obtain ⟨f, d, rfl, hd⟩ := hentry bs hbs
  rw [decodeId_bytes] at hread
  replace hread : s.readChallenge f >>= _ = .ok c := hread
  rw [h.readChallenge, hd] at hread
  cases hread
  rw [h.intact.id_of_challenge hd]
  exact hd

instance : ListingBackend Ledger where
  stored_of_history h _ _ hl := Mirrors.stored_of_historyOf h hl

end Durable.Ledger

namespace Action

variable {σ ι τ α β : Type} {w : World σ ι τ} {f : α → Action σ ι τ β}

-- Looking at several things one after the other.
theorem mapM_of_ok {l : List α} (h : ∀ a ∈ l, ∃ b, f a w = .ok b w) :
    ∃ bs, List.Forall₂ (fun a b => f a w = .ok b w) l bs ∧ l.mapM f w = .ok bs w := by
  induction l with
  | nil => exact ⟨[], .nil, rfl⟩
  | cons a l ih =>
    obtain ⟨b, hb⟩ := h a List.mem_cons_self
    obtain ⟨bs, hbs, hrun⟩ := ih fun a' ha' => h a' (List.mem_cons_of_mem _ ha')
    refine ⟨b :: bs, .cons hb hbs, ?_⟩
    rw [List.mapM_cons, bind_of_ok hb, bind_of_ok hrun]
    rfl

end Action

/-! ## The two views -/

theorem Challenge.phase_eq_completed_iff {c : Challenge} {now : Timestamp} :
    c.phase now = .completed ↔ c.state = .completed := by
  rw [Challenge.phase]
  cases c.state with
  | completed => simp
  | expired => simp
  | active => cases c.isLive now <;> simp

/-- A completed challenge, and a newer one of the same address that is not completed for the same
value. -/
def Challenge.OvertakenBy (c newest : Challenge) : Prop :=
  c.state = .completed ∧ ¬(newest.state = .completed ∧ newest.value = c.value)

-- A completed challenge speaks for its address unless it was overtaken.
theorem Account.SettledBy.overtakenBy_iff {acc : Account} {earlier : List Challenge}
    {c newest : Challenge} (h : acc.SettledBy earlier newest) (hid : acc.record.id = c.address) :
    c.OvertakenBy newest ↔ c.state = .completed ∧ c.vouchesFor acc.record = false := by
  rw [Challenge.OvertakenBy, ← h.verified_iff, h.value, Challenge.vouchesFor]
  refine and_congr_right fun hs => ?_
  simp only [hs, hid, decide_true, Bool.true_and, Bool.and_eq_false_iff, decide_eq_false_iff_not,
    not_and_or, Bool.not_eq_true, eq_comm (a := c.value)]
  exact or_comm

namespace Engine

open Vouch.Action

variable {σ ι τ : Type} [VerificationStore σ] [Backend σ] {w : World σ ι τ} {m : MemoryStore}
  {flow : FlowId} {c newest : Challenge} {acc : Account} {earlier : List Challenge}

theorem resume_of_not_overtaken (h : Backend.Shows w.store m) (hf : Finds m flow c acc)
    (hby : acc.SettledBy earlier newest) (hc : ¬c.OvertakenBy newest) :
    (resume flow : Action σ ι τ FlowState).perform w = (.ok (.ofChallenge c w.now), w) := by
  have hid := hf.id (Backend.intact h)
  rw [hby.overtakenBy_iff hid] at hc
  have hphase : c.phaseFor acc.record w.now = c.phase w.now := by
    rw [Challenge.phaseFor, if_neg]
    rintro ⟨hphase, hvouches⟩
    exact hc ⟨Challenge.phase_eq_completed_iff.mp hphase, hvouches⟩
  rw [resume_run h hf, FlowState.againstAddress, hphase]
  rfl

theorem resume_of_overtaken (h : Backend.Shows w.store m) (hf : Finds m flow c acc)
    (hby : acc.SettledBy earlier newest) (hc : c.OvertakenBy newest) :
    (resume flow : Action σ ι τ FlowState).perform w =
      (.ok (.ofPhase c (.expired .addressChanged)), w) := by
  have hid := hf.id (Backend.intact h)
  obtain ⟨hs, hvouches⟩ := (hby.overtakenBy_iff hid).mp hc
  have hphase : c.phaseFor acc.record w.now = .expired .addressChanged := by
    rw [Challenge.phaseFor, if_pos ⟨Challenge.phase_eq_completed_iff.mpr hs, hvouches⟩]
  rw [resume_run h hf, FlowState.againstAddress, hphase]

-- The list of an identity's flows is made of the histories of its addresses.
theorem flowsOf_run [FirmBackend σ] (h : Backend.Shows w.store m) (id : IdentityId) :
    ∃ addresses histories,
      VerificationStore.addressesOf id w.store = .ok addresses ∧
      List.Forall₂ (fun a l => VerificationStore.history a.id w.store = .ok l) addresses
        histories ∧
      (Cli.flowsOf id : Action σ ι τ (List FlowState)).perform w =
        (.ok (histories.flatten.map fun c => .ofChallenge c w.now), w) := by
  obtain ⟨addresses, haddresses⟩ := FirmBackend.addressesOf_ok h id
  have hread : ∀ a ∈ addresses, ∃ l, (history a.id : Action σ ι τ (List Challenge)) w = .ok l w :=
    fun a _ => (FirmBackend.history_ok h a.id).imp fun _ hl => readStore_of_ok hl
  obtain ⟨histories, hhistories, hrun⟩ := mapM_of_ok hread
  refine ⟨addresses, histories, haddresses, hhistories.imp fun a l hl => ?_, ?_⟩
  · obtain ⟨l', hl'⟩ := FirmBackend.history_ok h a.id
    have hsame := (readStore_of_ok (ι := ι) (τ := τ) hl').symm.trans hl
    cases hsame
    exact hl'
  · have hlist : (addressesOf id : Action σ ι τ (List Address)) w = .ok addresses w :=
      readStore_of_ok haddresses
    rw [Cli.flowsOf, perform_congr (bind_of_ok now_run), perform_congr (bind_of_ok hlist),
      perform_congr (bind_of_ok hrun)]
    rfl

variable [FirmBackend σ] [ListingBackend σ] [IdentityStore ι] [MailTransport τ] {e : Engine}

/-- Whatever happened so far, the list of an identity's flows shows every challenge in the histories
of its addresses as it is by itself.  Resuming the flow of a challenge shows the same at that time,
if and only if it was not overtaken by the newest challenge of its address.  If it was, it is listed
as completed, and resumed as expired because the address was changed. -/
theorem flow_views_of_reachable (h : e.Reachable w) :
    (∀ id, ∃ addresses histories,
      VerificationStore.addressesOf id w.store = .ok addresses ∧
      List.Forall₂ (fun a l => VerificationStore.history a.id w.store = .ok l) addresses
        histories ∧
      (Cli.flowsOf id).perform w =
        (.ok (histories.flatten.map fun c => .ofChallenge c w.now), w)) ∧
    ∀ address, ∃ l, VerificationStore.history address w.store = .ok l ∧
      ∀ c ∈ l, ∃ earlier newest,
        (∀ d, d ∈ earlier ++ [newest] ↔
          VerificationStore.challenge? d.id w.store = .ok (some d) ∧ d.address = c.address) ∧
        (Backend.Roomy w.store →
          VerificationStore.history c.address w.store = .ok (earlier ++ [newest])) ∧
        ((resume c.id).perform w = (.ok (.ofChallenge c w.now), w) ↔ ¬c.OvertakenBy newest) ∧
        (c.OvertakenBy newest → FlowState.ofChallenge c w.now = .ofPhase c .completed ∧
          (resume c.id).perform w = (.ok (.ofPhase c (.expired .addressChanged)), w)) := by
  obtain ⟨m, hshows, hsettled⟩ := h.settled
  have hi := Backend.intact hshows
  refine ⟨flowsOf_run hshows, fun address => ?_⟩
  obtain ⟨l, hl⟩ := FirmBackend.history_ok hshows address
  refine ⟨l, hl, fun c hc => ?_⟩
  obtain ⟨acc, hf⟩ := Finds.of_intact hi (ListingBackend.stored_of_history hshows hl c hc)
  obtain ⟨earlier, newest, hby⟩ := hsettled _ _ hf.account
  have hhistory : m.history c.address = earlier ++ [newest] := by
    rw [MemoryStore.history_of_account? hf.account, hby.history]
  have hovertaken : c.OvertakenBy newest →
      FlowState.ofChallenge c w.now = .ofPhase c .completed := by
    intro hc
    rw [FlowState.ofChallenge, Challenge.phase_eq_completed_iff.mpr hc.1]
  refine ⟨earlier, newest, fun d => ?_, fun hroomy => ?_, ⟨fun hsame hc => ?_, ?_⟩, fun hc => ?_⟩
  · rw [← hhistory, hi.mem_history, Backend.challenge?_eq hshows, Except.ok.injEq]
  · rw [Backend.history_eq hshows _ hroomy, hhistory]
  · -- a phase cannot be both
    rw [resume_of_overtaken hshows hf hby hc, hovertaken hc] at hsame
    cases hsame
  · exact resume_of_not_overtaken hshows hf hby
  · exact ⟨hovertaken hc, resume_of_overtaken hshows hf hby hc⟩

end Engine

namespace Sample

/-- After the value of a verified address was edited, its flow is still listed as completed, and
resumed as expired. -/
theorem moved_flow_views : ∃ c d,
    (Cli.flowsOf ann).perform moved =
      (.ok [.ofPhase c .completed, .ofChallenge d moved.now], moved) ∧
    (Engine.resume c.id).perform moved =
      (.ok (.ofPhase c (.expired .addressChanged)), moved) := by
  obtain ⟨a, ha, hid⟩ : ∃ a, VerificationStore.addressesOf ann moved.store = .ok [a] ∧
      a.id = drawnAt .address 0 := ⟨_, rfl, rfl⟩
  obtain ⟨c, d, hlist, haddress, hs, hd⟩ : ∃ c d,
      VerificationStore.history (drawnAt .address 0) moved.store = .ok [c, d] ∧
      c.address = drawnAt .address 0 ∧ c.state = .completed ∧ d.state = .active :=
    ⟨_, _, rfl, rfl, rfl, rfl⟩
  obtain ⟨hflows, hviews⟩ :=
    Engine.flow_views_of_reachable (verified_reachable.run moved_run)
  obtain ⟨l, hl, hviews⟩ := hviews (drawnAt .address 0)
  rw [hlist] at hl
  cases hl
  obtain ⟨earlier, newest, -, hlast, -, hview⟩ := hviews c (by simp)
  -- the second challenge is the newest, and not completed
  have hnewest : newest = d := by
    have hsame := (hlast trivial).symm
    rw [haddress, hlist, Except.ok.injEq] at hsame
    exact (List.append_singleton_inj.mp (show earlier ++ [newest] = [c] ++ [d] from hsame)).2
  obtain ⟨hcompleted, hexpired⟩ := hview ⟨hs, fun ⟨h, _⟩ => by rw [hnewest, hd] at h; cases h⟩
  refine ⟨c, d, ?_, hexpired⟩
  obtain ⟨addresses, histories, haddresses, hhistories, hrun⟩ := hflows ann
  rw [ha] at haddresses
  cases haddresses
  cases hhistories with
  | cons hl hnil =>
    cases hnil
    rw [hid, hlist] at hl
    cases hl
    rw [hrun, ← hcompleted]
    rfl

end Sample

end Vouch
