import Vouch.Proofs.Engine.Alike

/-!
# Sweeping is invisible

A sweep ends what has run out of time, which anything else that comes across it does as well.  So
sweeps may be put anywhere among the operations: these answer the same, mail the same and leave
the same trust behind, up to how challenges lapsed.
-/

namespace Vouch

open Vouch.Action

variable {σ ι τ : Type} [VerificationStore σ] {e : Engine} {now : Timestamp} {w w' : World σ ι τ}
  {m m' : MemoryStore}

/-! ## Sweeps -/

namespace Engine

variable [Backend σ]

-- All that is ended on the way had run out of time in the store as it was at first.
theorem mapM_expire_resembles {m₀ : MemoryStore} {l : List Challenge}
    (h : Backend.Shows w.store m) (hm : m.Resembles now m₀) (hi₀ : m₀.Intact)
    (hl : ∀ c ∈ l, m₀.challenges.get? c.id = some c ∧ c.isLive now = false) :
    ∃ ended s m', (l.mapM fun c => (changeStore (VerificationStore.expire c.id .elapsed now) :
        Action σ ι τ Challenge)) w = .ok ended { w with store := s } ∧
      Backend.Shows s m' ∧ m'.Resembles now m₀ := by
  induction l generalizing w m with
  | nil => exact ⟨[], w.store, m, rfl, h, hm⟩
  | cons c l ih =>
    obtain ⟨hc, hlive⟩ := hl c List.mem_cons_self
    obtain ⟨acc, hf⟩ := Finds.of_intact hi₀ hc
    obtain ⟨c', acc', hf', hblur, -⟩ := hm.symm.finds hi₀ (Backend.intact h) hf
    have hlive' : c'.isLive now = false := by
      cases hl' : c'.isLive now with
      | false => rfl
      | true =>
        rw [Challenge.eq_of_blur_eq hblur.symm hl', hl'] at hlive
        cases hlive
    obtain ⟨d, s₁, m₁, hexpire, hshows₁, hm₁⟩ := Backend.expire_resembles h hf' hlive'
    obtain ⟨ended, s, m', hrun, hshows, hm'⟩ := ih (w := { w with store := s₁ }) hshows₁
      (hm₁.trans hm) fun c hc => hl c (List.mem_cons_of_mem _ hc)
    refine ⟨d :: ended, s, m', ?_, hshows, hm'⟩
    rw [List.mapM_cons, bind_of_ok (changeStore_of_ok hexpire), bind_of_ok hrun]
    rfl

/-- A sweep leaves a store that resembles what it was. -/
theorem sweep_resembles (h : Backend.Shows w.store m) :
    ∃ n s m', (sweep : Action σ ι τ Nat) w = .ok n { w with store := s } ∧ Backend.Shows s m' ∧
      m'.Resembles w.now m := by
  obtain ⟨all, hall, -, hmem⟩ := Backend.active_eq h
  have hl : ∀ c ∈ all.filter fun c => !c.isLive w.now,
      m.challenges.get? c.id = some c ∧ c.isLive w.now = false := by
    intro c hc
    obtain ⟨hc, hlive⟩ := List.mem_filter.mp hc
    exact ⟨((hmem c).mp hc).1, by simpa using hlive⟩
  obtain ⟨ended, s, m', hrun, hshows, hm⟩ :=
    mapM_expire_resembles (ι := ι) (τ := τ) h (.refl _ m) (Backend.intact h) hl
  refine ⟨(ended.filter fun c => c.state = .expired).length, s, m', ?_, hshows, hm⟩
  rw [sweep, bind_of_ok now_run, bind_of_ok (readStore_of_ok hall), bind_of_ok hrun]
  rfl

end Engine

variable [IdentityStore ι] [MailTransport τ]

/-! ## Runs by the clock -/

/-- Something that happens. -/
inductive Happening (ι : Type) where
  | operation (op : Operation)
  | batch (b : Batch)
  -- The identities are edited.
  | edit (change : ι → ι)

/-- Something that happens at a reading of the clock. -/
structure Moment (ι : Type) where
  clock : Timestamp
  happening : Happening ι

inductive Reply where
  | answered (answer : Answer)
  | listed (outcomes : Except VerificationError (List RequestOutcome))
  | edited

/-- The reply, up to how a challenge lapsed. -/
def Reply.blur : Reply → Reply
  | .answered answer => .answered answer.blur
  | reply => reply

namespace Moment

def isSweep (x : Moment ι) : Bool :=
  match x.happening with
  | .operation op => op.isSweep
  | _ => false

/-- What happens to a world that is set to the clock. -/
def perform (e : Engine) (w : World σ ι τ) (x : Moment ι) : Reply × World σ ι τ :=
  let w := w.atTime x.clock
  match x.happening with
  | .operation op => (op.perform e w).map .answered id
  | .batch b => (b.perform e w).map .listed id
  | .edit change => (.edited, { w with identities := change w.identities })

/-- No identifier is taken that is drawn on the way. -/
def DrawsUnknown (e : Engine) (w : World σ ι τ) (x : Moment ι) : Prop :=
  let w := w.atTime x.clock
  match x.happening with
  | .operation op => w.DrawsUnknown (op.perform e w).2
  | .batch b => e.DrawUnknown (b.operations w) w
  | .edit _ => True

theorem perform_of_isSweep {x : Moment ι} (hx : x.isSweep = true) (e : Engine) (w : World σ ι τ) :
    (x.perform e w).2 = (Operation.sweep.perform e (w.atTime x.clock)).2 := by
  obtain ⟨clock, happening⟩ := x
  cases happening with
  | operation op =>
    cases op with
    | sweep => rfl
    | _ => cases hx
  | _ => cases hx

end Moment

namespace Engine

/-- What is replied at one moment after another, sweeps apart, and the world in the end. -/
def play (e : Engine) (w : World σ ι τ) : List (Moment ι) → List Reply × World σ ι τ
  | [] => ([], w)
  | x :: rest =>
    let (reply, w) := x.perform e w
    let (replies, w) := e.play w rest
    (if x.isSweep then replies else reply :: replies, w)

/-- No identifier is taken that is drawn at one of the moments. -/
def PlayUnknown (e : Engine) : List (Moment ι) → World σ ι τ → Prop
  | [], _ => True
  | x :: rest, w => x.DrawsUnknown e w ∧ e.PlayUnknown rest (x.perform e w).2

end Engine

/-! ## Two runs -/

variable [Backend σ]

-- A sweep in one of two worlds leaves them as alike as they were.
theorem World.Resembles.sweep (h : w.Resembles now w') :
    w.Resembles now (Operation.sweep.perform e w').2 := by
  cases h with
  | @intro s' m m' hnow hshows hshows' hm =>
  obtain ⟨n, s, m₁, hrun, hshows₁, hm₁⟩ :=
    Engine.sweep_resembles (w := { w with store := s' }) hshows'
  rw [Operation.perform, perform_of_ok hrun]
  rw [show World.now { w with store := s' } = now from hnow] at hm₁
  exact .intro hnow hshows hshows₁ (hm.trans hm₁.symm)

variable [SteadyBackend σ]

namespace Moment

variable {x : Moment ι}

theorem perform_alike (hx : x.isSweep = false)
    (h : World.Resembles x.clock (w.atTime x.clock) (w'.atTime x.clock))
    (hdraws : x.DrawsUnknown e w) :
    (x.perform e w).1.blur = (x.perform e w').1.blur ∧
      (x.perform e w).2.Resembles x.clock (x.perform e w').2 := by
  obtain ⟨clock, happening⟩ := x
  cases happening with
  | operation op =>
    obtain ⟨hanswer, hworld⟩ := Operation.perform_alike h hx hdraws
    exact ⟨congrArg Reply.answered hanswer, hworld⟩
  | batch b =>
    obtain ⟨hanswer, hworld⟩ := Batch.perform_alike h hdraws
    exact ⟨congrArg Reply.listed hanswer, hworld⟩
  | edit change => exact ⟨rfl, h.edit change⟩

end Moment

namespace Engine

-- The left run has no sweeps; whatever the right one has, its replies and its world stay alike.
theorem play_alike {moments : List (Moment ι)}
    (h : World.Resembles now (w.atTime now) (w'.atTime now))
    (hstart : ∀ x ∈ moments, now.secs ≤ x.clock.secs)
    (hclock : moments.Pairwise fun x y => x.clock.secs ≤ y.clock.secs)
    (hdraws : e.PlayUnknown (moments.filter fun x => !x.isSweep) w) :
    let plain := e.play w (moments.filter fun x => !x.isSweep)
    let swept := e.play w' moments
    plain.1.map Reply.blur = swept.1.map Reply.blur ∧
      ∃ clock, World.Resembles clock (plain.2.atTime clock) (swept.2.atTime clock) := by
  induction moments generalizing now w w' with
  | nil => exact ⟨rfl, now, h⟩
  | cons x rest ih =>
    obtain ⟨hfirst, hrest⟩ := List.pairwise_cons.mp hclock
    have hx : World.Resembles x.clock (w.atTime x.clock) (w'.atTime x.clock) :=
      h.atTime (hstart x List.mem_cons_self)
    cases hsweep : x.isSweep with
    | true =>
      have hfilter : ((x :: rest).filter fun x => !x.isSweep) =
          rest.filter fun x => !x.isSweep := by
        rw [List.filter_cons_of_neg (by simp [hsweep])]
      rw [hfilter] at hdraws ⊢
      have hworld := hx.sweep (e := e)
      rw [← Moment.perform_of_isSweep hsweep] at hworld
      obtain ⟨hreplies, hlast⟩ := ih (w := w) (hworld.atTime (UInt64.le_refl _)) hfirst hrest hdraws
      simp only [play, hsweep, if_true]
      exact ⟨hreplies, hlast⟩
    | false =>
      have hfilter : ((x :: rest).filter fun x => !x.isSweep) =
          x :: rest.filter fun x => !x.isSweep := by
        rw [List.filter_cons_of_pos (by simp [hsweep])]
      rw [hfilter] at hdraws ⊢
      obtain ⟨hreply, hworld⟩ := Moment.perform_alike hsweep hx hdraws.1
      obtain ⟨hreplies, hlast⟩ := ih (hworld.atTime (UInt64.le_refl _)) hfirst hrest hdraws.2
      simp only [play, hsweep, Bool.false_eq_true, if_false, List.map_cons]
      exact ⟨by rw [hreply, hreplies], hlast⟩

/-- Sweeps may be put anywhere into a run that begins with an empty store, as long as the clock is
not set back and no identifier is drawn that is taken.  Everything else is replied the same, up to
how challenges lapsed; the same bytes are drawn and the same mail is sent; and in the end every
address has the same value and the same trust. -/
theorem sweeping_invisible (hempty : w.store = Backend.empty) {moments : List (Moment ι)}
    (hclock : moments.Pairwise fun x y => x.clock.secs ≤ y.clock.secs)
    (hdraws : e.PlayUnknown (moments.filter fun x => !x.isSweep) w) :
    let plain := e.play w (moments.filter fun x => !x.isSweep)
    let swept := e.play w moments
    swept.1.map Reply.blur = plain.1.map Reply.blur ∧ swept.2.mailer = plain.2.mailer ∧
      swept.2.entropy = plain.2.entropy ∧
      ∀ id, ∃ found found', VerificationStore.address? id plain.2.store = .ok found ∧
        VerificationStore.address? id swept.2.store = .ok found' ∧
        Option.Rel (fun a b => b.value = a.value ∧ b.verified = a.verified ∧
          b.verifiedAt = a.verifiedAt) found found' := by
  have hshows : Backend.Shows w.store MemoryStore.empty := by
    rw [hempty]
    exact Backend.shows_empty
  have hstart : World.Resembles .epoch (w.atTime .epoch) (w.atTime .epoch) :=
    .intro rfl hshows hshows (.refl _ _)
  obtain ⟨hreplies, clock, hlast⟩ := play_alike hstart (fun x _ => UInt64.zero_le) hclock hdraws
  exact ⟨hreplies.symm, hlast.mailer, hlast.entropy, hlast.address⟩

end Engine

namespace Sample

def asked : Moment MemoryIdentities := ⟨⟨100⟩, .operation (.request ann home)⟩

def sweptBetween : Moment MemoryIdentities := ⟨⟨5000⟩, .operation .sweep⟩

-- The right code, after its time.
def tooLate : Moment MemoryIdentities :=
  ⟨⟨5001⟩, .operation (.submit (drawnAt .flow 16) "404142434445464748494a4b4c4d4e4f")⟩

def askedAgain : Moment MemoryIdentities := ⟨⟨5002⟩, .batch (.afterRegistration ann)⟩

def afterAsking : World MemoryStore MemoryIdentities MailRecorder := (asked.perform engine start).2

def afterTooLate : World MemoryStore MemoryIdentities MailRecorder :=
  (tooLate.perform engine afterAsking).2

theorem sweptBetween_alike :
    let plain := engine.play start [asked, tooLate, askedAgain]
    let swept := engine.play start [asked, sweptBetween, tooLate, askedAgain]
    swept.1.map Reply.blur = plain.1.map Reply.blur ∧ swept.2.mailer = plain.2.mailer ∧
      swept.2.entropy = plain.2.entropy := by
  have hclock : [asked, sweptBetween, tooLate, askedAgain].Pairwise
      fun x y => x.clock.secs ≤ y.clock.secs := by decide
  have hfilter : ([asked, sweptBetween, tooLate, askedAgain].filter fun x => !x.isSweep) =
      [asked, tooLate, askedAgain] := rfl
  have hfirst : asked.DrawsUnknown engine start := ⟨fun _ => rfl, fun _ => rfl⟩
  have hlate : tooLate.DrawsUnknown engine afterAsking := ⟨fun _ => rfl, fun _ => rfl⟩
  have hagain : askedAgain.DrawsUnknown engine afterTooLate :=
    ⟨⟨fun _ => rfl, fun _ => rfl⟩, fun _ _ => trivial⟩
  have hdraws : engine.PlayUnknown [asked, tooLate, askedAgain] start :=
    ⟨hfirst, hlate, hagain, trivial⟩
  rw [← hfilter] at hdraws
  have halike := Engine.sweeping_invisible (w := start) rfl hclock hdraws
  rw [hfilter] at halike
  exact ⟨halike.1, halike.2.1, halike.2.2.1⟩

end Sample

end Vouch
