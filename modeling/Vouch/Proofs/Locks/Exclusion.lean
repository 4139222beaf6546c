import Mathlib.Logic.Function.Basic
import Mathlib.Logic.Relation
import Vouch.Proofs.Locks.Table

/-!
# Callers at the locks

Any number of callers take, use and give back the locks of slots, while the table is cleaned up now
and then.  What a caller does between two looks at the table is cut into steps, and the steps of
different callers come in any order: a caller has a reference before it has the lock, it gives the
lock back before it drops the reference, and if its work fails nobody looks at the entry
afterwards.

That nobody shares a slot rests on the references.  There is one for every caller, so an entry
stays while anybody refers to its lock, and whoever comes later is given the same lock.
-/

namespace Vouch

/-- How far a caller has come. -/
inductive LockStage where
  -- Has a reference to the lock, but not the lock.
  | waiting
  -- Has the lock, and works.
  | inside
  -- Has given the lock back after work that returned.
  | leaving
  -- Has given the lock back after work that failed.
  | failing
  deriving DecidableEq, Repr

/-- A use of a slot, from the reference to its lock that is taken first to the drop of it. -/
structure LockCall where
  slot : Slot
  lock : Lock
  stage : LockStage
  deriving DecidableEq, Repr

/-- The table, the locks that somebody has, and where the callers are; `κ` names them.  Work that
uses another slot inside a slot counts as another caller. -/
structure LockScene (κ : Type) where
  table : LockTable
  taken : Lock → Bool
  calls : κ → Option LockCall

namespace LockScene

variable {κ : Type}

/-- Nobody has come yet. -/
def start : LockScene κ := ⟨.empty, fun _ => false, fun _ => none⟩

variable [DecidableEq κ]

/-- A caller looks its slot up in the table and takes a reference to its lock. -/
def take (k : κ) (slot : Slot) (s : LockScene κ) : LockScene κ where
  table := (s.table.acquire slot).2
  taken := s.taken
  calls := Function.update s.calls k (some ⟨slot, (s.table.acquire slot).1, .waiting⟩)

/-- A caller that waits is given the lock. -/
def enter (k : κ) (c : LockCall) (s : LockScene κ) : LockScene κ where
  table := s.table
  taken := Function.update s.taken c.lock true
  calls := Function.update s.calls k (some { c with stage := .inside })

/-- A caller is done with its work and gives the lock back. -/
def leave (k : κ) (c : LockCall) (stage : LockStage) (s : LockScene κ) : LockScene κ where
  table := s.table
  taken := Function.update s.taken c.lock false
  calls := Function.update s.calls k (some { c with stage })

/-- A caller's reference is dropped, with which the table becomes `table`. -/
def depart (k : κ) (table : LockTable) (s : LockScene κ) : LockScene κ where
  table := table
  taken := s.taken
  calls := Function.update s.calls k none

/-- One step of somebody. -/
inductive Move (s : LockScene κ) : LockScene κ → Prop where
  | take (k : κ) (slot : Slot) (hidle : s.calls k = none) : Move s (s.take k slot)
  | enter (k : κ) (c : LockCall) (hcall : s.calls k = some c) (hstage : c.stage = .waiting)
      (hfree : s.taken c.lock = false) : Move s (s.enter k c)
  | leave (k : κ) (c : LockCall) (hcall : s.calls k = some c) (hstage : c.stage = .inside) :
      Move s (s.leave k c .leaving)
  | release (k : κ) (c : LockCall) (hcall : s.calls k = some c) (hstage : c.stage = .leaving) :
      Move s (s.depart k (s.table.release c.slot c.lock))
  -- Work that fails gives the lock back, and then the reference, without a look at the table.
  | fail (k : κ) (c : LockCall) (hcall : s.calls k = some c) (hstage : c.stage = .inside) :
      Move s (s.leave k c .failing)
  | abandon (k : κ) (c : LockCall) (hcall : s.calls k = some c) (hstage : c.stage = .failing) :
      Move s (s.depart k (s.table.abandon c.lock))
  | cleanup : Move s { s with table := s.table.cleanup }

/-! ## References -/

-- After a caller has moved there are that caller and the others.
theorem update_eq_some {calls : κ → Option LockCall} {k j : κ} {moved : Option LockCall}
    {d : LockCall} (h : Function.update calls k moved j = some d) :
    (j = k ∧ moved = some d) ∨ (j ≠ k ∧ calls j = some d) := by
  by_cases hj : j = k
  · rw [hj, Function.update_self] at h
    exact .inl ⟨hj, h⟩
  · rw [Function.update_of_ne hj] at h
    exact .inr ⟨hj, h⟩

/-- Every caller has a reference of its own: callers that refer to one lock are no more than the
references to it. -/
structure Referenced (references : List Lock) (calls : κ → Option LockCall) : Prop where
  length_le : ∀ {l : Lock} {ks : List κ}, ks.Nodup →
    (∀ k ∈ ks, ∃ c, calls k = some c ∧ c.lock = l) → ks.length ≤ references.count l

namespace Referenced

variable {references : List Lock} {calls : κ → Option LockCall} {k : κ} {c d : LockCall}

omit [DecidableEq κ] in
theorem mem (h : Referenced references calls) (hcall : calls k = some c) :
    c.lock ∈ references := by
  have hsingle : ∀ j ∈ [k], ∃ d, calls j = some d ∧ d.lock = c.lock := fun j hj =>
    ⟨c, List.mem_singleton.mp hj ▸ hcall, rfl⟩
  exact List.count_pos_iff.mp (h.length_le (List.pairwise_singleton _ k) hsingle)

theorem take (h : Referenced references calls) (c : LockCall) :
    Referenced (c.lock :: references) (Function.update calls k (some c)) := by
  refine ⟨fun {l ks} hks hcalls => ?_⟩
  have hothers : ∀ j ∈ ks.erase k, ∃ d, calls j = some d ∧ d.lock = l := by
    intro j hj
    obtain ⟨hne, hj⟩ := hks.mem_erase_iff.mp hj
    obtain ⟨d, hd, hl⟩ := hcalls j hj
    rcases update_eq_some hd with ⟨he, -⟩ | ⟨-, hd⟩
    · exact absurd he hne
    · exact ⟨d, hd, hl⟩
  have hcount := h.length_le (hks.erase k) hothers
  by_cases hk : k ∈ ks
  · -- the new caller is one of them, and the new reference is to their lock
    obtain ⟨d, hd, hl⟩ := hcalls k hk
    rw [Function.update_self] at hd
    cases hd
    rw [List.length_erase_of_mem hk] at hcount
    rw [hl, List.count_cons_self]
    omega
  · rw [List.erase_of_not_mem hk] at hcount
    exact Nat.le_trans hcount (List.count_le_count_cons ..)

-- A caller that goes on refers to the lock it referred to.
theorem keep (h : Referenced references calls) (hcall : calls k = some c) (hd : d.lock = c.lock) :
    Referenced references (Function.update calls k (some d)) := by
  refine ⟨fun hks hcalls => h.length_le hks fun j hj => ?_⟩
  obtain ⟨c', hc', hl⟩ := hcalls j hj
  rcases update_eq_some hc' with ⟨rfl, hmoved⟩ | ⟨-, hc'⟩
  · cases hmoved
    exact ⟨c, hcall, hd ▸ hl⟩
  · exact ⟨c', hc', hl⟩

theorem depart (h : Referenced references calls) (hcall : calls k = some c) :
    Referenced (references.erase c.lock) (Function.update calls k none) := by
  refine ⟨fun {l ks} hks hcalls => ?_⟩
  have hothers : ∀ j ∈ ks, j ≠ k ∧ ∃ d, calls j = some d ∧ d.lock = l := by
    intro j hj
    obtain ⟨d, hd, hl⟩ := hcalls j hj
    rcases update_eq_some hd with ⟨-, hmoved⟩ | ⟨hne, hd⟩
    · cases hmoved
    · exact ⟨hne, d, hd, hl⟩
  by_cases hl : c.lock = l
  · -- with the caller that goes there was one more of them
    have hnodup : (k :: ks).Nodup := List.nodup_cons.mpr ⟨fun hk => (hothers k hk).1 rfl, hks⟩
    have hcount := h.length_le (l := l) hnodup (List.forall_mem_cons.mpr
      ⟨⟨c, hcall, hl⟩, fun j hj => (hothers j hj).2⟩)
    rw [List.length_cons] at hcount
    rw [hl, List.count_erase_self]
    omega
  · rw [List.count_erase_of_ne (Ne.symm hl)]
    exact h.length_le hks fun j hj => (hothers j hj).2

end Referenced

/-! ## What every step keeps -/

/-- Every slot has a lock of its own, which is the one that its callers refer to, and nobody is
inside without the lock or together with another. -/
structure Orderly (s : LockScene κ) : Prop where
  sound : s.table.Sound
  referenced : Referenced s.table.references s.calls
  mapped : ∀ {k c}, s.calls k = some c → s.table.entries.get? c.slot = some c.lock
  taken : ∀ {k c}, s.calls k = some c → c.stage = .inside → s.taken c.lock = true
  alone : ∀ {j k c d}, s.calls j = some c → s.calls k = some d →
    c.stage = .inside → d.stage = .inside → c.lock = d.lock → j = k

namespace Orderly

variable {s : LockScene κ} {k : κ} {c : LockCall}

omit [DecidableEq κ] in
theorem start : (LockScene.start : LockScene κ).Orderly where
  sound := .empty
  referenced := by
    refine ⟨fun {l ks} _ hcalls => ?_⟩
    cases ks with
    | nil => exact Nat.zero_le _
    | cons k ks =>
      obtain ⟨_, hcall, _⟩ := hcalls k List.mem_cons_self
      cases hcall
  mapped hcall := nomatch hcall
  taken hcall := nomatch hcall
  alone hcall := nomatch hcall

theorem take (h : s.Orderly) (k : κ) (slot : Slot) : (s.take k slot).Orderly where
  sound := h.sound.acquire slot
  referenced := by
    show Referenced (s.table.acquire slot).2.references _
    rw [LockTable.references_acquire]
    exact h.referenced.take ⟨slot, (s.table.acquire slot).1, .waiting⟩
  mapped {j d} hd := by
    rcases update_eq_some hd with ⟨-, hmoved⟩ | ⟨-, hd⟩
    · cases hmoved
      exact (LockTable.get?_acquire ..).trans (if_pos rfl)
    · exact LockTable.get?_acquire_of_get? (h.mapped hd) slot
  taken {j d} hd hinside := by
    rcases update_eq_some hd with ⟨-, hmoved⟩ | ⟨-, hd⟩
    · cases hmoved
      cases hinside
    · exact h.taken hd hinside
  alone {i j d d'} hd hd' hinside hinside' := by
    rcases update_eq_some hd with ⟨-, hmoved⟩ | ⟨-, hd⟩
    · cases hmoved
      cases hinside
    · rcases update_eq_some hd' with ⟨-, hmoved⟩ | ⟨-, hd'⟩
      · cases hmoved
        cases hinside'
      · exact h.alone hd hd' hinside hinside'

theorem enter (h : s.Orderly) (hcall : s.calls k = some c) (hfree : s.taken c.lock = false) :
    (s.enter k c).Orderly := by
  -- nobody is inside with the lock, since it is free
  have hother : ∀ {j d}, s.calls j = some d → d.stage = .inside → d.lock ≠ c.lock := by
    intro j d hd hinside hl
    have htaken := h.taken hd hinside
    rw [hl, hfree] at htaken
    cases htaken
  refine ⟨h.sound, h.referenced.keep hcall rfl, fun {j d} hd => ?_, fun {j d} hd hinside => ?_,
    fun {i j d d'} hd hd' hinside hinside' hl => ?_⟩
  · rcases update_eq_some hd with ⟨-, hmoved⟩ | ⟨-, hd⟩
    · cases hmoved
      exact h.mapped (c := c) hcall
    · exact h.mapped hd
  · show Function.update s.taken c.lock true d.lock = true
    rcases update_eq_some hd with ⟨-, hmoved⟩ | ⟨-, hd⟩
    · cases hmoved
      exact Function.update_self ..
    · rw [Function.update_of_ne (hother hd hinside)]
      exact h.taken hd hinside
  · rcases update_eq_some hd with ⟨hi, hmoved⟩ | ⟨-, hd⟩ <;>
      rcases update_eq_some hd' with ⟨hj, hmoved'⟩ | ⟨-, hd'⟩
    · exact hi.trans hj.symm
    · cases hmoved
      exact absurd hl.symm (hother hd' hinside')
    · cases hmoved'
      exact absurd hl (hother hd hinside)
    · exact h.alone hd hd' hinside hinside' hl

theorem leave (h : s.Orderly) (hcall : s.calls k = some c) (hinside : c.stage = .inside)
    {stage : LockStage} (hstage : stage ≠ .inside) : (s.leave k c stage).Orderly := by
  refine ⟨h.sound, h.referenced.keep hcall rfl, fun {j d} hd => ?_, fun {j d} hd hinside' => ?_,
    fun {i j d d'} hd hd' hinside₁ hinside₂ => ?_⟩
  · rcases update_eq_some hd with ⟨-, hmoved⟩ | ⟨-, hd⟩
    · cases hmoved
      exact h.mapped (c := c) hcall
    · exact h.mapped hd
  · rcases update_eq_some hd with ⟨-, hmoved⟩ | ⟨hne, hd⟩
    · cases hmoved
      exact absurd hinside' hstage
    · -- whoever else is inside has another lock
      have hl : d.lock ≠ c.lock := fun hl => hne (h.alone hd hcall hinside' hinside hl)
      exact (Function.update_of_ne hl ..).trans (h.taken hd hinside')
  · rcases update_eq_some hd with ⟨-, hmoved⟩ | ⟨-, hd⟩
    · cases hmoved
      exact absurd hinside₁ hstage
    · rcases update_eq_some hd' with ⟨-, hmoved⟩ | ⟨-, hd'⟩
      · cases hmoved
        exact absurd hinside₂ hstage
      · exact h.alone hd hd' hinside₁ hinside₂

-- A caller may go if the entries that the others need are still there.
theorem depart (h : s.Orderly) (hcall : s.calls k = some c) {table : LockTable}
    (hsound : table.Sound) (hreferences : table.references = s.table.references.erase c.lock)
    (hkept : ∀ {slot l}, s.table.entries.get? slot = some l →
      l ∈ s.table.references.erase c.lock → table.entries.get? slot = some l) :
    (s.depart k table).Orderly := by
  have hreferenced := h.referenced.depart hcall
  have hcalls : ∀ {j d}, (s.depart k table).calls j = some d → s.calls j = some d := by
    intro j d hd
    rcases update_eq_some hd with ⟨-, hmoved⟩ | ⟨-, hd⟩
    · cases hmoved
    · exact hd
  refine ⟨hsound, ?_, fun hd => hkept (h.mapped (hcalls hd)) (hreferenced.mem hd),
    fun hd => h.taken (hcalls hd), fun hd hd' => h.alone (hcalls hd) (hcalls hd')⟩
  show Referenced table.references _
  rw [hreferences]
  exact hreferenced

omit [DecidableEq κ] in
theorem cleanup (h : s.Orderly) : Orderly { s with table := s.table.cleanup } where
  sound := h.sound.cleanup
  referenced := h.referenced
  mapped hcall := LockTable.get?_cleanup_of_mem (h.mapped hcall) (h.referenced.mem hcall)
  taken := h.taken
  alone := h.alone

theorem move {s' : LockScene κ} (h : s.Orderly) (hmove : s.Move s') : s'.Orderly := by
  cases hmove with
  | take k slot hidle => exact h.take k slot
  | enter k c hcall hstage hfree => exact h.enter hcall hfree
  | leave k c hcall hstage => exact h.leave hcall hstage LockStage.noConfusion
  | release k c hcall hstage =>
    exact h.depart hcall (h.sound.release ..) (LockTable.references_release ..)
      fun hget hl => LockTable.get?_release hget hl c.slot
  | fail k c hcall hstage => exact h.leave hcall hstage LockStage.noConfusion
  | abandon k c hcall hstage =>
    exact h.depart hcall (h.sound.of_fewer rfl id) rfl fun hget _ => hget
  | cleanup => exact h.cleanup

theorem moves {s' : LockScene κ} (h : s.Orderly) (hmoves : Relation.ReflTransGen Move s s') :
    s'.Orderly := by
  induction hmoves with
  | refl => exact h
  | tail _ hmove ih => exact ih.move hmove

end Orderly

/-! ## Exclusion -/

/-- Whatever the callers do in whatever order, and whenever the table is cleaned up, those at one
slot refer to one lock, which is the one that the table has for the slot, and nobody else refers to
it.  So a slot has at most one caller inside.  The entry of a slot with a caller outlasts a
clean-up, and it outlasts every other caller, also one that leaves the same slot. -/
theorem callers_share_lock {s : LockScene κ} (hmoves : Relation.ReflTransGen Move start s) {k : κ}
    {c : LockCall} (hcall : s.calls k = some c) :
    s.table.entries.get? c.slot = some c.lock ∧
      s.table.cleanup.entries.get? c.slot = some c.lock ∧
      ∀ {j : κ} {d : LockCall}, s.calls j = some d →
        (d.slot = c.slot ↔ d.lock = c.lock) ∧
          (d.slot = c.slot → d.stage = .inside → c.stage = .inside → j = k) ∧
          (j ≠ k → (s.table.release d.slot d.lock).entries.get? c.slot = some c.lock) := by
  have h : s.Orderly := Orderly.start.moves hmoves
  have hmapped := h.mapped hcall
  refine ⟨hmapped, LockTable.get?_cleanup_of_mem hmapped (h.referenced.mem hcall), ?_⟩
  intro j d hd
  have hsame : d.slot = c.slot ↔ d.lock = c.lock := by
    constructor
    · intro hslot
      have hget := h.mapped hd
      rw [hslot, hmapped] at hget
      exact (Option.some.inj hget).symm
    · intro hlock
      exact h.sound.injective (hlock ▸ h.mapped hd) hmapped
  refine ⟨hsame, fun hslot hinside hinside' => ?_, fun hne => ?_⟩
  · exact h.alone hd hcall hinside hinside' (hsame.mp hslot)
  · -- the caller that stays has a reference that is not the one dropped
    have hstays : Function.update s.calls j none k = some c := by
      rw [Function.update_of_ne (Ne.symm hne)]
      exact hcall
    exact LockTable.get?_release hmapped ((h.referenced.depart hd).mem hstays) d.slot

end LockScene

namespace Sample

def inbox : Slot := ⟨⟨"ann"⟩, .email⟩

/-- The first caller's work has failed while the second waited. -/
def deserted : LockScene Nat :=
  let first := (LockScene.start.take 0 inbox).enter 0 ⟨inbox, 0, .waiting⟩
  let failed := (first.take 1 inbox).leave 0 ⟨inbox, 0, .inside⟩ .failing
  failed.depart 0 (failed.table.abandon 0)

/-- Then the table was cleaned up, a third caller has come, and the second has got in. -/
def rush : LockScene Nat :=
  let cleaned := { deserted with table := deserted.table.cleanup }
  (cleaned.take 2 inbox).enter 1 ⟨inbox, 0, .waiting⟩

theorem deserted_moves : Relation.ReflTransGen LockScene.Move LockScene.start deserted :=
  .tail (.tail (.tail (.tail (.single (.take 0 inbox rfl))
    (.enter 0 ⟨inbox, 0, .waiting⟩ rfl rfl rfl))
    (.take 1 inbox rfl))
    (.fail 0 ⟨inbox, 0, .inside⟩ rfl rfl))
    (.abandon 0 ⟨inbox, 0, .failing⟩ rfl rfl)

theorem rush_moves : Relation.ReflTransGen LockScene.Move LockScene.start rush :=
  .tail (.tail (.tail deserted_moves .cleanup) (.take 2 inbox rfl))
    (.enter 1 ⟨inbox, 0, .waiting⟩ rfl rfl rfl)

theorem rush_shares_lock :
    rush.calls 1 = some ⟨inbox, 0, .inside⟩ ∧ rush.calls 2 = some ⟨inbox, 0, .waiting⟩ ∧
      rush.table.cleanup.entries.get? inbox = some 0 ∧
      (rush.table.release inbox 0).entries.get? inbox = some 0 := by
  have hinside : rush.calls 1 = some ⟨inbox, 0, .inside⟩ := rfl
  have hwaits : rush.calls 2 = some ⟨inbox, 0, .waiting⟩ := rfl
  obtain ⟨-, hcleanup, -⟩ := LockScene.callers_share_lock rush_moves hinside
  obtain ⟨-, -, hothers⟩ := LockScene.callers_share_lock rush_moves hwaits
  exact ⟨hinside, hwaits, hcleanup, (hothers hinside).2.2 (by decide)⟩

end Sample

end Vouch
