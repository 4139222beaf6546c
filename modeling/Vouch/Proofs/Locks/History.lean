import Mathlib.Data.List.Dedup
import Vouch.Locks.Program

/-!
# What a caller has done

A caller's program is cut into the actions it comes to, so that every point of a run is one between
two actions.  What the table has to track there can be told from the actions that were taken so far,
without a look at the table: the slots that the caller is inside of, and the slots that it left by
failing, as long as it has not used them or cleaned up since.
-/

namespace Vouch

variable {α : Type}

/-- Something that a caller does. -/
inductive LockAction (α : Type) where
  | enter (slot : Slot)
  -- Leaves a slot with what the work has returned, or with nothing if the work has failed.
  | leave (slot : Slot) (result : Option α)
  | cleanup
  | say (a : α)

namespace LockAction

/-- The slot that is entered or left. -/
def slot? : LockAction α → Option Slot
  | .enter slot | .leave slot _ => some slot
  | .cleanup | .say _ => none

def isCleanup : LockAction α → Bool
  | .cleanup => true
  | .enter _ | .leave _ _ | .say _ => false

/-- What can be observed of an action, if so many slots are tracked after it. -/
def observed (tracked : Nat) : LockAction α → LockEvent α
  | .enter slot => .entered slot tracked
  | .leave slot result => .left slot tracked result
  | .cleanup => .cleaned tracked
  | .say a => .said a

end LockAction

namespace LockStep

mutual

/-- The actions that a step comes to. -/
def actions : LockStep α → List (LockAction α)
  | .hold slot inner result => .enter slot :: (actionsAll inner ++ [.leave slot result])
  | .cleanup => [.cleanup]
  | .say a => [.say a]

def actionsAll : List (LockStep α) → List (LockAction α)
  | [] => []
  | step :: rest => actions step ++ actionsAll rest

end

mutual

/-- Whether no slot is used inside itself, the slots `around` the step included. -/
def apart (around : List Slot) : LockStep α → Bool
  | .hold slot inner _ => slot ∉ around && apartAll (slot :: around) inner
  | .cleanup | .say _ => true

def apartAll (around : List Slot) : List (LockStep α) → Bool
  | [] => true
  | step :: rest => apart around step && apartAll around rest

end

end LockStep

/-! ## What the actions say about a slot -/

/-- The actions that a caller has taken, the latest first. -/
abbrev LockHistory (α : Type) := List (LockAction α)

namespace LockHistory

/-- Whether the caller is inside a slot: it has not left it since it entered it. -/
def isHeld (past : LockHistory α) (slot : Slot) : Bool :=
  match past.find? fun a => a.slot? = some slot with
  | some (.enter _) => true
  | _ => false

/-- Whether the caller has failed inside a slot, and has neither used it nor cleaned up since. -/
def isDeserted (past : LockHistory α) (slot : Slot) : Bool :=
  match past.find? fun a => a.slot? = some slot || a.isCleanup with
  | some (.leave _ none) => true
  | _ => false

/-- The slots that the caller has used. -/
def slots (past : LockHistory α) : List Slot :=
  (past.filterMap LockAction.slot?).dedup

def held (past : LockHistory α) : List Slot :=
  past.slots.filter past.isHeld

def deserted (past : LockHistory α) : List Slot :=
  past.slots.filter past.isDeserted

/-- What is observed of more actions if the slots that are tracked at each point are those that are
held and those that are deserted. -/
def observed (past : LockHistory α) : List (LockAction α) → List (LockEvent α)
  | [] => []
  | a :: rest =>
    let past : LockHistory α := a :: past
    a.observed (past.held.length + past.deserted.length) :: observed past rest

variable {past : LockHistory α} {slot : Slot}

@[simp] theorem isHeld_nil (slot : Slot) : isHeld ([] : LockHistory α) slot = false := rfl

@[simp] theorem isDeserted_nil (slot : Slot) : isDeserted ([] : LockHistory α) slot = false := rfl

@[simp] theorem isHeld_enter (past : LockHistory α) (slot slot' : Slot) :
    isHeld (.enter slot' :: past) slot = (slot' = slot || past.isHeld slot) := by
  by_cases h : slot' = slot <;> simp [isHeld, LockAction.slot?, h]

@[simp] theorem isHeld_leave (past : LockHistory α) (slot slot' : Slot) (result : Option α) :
    isHeld (.leave slot' result :: past) slot = (slot' ≠ slot && past.isHeld slot) := by
  by_cases h : slot' = slot <;> simp [isHeld, LockAction.slot?, h]

@[simp] theorem isHeld_cleanup (past : LockHistory α) (slot : Slot) :
    isHeld (.cleanup :: past) slot = past.isHeld slot := rfl

@[simp] theorem isHeld_say (past : LockHistory α) (slot : Slot) (a : α) :
    isHeld (.say a :: past) slot = past.isHeld slot := rfl

@[simp] theorem isDeserted_enter (past : LockHistory α) (slot slot' : Slot) :
    isDeserted (.enter slot' :: past) slot = (slot' ≠ slot && past.isDeserted slot) := by
  by_cases h : slot' = slot <;> simp [isDeserted, LockAction.slot?, LockAction.isCleanup, h]

@[simp] theorem isDeserted_leave (past : LockHistory α) (slot slot' : Slot) (result : Option α) :
    isDeserted (.leave slot' result :: past) slot =
      if slot' = slot then result.isNone else past.isDeserted slot := by
  by_cases h : slot' = slot
  · cases result <;> simp [isDeserted, LockAction.slot?, h]
  · simp [isDeserted, LockAction.slot?, LockAction.isCleanup, h]

@[simp] theorem isDeserted_cleanup (past : LockHistory α) (slot : Slot) :
    isDeserted (.cleanup :: past) slot = false := rfl

@[simp] theorem isDeserted_say (past : LockHistory α) (slot : Slot) (a : α) :
    isDeserted (.say a :: past) slot = past.isDeserted slot := rfl

-- A slot that is held is not deserted: whoever came back has used it.
theorem isDeserted_of_isHeld (h : past.isHeld slot = true) : past.isDeserted slot = false := by
  induction past with
  | nil => rfl
  | cons a past ih =>
    cases a with
    | enter slot' =>
      rw [isHeld_enter, Bool.or_eq_true, decide_eq_true_eq] at h
      rw [isDeserted_enter, Bool.and_eq_false_iff, decide_eq_false_iff_not, not_not]
      exact h.imp_right ih
    | leave slot' result =>
      rw [isHeld_leave, Bool.and_eq_true, decide_eq_true_eq] at h
      rw [isDeserted_leave, if_neg h.1]
      exact ih h.2
    | cleanup => exact isDeserted_cleanup past slot
    | say a =>
      rw [isHeld_say] at h
      rw [isDeserted_say]
      exact ih h

theorem mem_slots {a : LockAction α} (ha : a ∈ past) (h : a.slot? = some slot) :
    slot ∈ past.slots :=
  List.mem_dedup.mpr (List.mem_filterMap.mpr ⟨a, ha, h⟩)

theorem mem_slots_of_isHeld (h : past.isHeld slot = true) : slot ∈ past.slots := by
  rw [isHeld] at h
  split at h
  · rename_i slot' hfind
    have hslot := List.find?_some hfind
    exact mem_slots (List.mem_of_find?_eq_some hfind) (of_decide_eq_true hslot)
  · cases h

theorem mem_slots_of_isDeserted (h : past.isDeserted slot = true) : slot ∈ past.slots := by
  rw [isDeserted] at h
  split at h
  · rename_i slot' hfind
    have hslot := List.find?_some hfind
    rw [LockAction.isCleanup, Bool.or_false] at hslot
    exact mem_slots (List.mem_of_find?_eq_some hfind) (of_decide_eq_true hslot)
  · cases h

theorem mem_held : slot ∈ past.held ↔ past.isHeld slot = true :=
  List.mem_filter.trans (and_iff_right_of_imp mem_slots_of_isHeld)

theorem mem_deserted : slot ∈ past.deserted ↔ past.isDeserted slot = true :=
  List.mem_filter.trans (and_iff_right_of_imp mem_slots_of_isDeserted)

theorem nodup_held (past : LockHistory α) : past.held.Nodup :=
  (List.nodup_dedup _).filter _

-- No slot is counted twice.
theorem nodup_held_append_deserted (past : LockHistory α) :
    (past.held ++ past.deserted).Nodup := by
  refine List.Nodup.append past.nodup_held ((List.nodup_dedup _).filter _) ?_
  intro slot hheld hdeserted
  have h := isDeserted_of_isHeld (mem_held.mp hheld)
  rw [mem_deserted.mp hdeserted] at h
  cases h

theorem isDeserted_of_forall_notMem (h : ∀ slot, .leave slot none ∉ past) (slot : Slot) :
    past.isDeserted slot = false := by
  rw [isDeserted]
  split
  · rename_i slot' hfind
    exact absurd (List.mem_of_find?_eq_some hfind) (h slot')
  · rfl

theorem observed_append (past : LockHistory α) (first rest : List (LockAction α)) :
    observed past (first ++ rest) =
      observed past first ++ observed (first.reverse ++ past) rest := by
  induction first generalizing past with
  | nil => rfl
  | cons a first ih =>
    rw [List.cons_append, observed, observed, ih, List.reverse_cons, List.append_assoc]
    rfl

end LockHistory

end Vouch
