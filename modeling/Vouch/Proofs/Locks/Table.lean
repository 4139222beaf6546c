import Vouch.Locks.Basic
import Vouch.Proofs.Memory.Table

/-!
# The table of locks

What each use of the table does to the entries and to the references.  An entry is only taken out
if nobody refers to its lock, and no two slots share a lock.
-/

namespace Vouch.LockTable

variable {t : LockTable} {slot slot' : Slot} {lock l : Lock}

/-! ## Taking a reference -/

theorem references_acquire (slot : Slot) (t : LockTable) :
    (t.acquire slot).2.references = (t.acquire slot).1 :: t.references := by
  rw [acquire]
  split <;> rfl

-- The slot has the lock that was referred to, and the other slots have the locks they had.
theorem get?_acquire (slot slot' : Slot) (t : LockTable) :
    (t.acquire slot).2.entries.get? slot' =
      if slot' = slot then some (t.acquire slot).1 else t.entries.get? slot' := by
  rw [acquire]
  split
  · rename_i found hfound
    split
    · rename_i hslot
      rw [hslot, hfound]
    · rfl
  · exact Table.get?_insert ..

-- A slot that has a lock keeps it.
theorem get?_acquire_of_get? (h : t.entries.get? slot' = some l) (slot : Slot) :
    (t.acquire slot).2.entries.get? slot' = some l := by
  rw [acquire]
  split
  · exact h
  · rename_i hnone
    rw [Table.get?_insert, if_neg fun hslot => ?_]
    · exact h
    · rw [hslot, hnone] at h
      cases h

/-! ## Dropping it -/

theorem references_release (slot : Slot) (lock : Lock) (t : LockTable) :
    (t.release slot lock).references = t.references.erase lock := by
  simp only [release]
  split
  · rfl
  · split <;> rfl

-- What the slots have afterwards they had before.
theorem get?_of_release (h : (t.release slot lock).entries.get? slot' = some l) :
    t.entries.get? slot' = some l := by
  simp only [release] at h
  split at h
  · exact h
  · split at h
    · exact h
    · rw [Table.get?_erase] at h
      split at h
      · cases h
      · exact h

-- An entry stays as long as somebody else refers to its lock.
theorem get?_release (h : t.entries.get? slot' = some l) (hl : l ∈ t.references.erase lock)
    (slot : Slot) : (t.release slot lock).entries.get? slot' = some l := by
  simp only [release]
  split
  · exact h
  · rename_i current hcurrent
    split
    · exact h
    · rename_i hunused
      -- the entry that goes is another one, since its lock is not referred to
      have hother : slot' ≠ slot := by
        rintro rfl
        have hsame : current = l := Option.some.inj (hcurrent.symm.trans h)
        exact hunused (hsame ▸ hl)
      rw [Table.get?_erase, if_neg hother]
      exact h

-- The entry goes with the last reference to its lock.
theorem get?_release_of_notMem (h : t.entries.get? slot = some lock)
    (hlast : lock ∉ t.references.erase lock) (slot' : Slot) :
    (t.release slot lock).entries.get? slot' =
      if slot' = slot then none else t.entries.get? slot' := by
  have habandon : (t.abandon lock).entries.get? slot = some lock := h
  have hunused : lock ∉ (t.abandon lock).references := hlast
  simp only [release, habandon, if_neg hunused]
  exact Table.get?_erase ..

/-! ## Cleaning up -/

theorem get?_cleanup (t : LockTable) (slot : Slot) :
    t.cleanup.entries.get? slot =
      (t.entries.get? slot).filter fun lock => t.references.contains lock :=
  Table.get?_filter ..

theorem get?_cleanup_of_mem (h : t.entries.get? slot = some l) (hl : l ∈ t.references) :
    t.cleanup.entries.get? slot = some l := by
  rw [get?_cleanup, h]
  exact Option.filter_some_pos (List.contains_iff_mem.mpr hl)

/-! ## Locks of their own -/

/-- Every slot has a lock of its own, and the next lock is nobody's yet. -/
structure Sound (t : LockTable) : Prop where
  injective : ∀ {slot slot' l},
    t.entries.get? slot = some l → t.entries.get? slot' = some l → slot = slot'
  unused : ∀ {slot l}, t.entries.get? slot = some l → l < t.next

namespace Sound

theorem empty : LockTable.empty.Sound where
  injective h := nomatch h
  unused h := nomatch h

-- A table with no other entries than before.
theorem of_fewer {t' : LockTable} (h : t.Sound) (hnext : t'.next = t.next)
    (hfewer : ∀ {slot l}, t'.entries.get? slot = some l → t.entries.get? slot = some l) :
    t'.Sound where
  injective hslot hslot' := h.injective (hfewer hslot) (hfewer hslot')
  unused hslot := hnext ▸ h.unused (hfewer hslot)

theorem acquire (h : t.Sound) (slot : Slot) : (t.acquire slot).2.Sound := by
  rw [LockTable.acquire]
  split
  · exact h.of_fewer rfl id
  · -- the new lock is not the lock of any slot that had one
    have hnew : ∀ {slot'}, t.entries.get? slot' ≠ some t.next := fun hget =>
      Nat.lt_irrefl _ (h.unused hget)
    constructor
    · intro slot₁ slot₂ l h₁ h₂
      dsimp only at h₁ h₂
      rw [Table.get?_insert] at h₁ h₂
      split at h₁ <;> split at h₂
      · rename_i hslot₁ hslot₂
        exact hslot₁.trans hslot₂.symm
      · rw [← h₁] at h₂
        exact absurd h₂ hnew
      · rw [← h₂] at h₁
        exact absurd h₁ hnew
      · exact h.injective h₁ h₂
    · intro slot' l hget
      dsimp only at hget
      rw [Table.get?_insert] at hget
      split at hget
      · cases hget
        exact Nat.lt_succ_self _
      · exact Nat.lt_succ_of_lt (h.unused hget)

theorem release (h : t.Sound) (slot : Slot) (lock : Lock) : (t.release slot lock).Sound := by
  refine h.of_fewer ?_ get?_of_release
  simp only [LockTable.release]
  split
  · rfl
  · split <;> rfl

theorem cleanup (h : t.Sound) : t.cleanup.Sound := by
  refine h.of_fewer rfl fun hget => ?_
  rw [get?_cleanup] at hget
  exact Option.eq_some_of_filter_eq_some hget

end Sound

end Vouch.LockTable
