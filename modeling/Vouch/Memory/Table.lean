/-!
# Tables

A table maps keys to values and remembers the order in which the keys were first inserted.
-/

namespace Vouch

/-- A finite map that remembers the order of insertion. -/
structure Table (κ ν : Type) where
  entries : List (κ × ν)
  nodup : (entries.map (·.1)).Nodup := by simp

namespace Table

variable {κ ν : Type} [DecidableEq κ]

def empty : Table κ ν := ⟨[], List.nodup_nil⟩

instance : EmptyCollection (Table κ ν) := ⟨empty⟩

def get? (t : Table κ ν) (k : κ) : Option ν :=
  (t.entries.find? fun entry => entry.1 = k).map (·.2)

/-- The entries with a key's value replaced, or a new entry at the end. -/
def insertEntries (k : κ) (v : ν) : List (κ × ν) → List (κ × ν)
  | [] => [(k, v)]
  | (k', v') :: rest => if k' = k then (k, v) :: rest else (k', v') :: insertEntries k v rest

theorem keys_insertEntries (k : κ) (v : ν) (entries : List (κ × ν)) :
    (insertEntries k v entries).map (·.1) =
      if k ∈ entries.map (·.1) then entries.map (·.1) else entries.map (·.1) ++ [k] := by
  induction entries with
  | nil => simp [insertEntries]
  | cons entry rest ih =>
    obtain ⟨k', v'⟩ := entry
    by_cases h : k' = k
    · simp [insertEntries, h]
    · have h' : k ≠ k' := fun e => h e.symm
      by_cases hk : k ∈ rest.map (·.1) <;> simp_all [insertEntries]

def insert (t : Table κ ν) (k : κ) (v : ν) : Table κ ν where
  entries := insertEntries k v t.entries
  nodup := by
    rw [keys_insertEntries]
    split
    · exact t.nodup
    · rename_i h
      rw [List.nodup_append]
      exact ⟨t.nodup, by simp, by intro a ha b hb; simp at hb; subst hb; exact fun e => h (e ▸ ha)⟩

def erase (t : Table κ ν) (k : κ) : Table κ ν where
  entries := t.entries.filter fun entry => entry.1 ≠ k
  nodup := List.Nodup.sublist (List.Sublist.map _ List.filter_sublist) t.nodup

/-- Keeps the entries whose value satisfies `p`. -/
def filter (t : Table κ ν) (p : ν → Bool) : Table κ ν where
  entries := t.entries.filter fun entry => p entry.2
  nodup := List.Nodup.sublist (List.Sublist.map _ List.filter_sublist) t.nodup

/-- The values, in the order in which their keys were first inserted. -/
def values (t : Table κ ν) : List ν :=
  t.entries.map (·.2)

def size (t : Table κ ν) : Nat :=
  t.entries.length

omit [DecidableEq κ] in
theorem ext_entries {s t : Table κ ν} (h : s.entries = t.entries) : s = t := by
  cases s; cases t; simp_all

@[simp] theorem get?_empty (k : κ) : (∅ : Table κ ν).get? k = none := rfl

-- A key has the value it was given last.
theorem get?_insert (t : Table κ ν) (k k' : κ) (v : ν) :
    (t.insert k v).get? k' = if k' = k then some v else t.get? k' := by
  obtain ⟨entries, nodup⟩ := t
  simp only [get?, insert]
  clear nodup
  induction entries with
  | nil => by_cases h : k = k' <;> simp [insertEntries, h, eq_comm]
  | cons entry rest ih =>
    obtain ⟨k₁, v₁⟩ := entry
    by_cases h₁ : k₁ = k
    · by_cases h : k = k'
      · simp [insertEntries, h₁, h]
      · simp [insertEntries, h₁, h, Ne.symm h]
    · by_cases h : k₁ = k'
      · subst h
        simp [insertEntries, h₁]
      · simp [insertEntries, h₁, h, ih]

-- A removed key has no value; the others keep theirs.
theorem get?_erase (t : Table κ ν) (k k' : κ) :
    (t.erase k).get? k' = if k' = k then none else t.get? k' := by
  obtain ⟨entries, nodup⟩ := t
  simp only [get?, erase]
  clear nodup
  induction entries with
  | nil => simp
  | cons entry rest ih =>
    obtain ⟨k₁, v₁⟩ := entry
    by_cases h₁ : k₁ = k
    · by_cases h : k = k'
      · simp_all
      · simp_all [Ne.symm h]
    · by_cases h : k₁ = k'
      · subst h
        simp [h₁]
      · simp_all

end Table

end Vouch
