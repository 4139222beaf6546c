import Vouch.Memory.Table

/-!
# Laws of tables

A table is read through `get?` or through the list of its values.  The lemmas here say what
`insert` and `erase` do to that list: a new key goes to the end, a known key keeps its place.
-/

namespace Vouch.Table

variable {κ ν : Type} [DecidableEq κ]

-- What holds of every entry and of a new one holds after it is inserted.
theorem forall_insert {t : Table κ ν} {P : κ → ν → Prop} {k : κ} {v : ν}
    (h : ∀ {k v}, t.get? k = some v → P k v) (hv : P k v) {k' : κ} {v' : ν}
    (hget : (t.insert k v).get? k' = some v') : P k' v' := by
  rw [get?_insert] at hget
  split at hget
  · rename_i hk
    rw [hk, ← Option.some.inj hget]
    exact hv
  · exact h hget

-- A key that is known stays known.
theorem exists_insert {t : Table κ ν} {k : κ} (h : ∃ v, t.get? k = some v) (k' : κ) (v' : ν) :
    ∃ v, (t.insert k' v').get? k = some v := by
  rw [get?_insert]
  split
  · exact ⟨v', rfl⟩
  · exact h

-- In a list whose keys are distinct the first entry with a key is the only one.
theorem find?_entries_iff {entries : List (κ × ν)} (hn : (entries.map (·.1)).Nodup) (k : κ)
    (v : ν) :
    (entries.find? fun entry => entry.1 = k).map (·.2) = some v ↔ (k, v) ∈ entries := by
  induction entries with
  | nil => simp
  | cons entry rest ih =>
    obtain ⟨k', v'⟩ := entry
    obtain ⟨hk', hrest⟩ := List.nodup_cons.mp hn
    by_cases hk : k' = k
    · -- found at the front, and nowhere else
      subst hk
      have hout : (k', v) ∉ rest := fun hmem => hk' (List.mem_map_of_mem (f := (·.1)) hmem)
      simp [hout, eq_comm]
    · have hne : ¬ k = k' := fun he => hk he.symm
      simp [hk, hne, ih hrest]

theorem mem_entries_iff (t : Table κ ν) (k : κ) (v : ν) :
    (k, v) ∈ t.entries ↔ t.get? k = some v :=
  (find?_entries_iff t.nodup k v).symm

-- A table that keeps some of its entries has no other values than before.
theorem get?_filter (t : Table κ ν) (p : ν → Bool) (k : κ) :
    (t.filter p).get? k = (t.get? k).filter p := by
  refine Option.ext fun v => ?_
  rw [← mem_entries_iff, Option.filter_eq_some_iff, ← mem_entries_iff]
  exact List.mem_filter

theorem mem_values_iff (t : Table κ ν) (v : ν) : v ∈ t.values ↔ ∃ k, t.get? k = some v := by
  simp only [values, List.mem_map, Prod.exists, mem_entries_iff]
  constructor
  · rintro ⟨k, w, hk, rfl⟩
    exact ⟨k, hk⟩
  · rintro ⟨k, hk⟩
    exact ⟨k, v, hk, rfl⟩

theorem insertEntries_of_forall_ne {k : κ} (v : ν) {entries : List (κ × ν)}
    (h : ∀ entry ∈ entries, entry.1 ≠ k) : insertEntries k v entries = entries ++ [(k, v)] := by
  induction entries with
  | nil => rfl
  | cons entry rest ih =>
    have hrest := ih fun e he => h e (List.mem_cons_of_mem _ he)
    simp only [insertEntries, if_neg (h entry List.mem_cons_self), hrest, List.cons_append]

-- A new key goes to the end.
theorem values_insert_of_get?_eq_none {t : Table κ ν} {k : κ} (h : t.get? k = none) (v : ν) :
    (t.insert k v).values = t.values ++ [v] := by
  have habsent : ∀ entry ∈ t.entries, entry.1 ≠ k := by
    intro entry hmem he
    have hget := (t.mem_entries_iff entry.1 entry.2).mp hmem
    rw [he, h] at hget
    cases hget
  show (insertEntries k v t.entries).map (·.2) = t.entries.map (·.2) ++ [v]
  rw [insertEntries_of_forall_ne v habsent, List.map_append]
  rfl

theorem map_insertEntries_of_mem {k : κ} (v : ν) (key : ν → κ) {entries : List (κ × ν)}
    (hn : (entries.map (·.1)).Nodup) (hkeys : ∀ entry ∈ entries, key entry.2 = entry.1)
    (hk : k ∈ entries.map (·.1)) :
    (insertEntries k v entries).map (·.2) =
      (entries.map (·.2)).map fun w => if key w = k then v else w := by
  induction entries with
  | nil => cases hk
  | cons entry rest ih =>
    obtain ⟨hfresh, hrest⟩ := List.nodup_cons.mp hn
    have hfirst := hkeys entry List.mem_cons_self
    have hkeys' : ∀ e ∈ rest, key e.2 = e.1 := fun e he => hkeys e (List.mem_cons_of_mem _ he)
    by_cases he : entry.1 = k
    · -- the other keys differ from `k`, so the rest is left as it is
      have hsame : ∀ w ∈ rest.map (·.2), (if key w = k then v else w) = w := by
        intro w hw
        obtain ⟨e, hmem, rfl⟩ := List.mem_map.mp hw
        rw [if_neg]
        intro hkw
        rw [hkeys' e hmem] at hkw
        exact hfresh (List.mem_map.mpr ⟨e, hmem, hkw.trans he.symm⟩)
      simp only [insertEntries, if_pos he, List.map_cons, hfirst]
      rw [List.map_congr_left hsame, List.map_id']
    · have hk' : k ∈ rest.map (·.1) := (List.mem_cons.mp hk).resolve_left fun h => he h.symm
      simp only [insertEntries, if_neg he, List.map_cons, hfirst]
      rw [ih hrest hkeys' hk']

-- A known key keeps its place.  `key` says under which key a value is kept.
theorem values_insert_of_get?_eq_some {t : Table κ ν} {k : κ} {old : ν} (h : t.get? k = some old)
    (v : ν) (key : ν → κ) (hkey : ∀ k v, t.get? k = some v → key v = k) :
    (t.insert k v).values = t.values.map fun w => if key w = k then v else w := by
  apply map_insertEntries_of_mem v key t.nodup
  · intro entry hmem
    exact hkey entry.1 entry.2 ((t.mem_entries_iff _ _).mp hmem)
  · exact List.mem_map.mpr ⟨(k, old), (t.mem_entries_iff k old).mpr h, rfl⟩

theorem mem_keys_iff (t : Table κ ν) (k : κ) :
    k ∈ t.entries.map (·.1) ↔ (t.get? k).isSome = true := by
  rw [Option.isSome_iff_exists, List.mem_map]
  constructor
  · rintro ⟨⟨k', v'⟩, hmem, rfl⟩
    exact ⟨v', (t.mem_entries_iff _ _).mp hmem⟩
  · rintro ⟨v', hget⟩
    exact ⟨(k, v'), (t.mem_entries_iff _ _).mpr hget, rfl⟩

-- The size is the number of keys that have a value.
theorem size_eq_length {t : Table κ ν} {keys : List κ} (hn : keys.Nodup)
    (h : ∀ k, (t.get? k).isSome = true ↔ k ∈ keys) : t.size = keys.length := by
  have hperm : (t.entries.map (·.1)).Perm keys :=
    (List.perm_ext_iff_of_nodup t.nodup hn).mpr fun k => (t.mem_keys_iff k).trans (h k)
  rw [← hperm.length_eq, List.length_map, size]

-- The number of keys grows with a new key only.
theorem size_insert (t : Table κ ν) (k : κ) (v : ν) :
    (t.insert k v).size = if (t.get? k).isSome then t.size else t.size + 1 := by
  have hkeys := congrArg List.length (keys_insertEntries k v t.entries)
  have hmem := t.mem_keys_iff k
  rw [List.length_map] at hkeys
  show (insertEntries k v t.entries).length = _
  rw [hkeys]
  by_cases hk : (t.get? k).isSome
  · rw [if_pos (hmem.mpr hk), if_pos hk, List.length_map, size]
  · rw [if_neg fun h => hk (hmem.mp h), if_neg hk, List.length_append, List.length_map, size]
    rfl

-- Values that name their own keys are distinct.
theorem nodup_values (t : Table κ ν) (key : ν → κ) (hkey : ∀ k v, t.get? k = some v → key v = k) :
    (t.values.map key).Nodup := by
  have hkeys : t.values.map key = t.entries.map (·.1) := by
    rw [values, List.map_map]
    apply List.map_congr_left
    intro entry hmem
    exact hkey _ _ ((t.mem_entries_iff entry.1 entry.2).mp hmem)
  rw [hkeys]
  exact t.nodup

end Vouch.Table
