import Vouch.Text.Split

/-!
# Cutting what was put together

A text that was put together with separators is cut into the parts again, if these do not hold the
separator.
-/

namespace Vouch.Text

variable {sep : Char} {cs ds : List Char}

-- Nothing is dropped from a text that begins with something else.
theorem dropWhile_eq_self {p : Char → Bool} (h : ∀ c ∈ cs.head?, p c = false) :
    cs.dropWhile p = cs := by
  cases cs with
  | nil => rfl
  | cons c rest => rw [List.dropWhile_cons_of_neg (by rw [h c rfl]; exact Bool.false_ne_true)]

theorem fields_ne_nil (sep : Char) (cs : List Char) : fields sep cs ≠ [] := by
  cases cs with
  | nil => exact List.cons_ne_nil _ _
  | cons c rest =>
    rw [fields]
    split
    · exact List.cons_ne_nil _ _
    · split <;> exact List.cons_ne_nil _ _

theorem fields_cons_of_ne {c : Char} (h : c ≠ sep) {field : List Char} {others : List (List Char)}
    (hrest : fields sep cs = field :: others) : fields sep (c :: cs) = (c :: field) :: others := by
  rw [fields, if_neg h, hrest]

-- A text without the separator is one field.
theorem fields_eq_singleton (h : sep ∉ cs) : fields sep cs = [cs] := by
  induction cs with
  | nil => rfl
  | cons c cs ih =>
    have hc : c ≠ sep := fun heq => h (heq ▸ List.mem_cons_self)
    exact fields_cons_of_ne hc (ih fun hmem => h (List.mem_cons_of_mem c hmem))

-- What comes before the first separator is a field of its own.
theorem fields_append (h : sep ∉ cs) (ds : List Char) :
    fields sep (cs ++ sep :: ds) = cs :: fields sep ds := by
  induction cs with
  | nil => exact if_pos rfl
  | cons c cs ih =>
    have hc : c ≠ sep := fun heq => h (heq ▸ List.mem_cons_self)
    exact fields_cons_of_ne hc (ih fun hmem => h (List.mem_cons_of_mem c hmem))

-- The fields with the separators between them are the text.
theorem intercalate_fields (sep : Char) (cs : List Char) :
    [sep].intercalate (fields sep cs) = cs := by
  induction cs with
  | nil => rfl
  | cons c cs ih =>
    by_cases hc : c = sep
    · rw [fields, if_pos hc, List.intercalate_cons_of_ne_nil (fields_ne_nil sep cs), ih, hc]
      rfl
    · obtain ⟨field, others, hfields⟩ := List.exists_cons_of_ne_nil (fields_ne_nil sep cs)
      rw [hfields] at ih
      rw [fields_cons_of_ne hc hfields]
      cases others with
      | nil => rw [← ih]; rfl
      | cons next others =>
        rw [List.intercalate_cons_cons] at ih ⊢
        rw [← ih]
        rfl

-- Parts without the separator are the fields of the text that they are put together to.
theorem fields_intercalate {parts : List (List Char)} (hne : parts ≠ [])
    (h : ∀ part ∈ parts, sep ∉ part) : fields sep ([sep].intercalate parts) = parts := by
  induction parts with
  | nil => exact absurd rfl hne
  | cons part parts ih =>
    obtain ⟨hpart, hrest⟩ := List.forall_mem_cons.mp h
    cases parts with
    | nil =>
      rw [List.intercalate_singleton]
      exact fields_eq_singleton hpart
    | cons next parts =>
      rw [List.intercalate_cons_cons, List.append_assoc, List.singleton_append,
        fields_append hpart, ih (List.cons_ne_nil _ _) hrest]

-- Every character of a field is one of the text.
theorem mem_of_mem_fields {field : List Char} (hfield : field ∈ fields sep cs) {c : Char}
    (hc : c ∈ field) : c ∈ cs := by
  induction cs generalizing field with
  | nil =>
    rw [fields, List.mem_singleton] at hfield
    exact hfield ▸ hc
  | cons d cs ih =>
    by_cases hd : d = sep
    · rw [fields, if_pos hd] at hfield
      rcases List.mem_cons.mp hfield with rfl | hfield
      · cases hc
      · exact List.mem_cons_of_mem d (ih hfield hc)
    · obtain ⟨first, others, hfields⟩ := List.exists_cons_of_ne_nil (fields_ne_nil sep cs)
      rw [fields_cons_of_ne hd hfields] at hfield
      rcases List.mem_cons.mp hfield with rfl | hfield
      · rcases List.mem_cons.mp hc with rfl | hc
        · exact List.mem_cons_self
        · exact List.mem_cons_of_mem d (ih (hfields ▸ List.mem_cons_self) hc)
      · exact List.mem_cons_of_mem d (ih (hfields ▸ List.mem_cons_of_mem _ hfield) hc)

-- No field holds the separator.
theorem not_mem_of_mem_fields {field : List Char} (hfield : field ∈ fields sep cs) :
    sep ∉ field := by
  induction cs generalizing field with
  | nil =>
    rw [List.mem_singleton.mp hfield]
    exact List.not_mem_nil
  | cons c cs ih =>
    by_cases hc : c = sep
    · rw [fields, if_pos hc] at hfield
      rcases List.mem_cons.mp hfield with rfl | hfield
      · exact List.not_mem_nil
      · exact ih hfield
    · obtain ⟨first, others, hfields⟩ := List.exists_cons_of_ne_nil (fields_ne_nil sep cs)
      rw [fields_cons_of_ne hc hfields] at hfield
      rw [hfields] at ih
      rcases List.mem_cons.mp hfield with rfl | hfield
      · intro hmem
        rcases List.mem_cons.mp hmem with heq | hmem
        · exact hc heq.symm
        · exact ih List.mem_cons_self hmem
      · exact ih (List.mem_cons_of_mem first hfield)

theorem splitFirst?_append (h : sep ∉ cs) (ds : List Char) :
    splitFirst? sep (cs ++ sep :: ds) = some (cs, ds) := by
  induction cs with
  | nil => exact if_pos rfl
  | cons c cs ih =>
    have hc : c ≠ sep := fun heq => h (heq ▸ List.mem_cons_self)
    rw [List.cons_append, splitFirst?, if_neg hc, ih fun hmem => h (List.mem_cons_of_mem c hmem)]
    rfl

-- Without the separator there is nothing to split at.
theorem splitLast?_eq_none (h : sep ∉ cs) : splitLast? [sep] cs = none := by
  induction cs with
  | nil => rfl
  | cons c cs ih =>
    have hc : sep ≠ c := fun heq => h (heq ▸ List.mem_cons_self)
    rw [splitLast?, ih fun hmem => h (List.mem_cons_of_mem c hmem)]
    exact if_neg (by simp [hc])

theorem splitLast?_append (cs : List Char) (h : sep ∉ ds) :
    splitLast? [sep] (cs ++ sep :: ds) = some (cs, ds) := by
  induction cs with
  | nil =>
    rw [List.nil_append, splitLast?, splitLast?_eq_none h]
    exact if_pos (by simp)
  | cons c cs ih => rw [List.cons_append, splitLast?, ih]

end Vouch.Text
