import Mathlib.Data.List.TakeWhile
import Vouch.Proofs.Text.Split
import Vouch.Text.Blank

/-!
# Texts without white space around them

Trimming takes the white space off both ends, however much there is, and nothing else.
-/

namespace Vouch.Text

variable {cs : List Char}

/-- Whether a text neither begins nor ends with white space. -/
structure IsTrimmed (cs : List Char) : Prop where
  head : ∀ c ∈ cs.head?, isBlank c = false
  last : ∀ c ∈ cs.getLast?, isBlank c = false

-- White space in front is dropped, so what is left begins with something else.
theorem isBlank_head?_dropWhile (cs : List Char) :
    ∀ c ∈ (cs.dropWhile isBlank).head?, isBlank c = false := by
  intro c hc
  have h := List.head?_dropWhile_not isBlank cs
  rwa [Option.mem_def.mp hc] at h

theorem IsTrimmed.trimChars_eq (h : IsTrimmed cs) : trimChars cs = cs := by
  have hlast : ∀ c ∈ cs.reverse.head?, isBlank c = false := by
    rw [List.head?_reverse]
    exact h.last
  rw [trimChars, dropWhile_eq_self h.head, dropWhile_eq_self hlast, List.reverse_reverse]

theorem isTrimmed_trimChars (cs : List Char) : IsTrimmed (trimChars cs) := by
  constructor
  · -- what is left of the text after its end is trimmed begins as it did before
    intro c hc
    have hstart : trimChars cs <+: cs.dropWhile isBlank := by
      rw [← List.reverse_suffix, trimChars, List.reverse_reverse]
      exact List.dropWhile_suffix isBlank
    obtain ⟨rest, hrest⟩ := hstart
    refine isBlank_head?_dropWhile cs c ?_
    rw [Option.mem_def, ← hrest, List.head?_append, Option.mem_def.mp hc]
    rfl
  · intro c hc
    rw [trimChars, List.getLast?_reverse] at hc
    exact isBlank_head?_dropWhile _ c hc

-- White space around a text makes no difference.
theorem trimChars_append {before after : List Char} (hbefore : ∀ c ∈ before, isBlank c = true)
    (hafter : ∀ c ∈ after, isBlank c = true) : trimChars (before ++ cs ++ after) = trimChars cs := by
  have hreverse : ∀ c ∈ after.reverse, isBlank c = true := fun c hc =>
    hafter c (List.mem_reverse.mp hc)
  rw [List.append_assoc, trimChars, List.dropWhile_append_of_pos hbefore, List.dropWhile_append,
    trimChars]
  split
  · rename_i hempty
    rw [List.isEmpty_iff.mp hempty, List.dropWhile_eq_nil_iff.mpr hafter]
  · rw [List.reverse_append, List.dropWhile_append_of_pos hreverse]

-- Characters can be replaced before or after a text is trimmed if blanks are replaced by blanks and
-- other characters by others.
theorem trimChars_map {f : Char → Char} (hf : ∀ c, isBlank (f c) = isBlank c) (cs : List Char) :
    trimChars (cs.map f) = (trimChars cs).map f := by
  have hblank : isBlank ∘ f = isBlank := funext hf
  rw [trimChars, trimChars, List.dropWhile_map, hblank, ← List.map_reverse, List.dropWhile_map,
    hblank, List.map_reverse]

end Vouch.Text
