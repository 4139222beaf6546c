import Vouch.Proofs.Text.Split
import Vouch.Proofs.Url.Percent
import Vouch.Url.Parser

/-!
# Cutting the text of a URL

What the parts of a URL may hold is such that the marks between them can be found again: the
scheme before its colon, the path before the query.
-/

namespace Vouch.Url

/-! ## Cutting at the first character that stops -/

-- A text that does not go on with what has been read so far.
def Stops (p : Char → Bool) (cs : List Char) : Prop := ∀ c ∈ cs.head?, p c = false

section Stops

variable {p : Char → Bool} {cs ds : List Char}

theorem stops_nil : Stops p [] := fun _ hc => (nomatch hc)

theorem stops_cons {c : Char} (h : p c = false) : Stops p (c :: cs) := by
  intro d hd
  cases hd
  exact h

theorem takeWhile_of_stops (h : Stops p cs) : cs.takeWhile p = [] := by
  cases cs with
  | nil => rfl
  | cons c cs => rw [List.takeWhile_cons, h c rfl]; rfl

theorem dropWhile_of_stops (h : Stops p cs) : cs.dropWhile p = cs :=
  Text.dropWhile_eq_self h

theorem takeWhile_append (hcs : ∀ c ∈ cs, p c = true) (hds : Stops p ds) :
    (cs ++ ds).takeWhile p = cs := by
  rw [List.takeWhile_append_of_pos hcs, takeWhile_of_stops hds, List.append_nil]

theorem dropWhile_append (hcs : ∀ c ∈ cs, p c = true) (hds : Stops p ds) :
    (cs ++ ds).dropWhile p = ds := by
  rw [List.dropWhile_append_of_pos hcs, dropWhile_of_stops hds]

theorem takeWhile_all (hcs : ∀ c ∈ cs, p c = true) : cs.takeWhile p = cs := by
  have h := takeWhile_append hcs (stops_nil (p := p))
  rwa [List.append_nil] at h

theorem dropWhile_all (hcs : ∀ c ∈ cs, p c = true) : cs.dropWhile p = [] := by
  have h := dropWhile_append hcs (stops_nil (p := p))
  rwa [List.append_nil] at h

end Stops

/-! ## The text as a whole -/

variable {cs : List Char}

theorem trimEdges_eq (h : ∀ c ∈ cs, 0x20 < c.toNat) : trimEdges cs = cs := by
  have hedge : ∀ ds : List Char, (∀ c ∈ ds, 0x20 < c.toNat) →
      ds.dropWhile (fun c => decide (c.toNat ≤ 0x20)) = ds := by
    intro ds hds
    refine dropWhile_of_stops fun c hc => decide_eq_false ?_
    exact Nat.not_le.mpr (hds c (List.mem_of_mem_head? hc))
  rw [trimEdges, hedge cs h, hedge _ fun c hc => h c (List.mem_reverse.mp hc),
    List.reverse_reverse]

-- Tabs and line breaks are no visible characters.
theorem isBreak_eq_false {c : Char} (h : 0x20 < c.toNat) : isBreak c = false := by
  simp only [isBreak, List.contains_cons, List.contains_nil, Bool.or_false, Bool.or_eq_false_iff,
    beq_eq_false_iff_ne]
  refine ⟨?_, ?_, ?_⟩ <;> rintro rfl <;> revert h <;> decide

theorem dropBreaks_eq (h : ∀ c ∈ cs, 0x20 < c.toNat) : dropBreaks cs = cs := by
  refine List.filter_eq_self.mpr fun c hc => ?_
  rw [isBreak_eq_false (h c hc)]
  rfl

/-- The text of a scheme in its usual form. -/
structure IsScheme (scheme : List Char) : Prop where
  chars : ∀ c ∈ scheme, isSchemeChar c = true
  head : scheme.head?.any Char.isAlpha = true
  lower : scheme.map Char.toLower = scheme

theorem IsScheme.visible {scheme : List Char} (h : IsScheme scheme) :
    ∀ c ∈ scheme, 0x20 < c.toNat ∧ c ≠ ':' := by
  intro c hc
  have hchar := h.chars c hc
  simp only [isSchemeChar, Bool.or_eq_true, decide_eq_true_eq] at hchar
  rcases hchar with ((halnum | rfl) | rfl) | rfl
  · have hcode := Text.toNat_of_isAlphanum halnum
    refine ⟨by omega, ?_⟩
    rintro rfl
    revert hcode
    decide
  all_goals decide

theorem splitScheme?_eq {scheme : List Char} (h : IsScheme scheme) (rest : List Char) :
    splitScheme? (scheme ++ ':' :: rest) = some (scheme, rest) := by
  have hcolon : Stops isSchemeChar (':' :: rest) := stops_cons rfl
  rw [splitScheme?, takeWhile_append h.chars hcolon, dropWhile_append h.chars hcolon]
  simp only [h.head, h.lower, if_true]

/-- Whether a character can be seen, and begins neither a query nor a fragment. -/
def isPlain (c : Char) : Bool :=
  decide (0x20 < c.toNat) && c ≠ '?' && c ≠ '#'

theorem isPlain_iff {c : Char} : isPlain c = true ↔ 0x20 < c.toNat ∧ c ≠ '?' ∧ c ≠ '#' := by
  simp only [isPlain, Bool.and_eq_true, decide_eq_true_eq, and_assoc]

-- What follows the path: a query or nothing.
def queryText (query : Option (List Char)) : List Char :=
  match query with
  | none => []
  | some query => '?' :: query

theorem splitTail_eq {query : Option (List Char)} (hcs : ∀ c ∈ cs, isPlain c = true)
    (hquery : ∀ q ∈ query, '#' ∉ q) :
    splitTail (cs ++ queryText query) = (cs, query, none) := by
  have hall : ∀ c ∈ cs ++ queryText query, decide (c ≠ '#') = true := by
    intro c hc
    refine decide_eq_true ?_
    rcases List.mem_append.mp hc with hc | hc
    · exact (isPlain_iff.mp (hcs c hc)).2.2
    · cases query with
      | none => cases hc
      | some q =>
        rcases List.mem_cons.mp hc with rfl | hc
        · decide
        · rintro rfl
          exact hquery q rfl hc
  have hfront : ∀ c ∈ cs, decide (c ≠ '?') = true :=
    fun c hc => decide_eq_true (isPlain_iff.mp (hcs c hc)).2.1
  have hstop : Stops (fun c => decide (c ≠ '?')) (queryText query) := by
    cases query with
    | none => exact stops_nil
    | some q => exact stops_cons rfl
  simp only [splitTail, takeWhile_all hall, dropWhile_all hall, takeWhile_append hfront hstop,
    dropWhile_append hfront hstop]
  cases query <;> rfl

end Vouch.Url
