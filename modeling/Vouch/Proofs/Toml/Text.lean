import Vouch.Proofs.Text.Utf8
import Vouch.Toml.Text

/-!
# Texts are read back

A text is written in one of four forms, and what is written is read as the text again.  Between the
two stands the grammar of what may be found between the delimiters: every spelling of a text is read
as the text, and what is written is a spelling of it.
-/

namespace Vouch.Toml

variable {s : Style} {c : Char} {cs w rest : List Char}

namespace Style

/-- How many quotes or apostrophes may stand together in a text without ending it. -/
def spare (s : Style) : Nat :=
  if s.multiline then 2 else 0

/-- Whether a character may stand for itself. -/
def admits (s : Style) (c : Char) : Bool :=
  (isPlain c || (s.multiline && c = '\n')) && !(s.escapes && c = '\\')

theorem quote_ne_backslash (s : Style) : s.quote ≠ '\\' := by
  rw [quote]
  split <;> decide

theorem quote_ne_lineEnd (s : Style) : s.quote ≠ '\n' := by
  rw [quote]
  split <;> decide

/-- Whether no more of a form's quotes or apostrophes stand in front than may stand together. -/
def Spares (s : Style) (w : List Char) : Prop :=
  (w.takeWhile (· = s.quote)).length ≤ s.spare

theorem spares_of_ne (h : c ≠ s.quote) (w : List Char) : s.Spares (c :: w) := by
  rw [Spares, List.takeWhile_cons_of_neg (by simpa using h)]
  exact Nat.zero_le _

end Style

/-! ## The grammar of texts -/

/-- The number that hexadecimal digits write. -/
def hexNumber? (digits : List Char) : Option Nat :=
  digits.foldlM (fun n d => (digitValue? d).map (16 * n + ·)) 0

/-- The spellings of a text in a form. -/
inductive Spelled (s : Style) : List Char → List Char → Prop where
  | nil : Spelled s [] []
  -- A character that stands for itself.
  | plain {c : Char} {w cs : List Char} (hadmits : s.admits c = true) (hspares : s.Spares (c :: w))
      (h : Spelled s w cs) : Spelled s (c :: w) (c :: cs)
  -- An escape of one letter.
  | letter {l c : Char} {w cs : List Char} (hescapes : s.escapes = true)
      (hletter : escaped? l = some c) (h : Spelled s w cs) : Spelled s ('\\' :: l :: w) (c :: cs)
  -- A code point of four digits.
  | codePoint {digits : List Char} {c : Char} {w cs : List Char} (hescapes : s.escapes = true)
      (hlength : digits.length = 4) (hvalue : hexNumber? digits = some c.toNat)
      (h : Spelled s w cs) : Spelled s ('\\' :: 'u' :: (digits ++ w)) (c :: cs)

namespace Spelled

theorem spares (h : Spelled s w cs) : s.Spares w := by
  cases h with
  | nil => exact Nat.zero_le _
  | plain _ hspares _ => exact hspares
  | letter _ _ _ => exact Style.spares_of_ne s.quote_ne_backslash.symm _
  | codePoint _ _ _ _ => exact Style.spares_of_ne s.quote_ne_backslash.symm _

-- Quotes or apostrophes alone stand for themselves.
theorem eq_of_all (h : Spelled s w cs) (hall : w.all (· = s.quote) = true) : cs = w := by
  induction h with
  | nil => rfl
  | plain _ _ _ ih =>
    rw [List.all_cons, Bool.and_eq_true] at hall
    rw [ih hall.2]
  | letter _ _ _ _ | codePoint _ _ _ _ _ =>
    rw [List.all_cons, Bool.and_eq_true, decide_eq_true_eq] at hall
    exact absurd hall.1.symm s.quote_ne_backslash

end Spelled

/-! ## Reading -/

-- A text ends where only quotes stand before the delimiter; they are still part of it.
theorem readEnd?_append (hspares : s.Spares w) (hrest : rest.head? ≠ some s.quote) :
    readEnd? s (w ++ (s.delimiter ++ rest)) =
      if w.all (· = s.quote) then some (w, rest) else none := by
  have hnone : rest.takeWhile (· = s.quote) = [] := by
    cases rest with
    | nil => rfl
    | cons c rest => exact List.takeWhile_cons_of_neg (by simpa using hrest)
  have hspare := hspares
  rw [Style.Spares, Style.spare] at hspare
  cases hmultiline : s.multiline with
  | false =>
    cases w with
    | nil => simp [readEnd?, Style.delimiter, hmultiline]
    | cons a w =>
      by_cases ha : a = s.quote
      · simp [ha, hmultiline] at hspare
      · simp [readEnd?, Style.delimiter, hmultiline, ha, Ne.symm ha]
  | true =>
    rcases w with _ | ⟨a, _ | ⟨b, _ | ⟨c, w⟩⟩⟩
    · simp [readEnd?, Style.delimiter, hmultiline, hnone, List.replicate_succ]
    · by_cases ha : a = s.quote <;>
        simp [readEnd?, Style.delimiter, hmultiline, hnone, List.replicate_succ, ha, Ne.symm]
    · by_cases ha : a = s.quote <;> by_cases hb : b = s.quote <;>
        simp [readEnd?, Style.delimiter, hmultiline, hnone, List.replicate_succ, ha, hb, Ne.symm]
    · by_cases ha : a = s.quote <;> by_cases hb : b = s.quote <;> by_cases hc : c = s.quote <;>
        simp_all [readEnd?, Style.delimiter, List.replicate_succ, Ne.symm]

/-- A character before what is read next. -/
def prepend (c : Char) (read : List Char × List Char) : List Char × List Char :=
  (c :: read.1, read.2)

theorem readRest_of_readEnd? {finish : List Char × List Char} (h : readEnd? s cs = some finish) :
    readRest s .none cs = some finish := by
  cases cs with
  | nil => cases hmultiline : s.multiline <;>
      simp [readEnd?, Style.delimiter, hmultiline, List.replicate_succ] at h
  | cons c rest => simp [readRest, isSettled, h]

-- A character that does not end the text is read, and then what follows it.
theorem readRest_cons {pending next : Pending} {char? : Option Char}
    (hend : isSettled pending = true → readEnd? s (c :: rest) = none)
    (hchar : readChar s pending c = some (next, char?)) :
    readRest s pending (c :: rest) =
      (readRest s next rest).map fun read => (char?.toList ++ read.1, read.2) := by
  have hnone : (if isSettled pending then readEnd? s (c :: rest) else none) = none := by
    split
    · exact hend ‹_›
    · rfl
  simp only [readRest, hnone, hchar, Option.bind_eq_bind, Option.bind_some]
  cases readRest s next rest <;> rfl

theorem readRest_plain (hend : readEnd? s (c :: rest) = none) (hadmits : s.admits c = true) :
    readRest s .none (c :: rest) = (readRest s .none rest).map (prepend c) := by
  rw [Style.admits, Bool.and_eq_true, Bool.not_eq_true'] at hadmits
  obtain ⟨hplain, hbackslash⟩ := hadmits
  have hchar : readChar s .none c = some (.none, some c) := by
    simp [readChar, hplain, hbackslash]
  exact readRest_cons (fun _ => hend) hchar

theorem readRest_backslash (hescapes : s.escapes = true) :
    readRest s .none ('\\' :: rest) = readRest s .escape rest := by
  have hend : readEnd? s ('\\' :: rest) = none := by
    have hquote := s.quote_ne_backslash
    cases hmultiline : s.multiline <;>
      simp [readEnd?, Style.delimiter, hmultiline, List.replicate_succ, hquote]
  have hchar : readChar s .none '\\' = some (.escape, none) := by
    simp [readChar, hescapes]
  rw [readRest_cons (fun _ => hend) hchar]
  cases readRest s .escape rest <;> rfl

-- Inside an escape the text does not end.
theorem readRest_escape {next : Pending} {char? : Option Char}
    (hescape : readEscape s c = some (next, char?)) :
    readRest s .escape (c :: rest) =
      (readRest s next rest).map fun read => (char?.toList ++ read.1, read.2) :=
  readRest_cons (fun hsettled => nomatch hsettled) hescape

theorem readEscape_letter {l : Char} (h : escaped? l = some c) :
    readEscape s l = some (.none, some c) := by
  unfold escaped? at h
  split at h
  case h_8 => cases h
  all_goals
    cases h
    simp [readEscape, escaped?, isBlank]

theorem isSettled_digits (missing value : Nat) : isSettled (.digits missing value) = false := rfl

theorem readRest_digits (digits : List Char) {value : Nat} (hne : digits ≠ [])
    (hvalue : digits.foldlM (fun n d => (digitValue? d).map (16 * n + ·)) value = some c.toNat) :
    readRest s (.digits digits.length value) (digits ++ rest) =
      (readRest s .none rest).map (prepend c) := by
  induction digits generalizing value with
  | nil => exact absurd rfl hne
  | cons d digits ih =>
    rw [List.foldlM_cons] at hvalue
    obtain ⟨n, hn, hvalue⟩ := Option.bind_eq_some_iff.mp hvalue
    obtain ⟨v, hv, rfl⟩ := Option.map_eq_some_iff.mp hn
    cases digits with
    | nil =>
      -- the last digit completes the code point
      have hcode : 16 * value + v = c.toNat := by simpa using hvalue
      have hvalid : c.toNat.isValidChar := c.valid
      have hchar : readChar s (.digits 1 value) d = some (.none, some c) := by
        simp [readChar, hv, hcode, codePoint?, hvalid]
      exact readRest_cons (by simp [isSettled_digits]) hchar
    | cons d' digits =>
      have hchar : readChar s (.digits (d :: d' :: digits).length value) d =
          some (.digits (d' :: digits).length (16 * value + v), none) := by
        simp [readChar, hv]
      rw [List.cons_append, readRest_cons (by simp [isSettled_digits]) hchar,
        ih (List.cons_ne_nil _ _) hvalue]
      cases readRest s .none rest <;> rfl

/-- Every spelling of a text is read as the text. -/
theorem Spelled.readRest_eq (h : Spelled s w cs) (hrest : rest.head? ≠ some s.quote) :
    readRest s .none (w ++ (s.delimiter ++ rest)) = some (cs, rest) := by
  induction h with
  | nil => exact readRest_of_readEnd? (readEnd?_append (Nat.zero_le _) hrest)
  | plain hadmits hspares h ih =>
    rename_i c w cs
    have hend := readEnd?_append hspares hrest
    split at hend
    · rename_i hall
      rw [readRest_of_readEnd? hend, (Spelled.plain hadmits hspares h).eq_of_all hall]
    · rw [List.cons_append] at hend ⊢
      rw [readRest_plain hend hadmits, ih]
      rfl
  | letter hescapes hletter h ih =>
    rw [List.cons_append, List.cons_append, readRest_backslash hescapes,
      readRest_escape (readEscape_letter hletter), ih]
    rfl
  | codePoint hescapes hlength hvalue h ih =>
    rename_i digits c w cs
    have hne : digits ≠ [] := fun hnil => by
      rw [hnil] at hlength
      cases hlength
    have hescape : readEscape s 'u' = some (.digits digits.length 0, none) := by
      rw [hlength]
      rfl
    rw [List.cons_append, List.cons_append, List.append_assoc, readRest_backslash hescapes,
      readRest_escape hescape, readRest_digits digits hne hvalue, ih]
    rfl

/-! ## Writing -/

theorem isPlain_of_digitValue? {d : Char} {v : Nat} (h : digitValue? d = some v) :
    isPlain d = true := by
  have hlt : d.toNat < 128 := by
    rw [digitValue?] at h
    split at h
    · assumption
    · cases h
  have hplain := Text.forall_ascii (p := fun d => (digitValue? d).isSome = true → isPlain d = true)
    (by decide) hlt
  exact hplain (by rw [h]; rfl)

theorem isPlain_of_mem_digits {digits : List Char} {value n : Nat}
    (h : digits.foldlM (fun n d => (digitValue? d).map (16 * n + ·)) value = some n) :
    ∀ d ∈ digits, isPlain d = true := by
  induction digits generalizing value with
  | nil => exact fun _ hd => nomatch hd
  | cons d digits ih =>
    rw [List.foldlM_cons] at h
    obtain ⟨m, hm, h⟩ := Option.bind_eq_some_iff.mp h
    obtain ⟨v, hv, -⟩ := Option.map_eq_some_iff.mp hm
    exact List.forall_mem_cons.mpr ⟨isPlain_of_digitValue? hv, ih h⟩

theorem isPlain_of_escaped? {l : Char} (h : escaped? l = some c) : isPlain l = true := by
  unfold escaped? at h
  split at h
  case h_8 => cases h
  all_goals rfl

-- A line end in a spelling is one of the text, and all else can stand in a line.
theorem Spelled.isPlain_of_mem {x : Char} (h : Spelled s w cs) (hx : x ∈ w) :
    isPlain x = true ∨ x = '\n' ∧ x ∈ cs := by
  induction h with
  | nil => cases hx
  | plain hadmits _ _ ih =>
    rcases List.mem_cons.mp hx with rfl | hx
    · rw [Style.admits, Bool.and_eq_true, Bool.or_eq_true, Bool.and_eq_true,
        decide_eq_true_eq] at hadmits
      exact hadmits.1.imp_right fun hend => ⟨hend.2, List.mem_cons_self⟩
    · exact (ih hx).imp_right (And.imp_right (List.mem_cons_of_mem _))
  | letter _ hletter _ ih =>
    rcases List.mem_cons.mp hx with rfl | hx
    · exact .inl rfl
    rcases List.mem_cons.mp hx with rfl | hx
    · exact .inl (isPlain_of_escaped? hletter)
    · exact (ih hx).imp_right (And.imp_right (List.mem_cons_of_mem _))
  | codePoint _ _ hvalue _ ih =>
    rcases List.mem_cons.mp hx with rfl | hx
    · exact .inl rfl
    rcases List.mem_cons.mp hx with rfl | hx
    · exact .inl rfl
    rcases List.mem_append.mp hx with hx | hx
    · exact .inl (isPlain_of_mem_digits hvalue x hx)
    · exact (ih hx).imp_right (And.imp_right (List.mem_cons_of_mem _))

/-! ### With escapes -/

theorem hexNumber?_digits : ∀ n < 128,
    let digits := (Nat.toDigits 16 n).map Char.toUpper
    (List.replicate (4 - digits.length) '0' ++ digits).length = 4 ∧
      hexNumber? (List.replicate (4 - digits.length) '0' ++ digits) = some n := by
  decide

-- An escape is a letter after a backslash, or a code point.
theorem escape?_cases {multiline : Bool} {e : List Char} (h : escape? multiline c = some e) :
    (∃ l, e = ['\\', l] ∧ escaped? l = some c) ∨
      ∃ digits, e = '\\' :: 'u' :: digits ∧ digits.length = 4 ∧
        hexNumber? digits = some c.toNat := by
  unfold escape? at h
  split at h
  case h_6 =>
    split at h
    · cases h
    · cases h
      exact .inl ⟨_, rfl, rfl⟩
  case h_7 =>
    split at h
    · cases h
    · rename_i hcontrol
      -- only characters of ASCII cannot stand in a line
      have hlt : c.toNat < 128 := by
        simp only [isPlain, Bool.or_eq_true, Bool.and_eq_true, decide_eq_true_eq, not_or] at hcontrol
        omega
      exact .inr ⟨_, (Option.some.inj h).symm, hexNumber?_digits c.toNat hlt⟩
  all_goals
    cases h
    exact .inl ⟨_, rfl, rfl⟩

theorem spelled_escape {multiline : Bool} {e : List Char} (he : escape? multiline c = some e)
    (h : Spelled ⟨true, multiline⟩ w cs) : Spelled ⟨true, multiline⟩ (e ++ w) (c :: cs) := by
  rcases escape?_cases he with ⟨l, rfl, hletter⟩ | ⟨digits, rfl, hlength, hvalue⟩
  · exact .letter rfl hletter h
  · exact .codePoint rfl hlength hvalue h

theorem admits_of_escape? {multiline : Bool} (h : escape? multiline c = none) :
    (⟨true, multiline⟩ : Style).admits c = true := by
  unfold escape? at h
  split at h
  case h_6 =>
    split at h
    · rename_i hmultiline
      simp [Style.admits, hmultiline]
    · cases h
  case h_7 hbackslash _ _ _ _ _ =>
    split at h
    · rename_i hplain
      simpa [Style.admits, hplain] using hbackslash
    · cases h
  all_goals cases h

theorem escape?_head {multiline : Bool} {e : List Char} (h : escape? multiline c = some e) :
    ∃ more, e = '\\' :: more := by
  rcases escape?_cases h with ⟨l, rfl, -⟩ | ⟨digits, rfl, -⟩ <;> exact ⟨_, rfl⟩

theorem writeEscaped_cons (multiline : Bool) (quotes : Nat) (c : Char) (cs : List Char) :
    writeEscaped multiline quotes (c :: cs) =
      if c = '"' then
        if quotes < (⟨true, multiline⟩ : Style).spare then
          c :: writeEscaped multiline (quotes + 1) cs
        else
          '\\' :: c :: writeEscaped multiline 0 cs
      else
        (escape? multiline c).getD [c] ++ writeEscaped multiline 0 cs := rfl

-- Quotes that stand for themselves are never more than may stand together.
theorem run_writeEscaped (multiline : Bool) {quotes : Nat}
    (hquotes : quotes ≤ (⟨true, multiline⟩ : Style).spare) (cs : List Char) :
    ((writeEscaped multiline quotes cs).takeWhile (· = '"')).length + quotes ≤
      (⟨true, multiline⟩ : Style).spare := by
  induction cs generalizing quotes with
  | nil => simpa [writeEscaped] using hquotes
  | cons c cs ih =>
    rw [writeEscaped_cons]
    split
    · rename_i hc
      split
      · rename_i hlt
        have hnext : quotes + 1 ≤ (⟨true, multiline⟩ : Style).spare := hlt
        have hrun := ih hnext
        rw [List.takeWhile_cons_of_pos (by simpa using hc), List.length_cons]
        omega
      · simpa using hquotes
    · rename_i hc
      cases he : escape? multiline c with
      | none => simpa [hc] using hquotes
      | some e =>
        obtain ⟨more, rfl⟩ := escape?_head he
        simpa using hquotes

theorem spelled_writeEscaped (multiline : Bool) {quotes : Nat}
    (hquotes : quotes ≤ (⟨true, multiline⟩ : Style).spare) (cs : List Char) :
    Spelled ⟨true, multiline⟩ (writeEscaped multiline quotes cs) cs := by
  induction cs generalizing quotes with
  | nil => exact .nil
  | cons c cs ih =>
    have hrun := run_writeEscaped multiline hquotes (c :: cs)
    have hspares : (⟨true, multiline⟩ : Style).Spares (writeEscaped multiline quotes (c :: cs)) :=
      Nat.le_trans (Nat.le_add_right _ quotes) hrun
    rw [writeEscaped_cons] at hspares ⊢
    split
    · rename_i hc
      rw [if_pos hc] at hspares
      split
      · rename_i hlt
        rw [if_pos hlt] at hspares
        subst hc
        have hadmits : (⟨true, multiline⟩ : Style).admits '"' = true := by simp [Style.admits, isPlain]
        exact .plain hadmits hspares (ih hlt)
      · subst hc
        exact .letter rfl rfl (ih (Nat.zero_le _))
    · rename_i hc
      rw [if_neg hc] at hspares
      cases he : escape? multiline c with
      | none =>
        rw [he] at hspares
        exact .plain (admits_of_escape? he) hspares (ih (Nat.zero_le _))
      | some e => exact spelled_escape he (ih (Nat.zero_le _))

/-! ### Without escapes -/

theorem longestRun_mono (q : Char) {m n : Nat} (h : m ≤ n) (cs : List Char) :
    longestRun q m cs ≤ longestRun q n cs := by
  induction cs generalizing m n with
  | nil => exact h
  | cons c cs ih =>
    rw [longestRun, longestRun]
    split
    · exact ih (Nat.add_le_add_right h 1)
    · omega

theorem run_le_longestRun (q : Char) (n : Nat) (cs : List Char) :
    (cs.takeWhile (· = q)).length + n ≤ longestRun q n cs := by
  induction cs generalizing n with
  | nil => simp [longestRun]
  | cons c cs ih =>
    rw [longestRun]
    split
    · rename_i hc
      have hrun := ih (n + 1)
      rw [List.takeWhile_cons_of_pos (by simpa using hc), List.length_cons]
      omega
    · rename_i hc
      rw [List.takeWhile_cons_of_neg (by simpa using hc), List.length_nil, Nat.zero_add]
      exact Nat.le_max_left _ _

theorem longestRun_tail (q : Char) (n : Nat) (c : Char) (cs : List Char) :
    longestRun q 0 cs ≤ longestRun q n (c :: cs) := by
  rw [longestRun]
  split
  · exact longestRun_mono q (Nat.zero_le _) cs
  · exact Nat.le_max_right _ _

-- In a text that fits the first character stands for itself, and the rest fits.
theorem fits_cons (h : fits s (c :: cs) = true) :
    s.admits c = true ∧ s.Spares (c :: cs) ∧ fits s cs = true := by
  simp only [fits, Bool.and_eq_true, decide_eq_true_eq, Bool.or_eq_true, Bool.not_eq_true',
    List.any_cons, List.contains_cons, Bool.and_eq_false_iff, Bool.or_eq_false_iff] at h ⊢
  obtain ⟨⟨⟨hcontrol, hline⟩, hbackslash⟩, hrun⟩ := h
  have hstands : isPlain c = true ∨ s.multiline = true ∧ c = '\n' := by
    rw [isControl, Bool.and_eq_false_iff] at hcontrol
    rcases hcontrol.1 with hplain | hend
    · exact .inl (by simpa using hplain)
    · have hc : c = '\n' := by simpa using hend
      exact .inr ⟨hline.resolve_right fun hne => by simp [hc] at hne, hc⟩
  have hescape : s.escapes = false ∨ c ≠ '\\' :=
    hbackslash.imp_right fun hne hc => by simp [hc] at hne
  refine ⟨?_, Nat.le_trans (run_le_longestRun s.quote 0 (c :: cs)) hrun,
    ⟨⟨hcontrol.2, hline.imp_right And.right⟩, hbackslash.imp_right And.right⟩,
    Nat.le_trans (longestRun_tail _ _ _ _) hrun⟩
  rw [Style.admits, Bool.and_eq_true]
  exact ⟨by simpa using hstands, by simpa using hescape⟩

-- A text that fits a form is its own spelling.
theorem spelled_of_fits (h : fits s cs = true) : Spelled s cs cs := by
  induction cs with
  | nil => exact .nil
  | cons c cs ih =>
    obtain ⟨hadmits, hspares, hrest⟩ := fits_cons h
    exact .plain hadmits hspares (ih hrest)

/-! ## Every text is read back -/

/-- What stands between the delimiters of a text. -/
def body (s : Style) (cs : List Char) : List Char :=
  if s.escapes then writeEscaped s.multiline 0 cs else cs

theorem spelled_body (cs : List Char) : Spelled (chooseStyle cs) (body (chooseStyle cs) cs) cs := by
  rw [body]
  split
  · rename_i hescapes
    have hstyle : chooseStyle cs = ⟨true, (chooseStyle cs).multiline⟩ := by rw [← hescapes]
    rw [hstyle]
    exact spelled_writeEscaped _ (Nat.zero_le _) cs
  · rename_i hescapes
    -- a form without escapes is only chosen if it fits
    refine spelled_of_fits ?_
    rw [chooseStyle] at hescapes ⊢
    cases hfound : List.find? (fun s => fits s cs)
        [⟨true, false⟩, ⟨false, false⟩, ⟨true, true⟩, ⟨false, true⟩] with
    | none => simp [hfound] at hescapes
    | some s => simpa [hfound] using List.find?_some hfound

theorem style?_delimiter (h : s.multiline = false → [s.quote, s.quote].isPrefixOf rest = false) :
    style? (s.delimiter ++ rest) = some s := by
  obtain ⟨escapes, multiline⟩ := s
  cases multiline with
  | true => cases escapes <;> simp [style?, Style.delimiter, Style.quote, List.replicate_succ]
  | false =>
    have hnot := h rfl
    cases escapes <;>
      simp_all [style?, Style.delimiter, Style.quote, List.replicate_succ]

-- A single quote is not taken for the first of three.
theorem two_quotes_isPrefixOf (hspares : s.Spares w) (hrest : rest.head? ≠ some s.quote)
    (hsingle : s.multiline = false) :
    [s.quote, s.quote].isPrefixOf (w ++ (s.delimiter ++ rest)) = false := by
  rw [Style.Spares, Style.spare, hsingle] at hspares
  cases w with
  | nil =>
    cases rest with
    | nil => simp [Style.delimiter, hsingle]
    | cons c rest =>
      have hc : s.quote ≠ c := fun hc => hrest (by rw [hc]; rfl)
      simp [Style.delimiter, hsingle, hc, List.isPrefixOf]
  | cons c w =>
    have hc : s.quote ≠ c := fun hc => by simp [hc] at hspares
    simp [hc, List.isPrefixOf]

theorem readStyle_append {after : List Char} (hline : s.multiline = true → cs.head? ≠ some '\n')
    (hread : readRest s .none cs = some (w, after)) :
    readStyle s (s.delimiter ++ cs) = some (String.ofList w, after) := by
  rw [readStyle, List.drop_left]
  dsimp only
  split
  · rename_i hmultiline
    exact absurd rfl (hline hmultiline)
  · rw [hread]
    rfl

-- A line end that comes first is no part of the text.
theorem readStyle_lineEnd {after : List Char} (hmultiline : s.multiline = true)
    (hread : readRest s .none cs = some (w, after)) :
    readStyle s (s.delimiter ++ '\n' :: cs) = some (String.ofList w, after) := by
  rw [readStyle, List.drop_left]
  simp only [hmultiline, hread, Option.bind_eq_bind, Option.bind_some]
  rfl

theorem readText_writeStyle (h : Spelled s (body s cs) cs) (hrest : rest.head? ≠ some s.quote) :
    readText (writeStyle s cs ++ rest) = some (String.ofList cs, rest) := by
  have hread := h.readRest_eq hrest
  cases hmultiline : s.multiline with
  | false =>
    have hwritten : writeStyle s cs ++ rest =
        s.delimiter ++ (body s cs ++ (s.delimiter ++ rest)) := by
      simp [writeStyle, body, hmultiline]
    have hstyle := style?_delimiter (two_quotes_isPrefixOf h.spares hrest)
    rw [hwritten, readText, hstyle, Option.bind_eq_bind, Option.bind_some]
    exact readStyle_append (fun h => by simp [hmultiline] at h) hread
  | true =>
    have hstyle : ∀ more, style? (s.delimiter ++ more) = some s := fun more =>
      style?_delimiter fun hsingle => by simp [hmultiline] at hsingle
    by_cases hline : '\n' ∈ cs
    · have hwritten : writeStyle s cs ++ rest =
          s.delimiter ++ '\n' :: (body s cs ++ (s.delimiter ++ rest)) := by
        simp [writeStyle, body, hmultiline, hline]
      rw [hwritten, readText, hstyle, Option.bind_eq_bind, Option.bind_some]
      exact readStyle_lineEnd hmultiline hread
    · have hwritten : writeStyle s cs ++ rest =
          s.delimiter ++ (body s cs ++ (s.delimiter ++ rest)) := by
        simp [writeStyle, body, hmultiline, hline]
      rw [hwritten, readText, hstyle, Option.bind_eq_bind, Option.bind_some]
      refine readStyle_append (fun _ => ?_) hread
      -- the text has no line end, so neither has what is written for it
      cases hbody : body s cs with
      | nil => simpa [Style.delimiter, hmultiline, List.replicate_succ] using s.quote_ne_lineEnd
      | cons c more =>
        intro hc
        rw [hbody] at h
        have hmem : '\n' ∈ c :: more := by
          rw [← Option.some.inj hc]
          exact List.mem_cons_self
        rcases h.isPlain_of_mem hmem with hplain | ⟨-, hmem⟩
        · exact absurd hplain (by decide)
        · exact hline hmem

/-- What is written for a text is read as the text, whatever follows that cannot be part of it. -/
theorem readText_writeText (text : String) {rest : List Char}
    (hrest : ∀ s : Style, rest.head? ≠ some s.quote) :
    readText (writeText text ++ rest) = some (text, rest) := by
  rw [writeText, readText_writeStyle (spelled_body _) (hrest _), String.ofList_toList]

theorem isPlain_of_mem_delimiter {x : Char} (h : x ∈ s.delimiter) : isPlain x = true := by
  rw [List.eq_of_mem_replicate h, Style.quote]
  split <;> rfl

-- All that is written for a text can stand in a line, or is a line end.
theorem isPlain_of_mem_writeText {text : String} {x : Char} (h : x ∈ writeText text) :
    isPlain x = true ∨ x = '\n' := by
  obtain h | h := List.mem_append.mp (show x ∈ _ ++ body _ _ ++ _ from h)
  · obtain h | h := List.mem_append.mp h
    · obtain h | h := List.mem_append.mp h
      · exact .inl (isPlain_of_mem_delimiter h)
      · split at h
        · exact .inr (List.mem_singleton.mp h)
        · cases h
    · exact ((spelled_body _).isPlain_of_mem h).imp_right And.left
  · exact .inl (isPlain_of_mem_delimiter h)

end Vouch.Toml
