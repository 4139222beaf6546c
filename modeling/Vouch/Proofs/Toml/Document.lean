import Vouch.Config
import Vouch.Proofs.Text.Digits
import Vouch.Proofs.Text.Split
import Vouch.Proofs.Toml.Text

/-!
# Documents of settings are read back

A document that sets keys line by line, each key once, is read as the list of the keys with their
values.  A value is written so that it is read again up to the end of its line.
-/

namespace Vouch.Toml

variable {key : String} {text rest cs : List Char} {value : Toml}

/-! ## Line ends and blanks -/

theorem unifyLineEnds_eq_self (h : '\r' ∉ cs) : unifyLineEnds cs = cs := by
  induction cs with
  | nil => rfl
  | cons c cs ih =>
    rw [List.mem_cons, not_or] at h
    obtain ⟨hc, hcs⟩ := h
    rw [unifyLineEnds, ih hcs]
    exact fun _ hreturn => absurd hreturn.symm hc

theorem isBlank_eq_false {c : Char} (hspace : c ≠ ' ') (htab : c ≠ '\t') : isBlank c = false := by
  rw [isBlank, Bool.or_eq_false_iff]
  exact ⟨decide_eq_false hspace, decide_eq_false htab⟩

/-! ## Values -/

/-- A value's text in a line. -/
structure IsWritten (text : List Char) (value : Toml) : Prop where
  read : ∀ rest, readValue maxDepth (text ++ '\n' :: rest) = some (value, '\n' :: rest)
  -- No blank stands in front.
  visible : ∀ c ∈ text.head?, isBlank c = false
  -- A carriage return could be taken for a part of a line end.
  noReturn : '\r' ∉ text

theorem writeText_eq_cons (s : String) :
    ∃ (style : Style) (more : List Char), writeText s = style.quote :: more := by
  refine ⟨chooseStyle s.toList, ?_⟩
  rw [writeText, writeStyle, Style.delimiter]
  split <;> exact ⟨_, rfl⟩

theorem readValue_quote (depth : Nat) (style : Style) (cs : List Char) :
    readValue depth (style.quote :: cs) =
      (readText (style.quote :: cs)).map fun read => (.text read.1, read.2) := by
  rw [Style.quote]
  split <;> cases depth <;> simp [readValue]

theorem isWritten_writeText (s : String) : IsWritten (writeText s) (.text s) where
  read rest := by
    have hread : readText (writeText s ++ '\n' :: rest) = some (s, '\n' :: rest) :=
      readText_writeText s fun style h => style.quote_ne_lineEnd (Option.some.inj h).symm
    obtain ⟨style, more, hwritten⟩ := writeText_eq_cons s
    rw [hwritten] at hread ⊢
    rw [List.cons_append] at hread ⊢
    rw [readValue_quote, hread]
    rfl
  visible := by
    obtain ⟨style, more, hwritten⟩ := writeText_eq_cons s
    rw [hwritten, Style.quote]
    rintro c ⟨⟩
    split <;> rfl
  noReturn h := by
    rcases isPlain_of_mem_writeText h with hplain | hend
    · exact absurd hplain (by decide)
    · exact absurd hend (by decide)

/-! ### Numbers -/

theorem isDigit_toDigits (n : Nat) : ∀ c ∈ Nat.toDigits 10 n, c.isDigit = true :=
  fun _ hc => Nat.isDigit_of_mem_toDigits (by decide) (by decide) hc

theorem readValue_digit {c : Char} (h : c.isDigit = true) (depth : Nat) (cs : List Char) :
    readValue depth (c :: cs) = readWord (c :: cs) := by
  have hne : c ≠ '[' ∧ c ≠ '\x7b' ∧ c ≠ '"' ∧ c ≠ '\'' := by
    refine ⟨?_, ?_, ?_, ?_⟩ <;> rintro rfl <;> cases h
  cases depth <;> simp [readValue, hne]

theorem groupedDigits?_digits (h : ∀ c ∈ cs, c.isDigit = true) (hne : cs ≠ []) :
    groupedDigits? Char.isDigit cs = some cs := by
  have hbar : '_' ∉ cs := fun hmem => nomatch h _ hmem
  rw [groupedDigits?, Text.fields_eq_singleton hbar, if_pos]
  · exact congrArg some (List.append_nil cs)
  · simpa [hne] using h

theorem wholeDigits?_toDigits (n : Nat) :
    wholeDigits? (Nat.toDigits 10 n) = some (Nat.toDigits 10 n) := by
  have hdigits := isDigit_toDigits n
  rw [wholeDigits?, groupedDigits?_digits hdigits Nat.toDigits_ne_nil, Option.bind_eq_bind,
    Option.bind_some, if_neg]
  rintro ⟨hhead, hlength⟩
  by_cases hn : n = 0
  · rw [hn] at hlength
    exact hlength rfl
  · exact head?_toDigits (by decide) hn hhead

theorem splitSign_digits (h : ∀ c ∈ cs, c.isDigit = true) : splitSign cs = (false, cs) := by
  unfold splitSign
  split
  · cases h _ List.mem_cons_self
  · cases h _ List.mem_cons_self
  · rfl

theorem readInteger?_toDigits {n : Nat} (h : n < signedLimit) :
    readInteger? (Nat.toDigits 10 n) = some (n : Int) := by
  have hdigits := isDigit_toDigits n
  have hwhole := wholeDigits?_toDigits n
  have hvalue : valueOfDigits 10 (Nat.toDigits 10 n) = n :=
    foldl_of_foldlM (foldlM_toDigits Json.hexValue? (by decide)
      (fun d hd => hexValue?_digitChar d (Nat.lt_trans hd (by decide))) n)
  unfold readInteger?
  split
  -- no letter that marks another base follows
  iterate 3
    rename_i heq
    rw [heq] at hdigits
    cases hdigits _ (List.mem_cons_of_mem _ List.mem_cons_self)
  rw [splitSign_digits hdigits]
  dsimp only
  rw [hwhole, Option.bind_eq_bind, Option.bind_some, if_neg Bool.false_ne_true, hvalue, word64?,
    if_pos]
  omega

theorem isDate_digits (h : ∀ c ∈ cs, c.isDigit = true) : isDate cs = false := by
  have hdash : '-' ∉ cs := fun hmem => nomatch h _ hmem
  rw [isDate, Text.fields_eq_singleton hdash]

theorem readWord_digits (h : ∀ c ∈ cs, c.isDigit = true) (hvalue : ofWord? cs = some value)
    (rest : List Char) : readWord (cs ++ '\n' :: rest) = some (value, '\n' :: rest) := by
  have hmarks : [' ', '\t', '\n', '#', ',', ']', '\x7d'].all (!·.isDigit) = true := by decide
  have hword : ∀ c ∈ cs, (!endsWord c) = true := by
    intro c hc
    rw [Bool.not_eq_true', endsWord, ← Bool.not_eq_true, List.contains_iff_mem]
    intro hmark
    exact absurd (List.all_eq_true.mp hmarks c hmark) (by rw [h c hc]; decide)
  have htake : (cs ++ '\n' :: rest).takeWhile (fun c => !endsWord c) = cs := by
    rw [List.takeWhile_append_of_pos hword, List.takeWhile_cons_of_neg (by decide), List.append_nil]
  have hdrop : (cs ++ '\n' :: rest).dropWhile (fun c => !endsWord c) = '\n' :: rest := by
    rw [List.dropWhile_append_of_pos hword, List.dropWhile_cons_of_neg (by decide)]
  rw [readWord]
  simp only [htake, hdrop, isDate_digits h, hvalue, Bool.false_and, Bool.false_eq_true, if_false,
    Option.bind_eq_bind, Option.bind_some]
  rfl

theorem ofWord?_toDigits {n : Nat} (h : n < signedLimit) :
    ofWord? (Nat.toDigits 10 n) = some (.integer n) := by
  have hdigits := isDigit_toDigits n
  have htrue : Nat.toDigits 10 n ≠ "true".toList := fun heq => by
    rw [heq] at hdigits
    exact absurd (hdigits 't' (by decide)) (by decide)
  have hfalse : Nat.toDigits 10 n ≠ "false".toList := fun heq => by
    rw [heq] at hdigits
    exact absurd (hdigits 'f' (by decide)) (by decide)
  rw [ofWord?, if_neg htrue, if_neg hfalse, readInteger?_toDigits h]

theorem isWritten_toDigits {n : Nat} (h : n < signedLimit) :
    IsWritten (Nat.toDigits 10 n) (.integer n) := by
  have hdigits := isDigit_toDigits n
  have hread := readWord_digits hdigits (ofWord?_toDigits h)
  obtain ⟨c, more, hcons⟩ := List.exists_cons_of_ne_nil (Nat.toDigits_ne_nil (b := 10) (n := n))
  rw [hcons] at hdigits hread ⊢
  have hc := hdigits c List.mem_cons_self
  constructor
  · intro rest
    rw [List.cons_append, readValue_digit hc]
    exact hread rest
  · rintro _ ⟨⟩
    apply isBlank_eq_false <;> rintro rfl <;> cases hc
  · intro hreturn
    exact absurd (hdigits _ hreturn) (by decide)

/-! ## Keys -/

/-- Whether a key may stand without quotes. -/
structure IsBareKey (key : String) : Prop where
  nonempty : key.toList ≠ []
  bare : ∀ c ∈ key.toList, isBare c = true

instance (key : String) : Decidable (IsBareKey key) :=
  decidable_of_iff (key.toList ≠ [] ∧ key.toList.all isBare = true)
    ⟨fun h => ⟨h.1, List.all_eq_true.mp h.2⟩, fun h => ⟨h.nonempty, List.all_eq_true.mpr h.bare⟩⟩

theorem IsBareKey.exists_cons (h : IsBareKey key) :
    ∃ (c : Char) (more : List Char), key.toList = c :: more ∧ isBare c = true := by
  obtain ⟨c, more, hcons⟩ := List.exists_cons_of_ne_nil h.nonempty
  exact ⟨c, more, hcons, h.bare c (hcons ▸ List.mem_cons_self)⟩

theorem readKeyPart_bare (h : IsBareKey key) (rest : List Char) :
    readKeyPart (key.toList ++ ' ' :: rest) = some (key, ' ' :: rest) := by
  have htake : (key.toList ++ ' ' :: rest).takeWhile isBare = key.toList := by
    rw [List.takeWhile_append_of_pos h.bare, List.takeWhile_cons_of_neg (by decide),
      List.append_nil]
  have hdrop : (key.toList ++ ' ' :: rest).dropWhile isBare = ' ' :: rest := by
    rw [List.dropWhile_append_of_pos h.bare, List.dropWhile_cons_of_neg (by decide)]
  have hempty : key.toList.isEmpty = false := List.isEmpty_eq_false_iff.mpr h.nonempty
  obtain ⟨c, more, hcons, hc⟩ := h.exists_cons
  unfold readKeyPart
  split
  · -- a quote does not begin a key without quotes
    rename_i heq
    rw [hcons] at heq
    cases heq
    cases hc
  · rename_i heq
    rw [hcons] at heq
    cases heq
    cases hc
  · rw [htake, hdrop]
    simp [hempty]

-- A key without quotes begins with a character that is nothing else in a document.
theorem IsBareKey.head (h : IsBareKey key) :
    ∃ (c : Char) (more : List Char), key.toList = c :: more ∧ isBlank c = false ∧
      c ≠ '\n' ∧ c ≠ '#' ∧ c ≠ '[' := by
  obtain ⟨c, more, hcons, hc⟩ := h.exists_cons
  refine ⟨c, more, hcons, ?_, ?_, ?_, ?_⟩
  · apply isBlank_eq_false <;> rintro rfl <;> cases hc
  all_goals
    rintro rfl
    cases hc

theorem skipBlanks_key (h : IsBareKey key) (rest : List Char) :
    skipBlanks (key.toList ++ rest) = key.toList ++ rest := by
  obtain ⟨c, more, hcons, hblank, -⟩ := h.head
  refine Text.dropWhile_eq_self ?_
  rw [hcons]
  rintro _ ⟨⟩
  exact hblank

theorem readKey_bare (h : IsBareKey key) (parts : Nat) (rest : List Char) :
    readKey (parts + 1) (key.toList ++ ' ' :: '=' :: rest) = some ([key], '=' :: rest) := by
  rw [readKey, skipBlanks_key h, readKeyPart_bare h]
  rfl

/-! ## Lines -/

theorem line_append (key : String) (text rest : List Char) :
    line key text ++ rest = key.toList ++ ' ' :: '=' :: ' ' :: (text ++ '\n' :: rest) := by
  simp [line]

theorem skipBlanks_value (h : IsWritten text value) (rest : List Char) :
    skipBlanks (' ' :: (text ++ '\n' :: rest)) = text ++ '\n' :: rest := by
  have hvisible : ∀ c ∈ (text ++ '\n' :: rest).head?, isBlank c = false := by
    have hhead := h.visible
    cases text with
    | nil =>
      rintro _ ⟨⟩
      rfl
    | cons c more => exact hhead
  rw [skipBlanks, List.dropWhile_cons_of_pos (by rfl), Text.dropWhile_eq_self hvisible]

theorem readPair_line (hkey : IsBareKey key) (hvalue : IsWritten text value) (rest : List Char) :
    readPair (readValue maxDepth) (line key text ++ rest) =
      some ([key], value, '\n' :: rest) := by
  have hread : readKey maxDepth (key.toList ++ ' ' :: '=' :: ' ' :: (text ++ '\n' :: rest)) =
      some ([key], '=' :: ' ' :: (text ++ '\n' :: rest)) := readKey_bare hkey _ _
  rw [line_append, readPair, hread]
  simp only [Option.bind_eq_bind, Option.bind_some, skipBlanks_value hvalue, hvalue.read rest]
  rfl

theorem endLine_lineEnd (rest : List Char) : endLine ('\n' :: rest) = some rest := by
  have hskip : skipBlanks ('\n' :: rest) = '\n' :: rest := List.dropWhile_cons_of_neg (by decide)
  simp [endLine, hskip]

theorem readLine_line (hkey : IsBareKey key) (hvalue : IsWritten text value) (d : Document)
    (rest : List Char) :
    d.readLine (line key text ++ rest) = (d.set [key] value).map fun d => (d, rest) := by
  have hpair := readPair_line hkey hvalue rest
  rw [line_append] at hpair ⊢
  obtain ⟨c, more, hcons, -, hend, hcomment, hheader⟩ := hkey.head
  have hskip := skipBlanks_key hkey (' ' :: '=' :: ' ' :: (text ++ '\n' :: rest))
  rw [hcons, List.cons_append] at hpair hskip ⊢
  rw [Document.readLine, hskip]
  split
  · rename_i heq
    cases heq
  · rename_i heq
    cases heq
    exact absurd rfl hend
  · rename_i heq
    cases heq
    exact absurd rfl hcomment
  · rename_i heq
    cases heq
    exact absurd rfl hheader
  · rw [hpair, Option.bind_eq_bind, Option.bind_some]
    dsimp only
    rw [endLine_lineEnd]
    cases d.set [key] value <;> rfl

/-! ## Documents -/

/-- A key without quotes that is set to a value, with the value's text. -/
structure Setting where
  key : String
  text : List Char
  value : Toml
  bare : IsBareKey key
  written : IsWritten text value

namespace Setting

def line (s : Setting) : List Char :=
  Toml.line s.key s.text

def entry (s : Setting) : String × Toml :=
  (s.key, s.value)

end Setting

theorem lookup_eq_none {entries : Entries} (h : key ∉ entries.map (·.1)) :
    entries.lookup key = none := by
  rw [List.lookup_eq_none_iff]
  intro entry hentry
  rw [bne_iff_ne]
  rintro rfl
  exact h (List.mem_map.mpr ⟨entry, hentry, rfl⟩)

-- A new key is put at the end.
theorem insert_of_not_mem (value : Toml) {entries : Entries} (h : key ∉ entries.map (·.1)) :
    entries.insert key value = entries ++ [(key, value)] := by
  induction entries with
  | nil => rfl
  | cons entry entries ih =>
    obtain ⟨key', value'⟩ := entry
    rw [List.map_cons, List.mem_cons, not_or] at h
    rw [Entries.insert, if_neg fun heq => h.1 heq.symm, ih h.2, List.cons_append]

theorem set_of_not_mem (value : Toml) {entries : Entries} (h : key ∉ entries.map (·.1)) :
    Document.set [key] value ⟨entries, []⟩ = some ⟨entries ++ [(key, value)], []⟩ := by
  have hassign : assign [key] value entries = some (entries ++ [(key, value)]) := by
    rw [← insert_of_not_mem value h]
    show (if (entries.lookup key).isSome then none else some (entries.insert key value)) = _
    rw [lookup_eq_none h]
    rfl
  rw [Document.set]
  dsimp only
  rw [Entries.change, hassign]
  rfl

theorem readLines_of_readLine {d next : Document} (hne : cs ≠ [])
    (h : d.readLine cs = some (next, rest)) (fuel : Nat) :
    d.readLines (fuel + 1) cs = next.readLines fuel rest := by
  cases cs with
  | nil => exact absurd rfl hne
  | cons c cs =>
    rw [Document.readLines, h]
    rfl

theorem Setting.line_ne_nil (s : Setting) : s.line ≠ [] := by
  rw [Setting.line, Toml.line]
  simp [s.bare.nonempty]

theorem readLines_settings (settings : List Setting) {entries : Entries} {fuel : Nat}
    (hkeys : (entries.map (·.1) ++ settings.map (·.key)).Nodup)
    (hfuel : (settings.flatMap Setting.line).length ≤ fuel) :
    Document.readLines ⟨entries, []⟩ fuel (settings.flatMap Setting.line) =
      some ⟨entries ++ settings.map Setting.entry, []⟩ := by
  induction settings generalizing entries fuel with
  | nil =>
    rw [List.map_nil, List.append_nil]
    cases fuel <;> rfl
  | cons s settings ih =>
    have hnew : s.key ∉ entries.map (·.1) := by
      intro hmem
      exact (List.nodup_append.mp hkeys).2.2 _ hmem _ List.mem_cons_self rfl
    have hkeys' : ((entries ++ [s.entry]).map (·.1) ++ settings.map (·.key)).Nodup := by
      rw [List.map_append, List.append_assoc]
      exact hkeys
    have hread : Document.readLine ⟨entries, []⟩ (s.line ++ settings.flatMap Setting.line) =
        some (⟨entries ++ [s.entry], []⟩, settings.flatMap Setting.line) := by
      rw [Setting.line, readLine_line s.bare s.written, set_of_not_mem s.value hnew]
      rfl
    -- the line takes at least one unit of the fuel
    have hline := List.length_pos_iff.mpr s.line_ne_nil
    rw [List.flatMap_cons, List.length_append] at hfuel
    obtain ⟨fuel, rfl⟩ := Nat.exists_eq_add_one_of_ne_zero (show fuel ≠ 0 by omega)
    rw [List.flatMap_cons, readLines_of_readLine (List.append_ne_nil_of_left_ne_nil s.line_ne_nil _)
      hread, ih hkeys' (by omega), List.append_assoc, List.map_cons, List.singleton_append]

/-- A document of settings is read as their entries, if no key is set twice. -/
theorem parse?_settings {settings : List Setting} (hkeys : (settings.map (·.key)).Nodup) :
    parse? (String.ofList (settings.flatMap Setting.line)) =
      some (settings.map Setting.entry) := by
  have hreturn : '\r' ∉ settings.flatMap Setting.line := by
    rw [List.mem_flatMap]
    rintro ⟨s, -, hmem⟩
    have hkey : '\r' ∉ s.key.toList := fun h => nomatch s.bare.bare _ h
    rw [Setting.line, Toml.line] at hmem
    simp [hkey, s.written.noReturn] at hmem
  have hread {fuel : Nat} (hfuel : (settings.flatMap Setting.line).length ≤ fuel) :
      Document.readLines ⟨[], []⟩ fuel (settings.flatMap Setting.line) =
        some ⟨settings.map Setting.entry, []⟩ :=
    readLines_settings settings hkeys hfuel
  have hmark : ∀ more, settings.flatMap Setting.line ≠ '\uFEFF' :: more := by
    intro more heq
    cases settings with
    | nil => cases heq
    | cons s settings =>
      obtain ⟨c, rest, hcons, hc⟩ := s.bare.exists_cons
      rw [List.flatMap_cons, Setting.line, line_append, hcons] at heq
      cases heq
      exact absurd hc (by decide)
  rw [parse?, String.toList_ofList, unifyLineEnds_eq_self hreturn]
  split
  · rename_i heq
    exact absurd heq (hmark _)
  · rw [Document.empty, hread (Nat.le_refl _)]
    rfl

end Vouch.Toml
