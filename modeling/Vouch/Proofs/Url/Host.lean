import Vouch.Proofs.Text.Digits
import Vouch.Proofs.Url.Cut
import Vouch.Url.Host

/-!
# Hosts in their usual form

A host that has been read is a name that nothing else could be taken for, or an address between
brackets.  It is never empty, unless the scheme has no special rules and the host was empty before.
-/

namespace Vouch.Url

/-! ## Characters of hosts -/

/-- Whether a character may stand in a part of an authority. -/
def isInner (c : Char) : Bool :=
  isPlain c && c ≠ '/' && c ≠ '\\' && c ≠ '@'

theorem isInner_iff {c : Char} :
    isInner c = true ↔ isPlain c = true ∧ c ≠ '/' ∧ c ≠ '\\' ∧ c ≠ '@' := by
  simp only [isInner, Bool.and_eq_true, decide_eq_true_eq, and_assoc]

-- Letters and digits are characters of authorities.
theorem isInner_of_isAlphanum {c : Char} (h : c.isAlphanum = true) : isInner c = true := by
  have hcode := Text.toNat_of_isAlphanum h
  rw [isInner_iff, isPlain_iff]
  refine ⟨⟨by omega, ?_, ?_⟩, ?_, ?_, ?_⟩ <;> rintro rfl <;> revert h <;> decide

theorem isInner_of_isDigit {c : Char} (h : c.isDigit = true) : isInner c = true :=
  isInner_of_isAlphanum (by rw [Char.isAlphanum, h, Bool.or_true])

theorem isPlain_of_isAlpha {c : Char} (h : c.isAlpha = true) : isPlain c = true :=
  (isInner_iff.mp (isInner_of_isAlphanum (by rw [Char.isAlphanum, h, Bool.true_or]))).1

/-- The shapes of a host in its usual form: a name without colons or an address between
brackets. -/
inductive HostShape : List Char → Prop where
  | name {host : List Char} (h : ∀ c ∈ host, c ≠ ':' ∧ c ≠ '[') : HostShape host
  | brackets {address : List Char} (h : ']' ∉ address) : HostShape ('[' :: address ++ [']'])

/-- A host in its usual form. -/
structure IsHost (host : List Char) : Prop where
  chars : ∀ c ∈ host, isInner c = true
  shape : HostShape host

-- What no domain may hold does not stand in a host either.
theorem IsHost.of_allowed {host : List Char} (h : ∀ c ∈ host, isForbiddenInDomain c = false) :
    IsHost host := by
  have hallowed : ∀ c ∈ host, isInner c = true ∧ c ≠ ':' ∧ c ≠ '[' := by
    intro c hc
    have hc := h c hc
    simp only [isForbiddenInDomain, Bool.or_eq_false_iff, List.contains_cons, List.contains_nil,
      beq_eq_false_iff_ne, decide_eq_false_iff_not] at hc
    obtain ⟨⟨hlow, -⟩, hhash, -, hslash, hcolon, -, -, hquery, hat, hopen, hback, -⟩ := hc
    exact ⟨isInner_iff.mpr ⟨isPlain_iff.mpr ⟨Nat.not_le.mp hlow, hquery, hhash⟩, hslash, hback,
      hat⟩, hcolon, hopen⟩
  exact ⟨fun c hc => (hallowed c hc).1, .name fun c hc => (hallowed c hc).2⟩

/-! ## IPv4 addresses -/

-- The characters of an IPv4 address in its usual form.
theorem Ipv4.mem_render {address : Nat} {c : Char} (h : c ∈ Ipv4.render address) :
    c.isDigit = true ∨ c = '.' := by
  have hdigits : ∀ n, c ∈ Nat.toDigits 10 n → c.isDigit = true :=
    fun _ hc => Nat.isDigit_of_mem_toDigits (by decide) (by decide) hc
  simp only [Ipv4.render, List.mem_append, List.mem_cons] at h
  rcases h with ((h | h | h) | h | h) | h | h
  all_goals first
    | exact .inr h
    | exact .inl (hdigits _ h)

theorem Ipv4.normalize_ok {cs host : List Char} (h : Ipv4.normalize cs = .ok host) :
    ∃ address, host = Ipv4.render address := by
  rw [Ipv4.normalize] at h
  split at h
  · rename_i address _
    cases h
    exact ⟨address, rfl⟩
  · cases h

theorem isForbiddenInDomain_of_digit {c : Char} (h : c.isDigit = true ∨ c = '.') :
    isForbiddenInDomain c = false := by
  have hascii : c.toNat < 128 := by
    rcases h with h | rfl
    · have hcode := Text.toNat_of_isAlphanum (c := c) (by rw [Char.isAlphanum, h, Bool.or_true])
      omega
    · decide
  exact Text.forall_ascii (p := fun c => c.isDigit = true ∨ c = '.' → isForbiddenInDomain c = false)
    (by decide) hascii h

/-! ## IPv6 addresses -/

theorem Ipv6.mem_joinPieces {pieces : List Nat} {c : Char} (h : c ∈ Ipv6.joinPieces pieces) :
    c.isAlphanum = true ∨ c = ':' := by
  have hdigits : ∀ n, c ∈ Nat.toDigits 16 n → c.isAlphanum = true :=
    fun _ hc => isAlphanum_of_mem_toDigits (by decide) (by decide) hc
  rw [Ipv6.joinPieces] at h
  induction pieces with
  | nil => cases h
  | cons n pieces ih =>
    cases pieces with
    | nil => exact .inl (hdigits n (by simpa using h))
    | cons m pieces =>
      rw [List.map_cons, List.map_cons, List.intercalate_cons_cons, List.append_assoc] at h
      rcases List.mem_append.mp h with h | h
      · exact .inl (hdigits n h)
      · rcases List.mem_append.mp h with h | h
        · exact .inr (List.mem_singleton.mp h)
        · exact ih h

-- The characters of an IPv6 address in its usual form.
theorem Ipv6.mem_render {pieces : List Nat} {c : Char} (h : c ∈ Ipv6.render pieces) :
    c.isAlphanum = true ∨ c = ':' := by
  unfold Ipv6.render at h
  dsimp only at h
  split at h
  · exact Ipv6.mem_joinPieces h
  · simp only [List.mem_append, List.mem_cons, List.not_mem_nil, or_false] at h
    rcases h with (h | h | h) | h
    · exact Ipv6.mem_joinPieces h
    · exact .inr h
    · exact .inr h
    · exact Ipv6.mem_joinPieces h

theorem bracketed?_ok {cs host : List Char} (h : bracketed? cs = some (.ok host)) :
    ∃ pieces, host = '[' :: Ipv6.render pieces ++ [']'] := by
  have hnormalize : ∀ ds, Ipv6.normalize ds = .ok host →
      ∃ pieces, host = '[' :: Ipv6.render pieces ++ [']'] := by
    intro ds hds
    rw [Ipv6.normalize] at hds
    split at hds
    · rename_i pieces _
      cases hds
      exact ⟨pieces, rfl⟩
    · cases hds
  unfold bracketed? at h
  split at h
  · split at h
    · exact hnormalize _ (Option.some.inj h)
    · cases h
  · cases h

theorem IsHost.brackets (pieces : List Nat) : IsHost ('[' :: Ipv6.render pieces ++ [']']) := by
  have hchars : ∀ c ∈ Ipv6.render pieces, isInner c = true ∧ c ≠ ']' := by
    intro c hc
    rcases Ipv6.mem_render hc with h | rfl
    · refine ⟨isInner_of_isAlphanum h, ?_⟩
      rintro rfl
      revert h
      decide
    · decide
  refine ⟨fun c hc => ?_, .brackets fun hc => (hchars _ hc).2 rfl⟩
  rcases List.mem_append.mp hc with hc | hc
  · rcases List.mem_cons.mp hc with rfl | hc
    · rfl
    · exact (hchars c hc).1
  · rw [List.mem_singleton.mp hc]
    rfl

/-! ## Hosts of special schemes -/

/-- What a host of a special scheme is in its usual form. -/
inductive SpecialHost : List Char → Prop where
  | domain {host : List Char} (hne : host ≠ [])
      (h : ∀ c ∈ host, isForbiddenInDomain c = false) : SpecialHost host
  | address (pieces : List Nat) : SpecialHost ('[' :: Ipv6.render pieces ++ [']'])

theorem normalizeHost_ok {cs host : List Char} (h : normalizeHost cs = .ok host) :
    SpecialHost host := by
  unfold normalizeHost at h
  split at h
  · rename_i hbrackets
    obtain ⟨pieces, rfl⟩ := bracketed?_ok (hbrackets.trans (congrArg some h))
    exact .address pieces
  split at h
  · cases h
  split at h
  · cases h
  split at h
  · cases h
  rename_i domain _ hallowed
  split at h
  · cases h
  rename_i hempty
  split at h
  · obtain ⟨address, rfl⟩ := Ipv4.normalize_ok h
    refine .domain ?_ fun c hc => isForbiddenInDomain_of_digit (Ipv4.mem_render hc)
    exact List.append_ne_nil_of_right_ne_nil _ (List.cons_ne_nil _ _)
  · cases h
    refine .domain (fun hnil => hempty (List.isEmpty_iff.mpr hnil)) fun c hc => ?_
    exact Bool.eq_false_iff.mpr fun hc' => hallowed (List.any_eq_true.mpr ⟨c, hc, hc'⟩)

namespace SpecialHost

variable {host : List Char}

theorem isHost (h : SpecialHost host) : IsHost host := by
  cases h with
  | domain _ hallowed => exact .of_allowed hallowed
  | address pieces => exact .brackets pieces

theorem ne_nil (h : SpecialHost host) : host ≠ [] := by
  cases h with
  | domain hne _ => exact hne
  | address pieces => exact List.cons_ne_nil _ _

-- The signs after a drive letter are not allowed in a host.
theorem not_drive (h : SpecialHost host) : isDriveLetter host = false := by
  cases h with
  | domain _ hallowed =>
    match host, hallowed with
    | [], _ | [_], _ | _ :: _ :: _ :: _, _ => rfl
    | [letter, c], hallowed =>
      have hc := hallowed c (List.mem_cons_of_mem _ List.mem_cons_self)
      have hsign : (c = ':' || c = '|') = false := by
        simp only [Bool.or_eq_false_iff, decide_eq_false_iff_not]
        constructor <;> rintro rfl <;> cases hc
      rw [isDriveLetter, hsign, Bool.and_false]
  | address pieces =>
    have hopen : ∀ cs, isDriveLetter ('[' :: cs) = false := by
      intro cs
      match cs with
      | [] | [_] | _ :: _ :: _ => rfl
    exact hopen _

end SpecialHost

/-! ## Hosts of other schemes -/

theorem inner_of_plainHost {c : Char} (hcontrol : EncodeSet.control c = false)
    (hfree : isForbiddenInHost c = false) : isInner c = true ∧ c ≠ ':' ∧ c ≠ '[' := by
  simp only [EncodeSet.control, Bool.or_eq_false_iff, decide_eq_false_iff_not] at hcontrol
  simp only [isForbiddenInHost, Bool.or_eq_false_iff, List.contains_cons, List.contains_nil,
    beq_eq_false_iff_ne] at hfree
  obtain ⟨-, -, -, -, hblank, hhash, hslash, hcolon, -, -, hquery, hat, hopen, hback, -⟩ := hfree
  have hne : c.toNat ≠ 0x20 := fun heq => hblank (Char.toNat_inj.mp heq)
  refine ⟨isInner_iff.mpr ⟨isPlain_iff.mpr ⟨?_, hquery, hhash⟩, hslash, hback, hat⟩, hcolon,
    hopen⟩
  omega

theorem normalizePlainHost_ok {cs host : List Char} (h : normalizePlainHost cs = .ok host) :
    IsHost host := by
  unfold normalizePlainHost at h
  split at h
  · rename_i hbrackets
    obtain ⟨pieces, rfl⟩ := bracketed?_ok (hbrackets.trans (congrArg some h))
    exact .brackets pieces
  split at h
  · cases h
  · rename_i hallowed
    cases h
    have hchars : ∀ c ∈ percentEncode .control cs, isInner c = true ∧ c ≠ ':' ∧ c ≠ '[' := by
      intro c hc
      rcases mem_percentEncode hc with ⟨hmem, hcontrol⟩ | rfl | halnum
      · have hfree : isForbiddenInHost c = false :=
          Bool.eq_false_iff.mpr fun hc => hallowed (List.any_eq_true.mpr ⟨c, hmem, hc⟩)
        exact inner_of_plainHost hcontrol hfree
      · decide
      · refine ⟨isInner_of_isAlphanum halnum, ?_, ?_⟩ <;> rintro rfl <;> revert halnum <;> decide
    exact ⟨fun c hc => (hchars c hc).1, .name fun c hc => (hchars c hc).2⟩

theorem percentEncode_ne_nil {set : EncodeSet} {cs : List Char} (h : cs ≠ []) :
    percentEncode set cs ≠ [] := by
  cases cs with
  | nil => exact absurd rfl h
  | cons c cs =>
    rw [percentEncode, List.flatMap_cons]
    refine List.append_ne_nil_of_left_ne_nil ?_ _
    split
    · exact fun hnil => String.utf8EncodeChar_ne_nil (List.eq_nil_iff_forall_not_mem.mpr
        fun b hb => List.cons_ne_nil _ _ (List.flatMap_eq_nil_iff.mp hnil b hb))
    · exact List.cons_ne_nil _ _

/-- The usual form of a host, as the rules of the scheme have it. -/
def readHost (special : Bool) (host : List Char) : Except ParseError (List Char) :=
  if special then normalizeHost host else normalizePlainHost host

theorem readHost_ok {special : Bool} {cs host : List Char} (h : readHost special cs = .ok host) :
    IsHost host := by
  rw [readHost] at h
  split at h
  · exact (normalizeHost_ok h).isHost
  · exact normalizePlainHost_ok h

theorem readHost_ne_nil {special : Bool} {cs host : List Char} (hcs : cs ≠ [])
    (h : readHost special cs = .ok host) : host ≠ [] := by
  rw [readHost] at h
  split at h
  · exact (normalizeHost_ok h).ne_nil
  rw [normalizePlainHost] at h
  split at h
  · rename_i hbrackets
    obtain ⟨pieces, rfl⟩ := bracketed?_ok (hbrackets.trans (congrArg some h))
    exact List.cons_ne_nil _ _
  split at h
  · cases h
  · cases h
    exact percentEncode_ne_nil hcs

end Vouch.Url
