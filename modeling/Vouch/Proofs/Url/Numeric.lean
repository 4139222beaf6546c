import Vouch.Proofs.Url.Reread

/-!
# Numeric addresses are read again

An IPv4 or IPv6 address that was read is written in its usual form, and that form is read as the
same address.  An IPv6 address may be written with two colons in place of its longest run of zeros;
reading fills in as many zeros as are missing.
-/

namespace Vouch

namespace Url

/-! ## Digits -/

-- So many digits stand for less than that power of the base.
theorem foldlM_lt {α : Type} {b : Nat} {value? : α → Option Nat} {digits : List α} {start n : Nat}
    (hvalue : ∀ x ∈ digits, ∀ d, value? x = some d → d < b)
    (h : digits.foldlM (fun n x => (value? x).map fun d => b * n + d) start = some n) :
    n < (start + 1) * Nat.pow b digits.length := by
  show n < (start + 1) * b ^ digits.length
  induction digits generalizing start with
  | nil =>
    cases h
    rw [List.length_nil, Nat.pow_zero, Nat.mul_one]
    exact Nat.lt_succ_self _
  | cons x digits ih =>
    obtain ⟨hx, hdigits⟩ := List.forall_mem_cons.mp hvalue
    rw [List.foldlM_cons] at h
    obtain ⟨next, hnext, h⟩ := Option.bind_eq_some_iff.mp h
    obtain ⟨d, hd, rfl⟩ := Option.map_eq_some_iff.mp hnext
    have hlt := hx d hd
    calc
      n < (b * start + d + 1) * b ^ digits.length := ih hdigits h
      _ ≤ (start + 1) * b * b ^ digits.length := by
        refine Nat.mul_le_mul_right _ ?_
        rw [Nat.add_mul, Nat.one_mul, Nat.mul_comm start b]
        omega
      _ = (start + 1) * b ^ (x :: digits).length := by
        rw [List.length_cons, Nat.pow_succ', Nat.mul_assoc]

/-! ## IPv4 addresses -/

namespace Ipv4

theorem number?_toDigits (n : Nat) : number? (Nat.toDigits 10 n) = some n := by
  by_cases hn : n = 0
  · rw [hn]
    rfl
  · have hhead := head?_toDigits (b := 10) (by decide) hn
    have hread := foldlM_toDigits (digitValue? 10) (b := 10) (by decide) (by decide) n
    cases hdigits : Nat.toDigits 10 n with
    | nil => exact absurd hdigits Nat.toDigits_ne_nil
    | cons c rest =>
      rw [hdigits] at hhead hread
      have hc : c ≠ '0' := fun heq => hhead (congrArg some heq)
      unfold number?
      split
      · rename_i heq
        cases heq
      · rename_i heq
        exact absurd (List.cons.inj heq).1 hc
      · rename_i heq
        exact absurd (List.cons.inj heq).1 hc
      · rename_i heq
        exact absurd (List.cons.inj heq).1 hc
      · exact hread

variable {address : Nat}

theorem labels_render (address : Nat) : labels (render address) =
    [Nat.toDigits 10 (address / 0x1000000), Nat.toDigits 10 (address / 0x10000 % 256),
      Nat.toDigits 10 (address / 0x100 % 256), Nat.toDigits 10 (address % 256)] := by
  have hdot : ∀ n, '.' ∉ Nat.toDigits 10 n := fun n =>
    not_mem_toDigits (by decide) (by decide) (by decide)
  simp only [labels, render, List.append_assoc, List.cons_append, Text.fields_append (hdot _),
    Text.fields_eq_singleton (hdot _)]
  exact if_neg fun h => Nat.toDigits_ne_nil (Option.some.inj h)

-- The bytes and the last number share out four bytes.
theorem combine?_lt {numbers : List Nat} (h : combine? numbers = some address) :
    address < 0x100000000 := by
  unfold combine? at h
  split at h
  · cases h
  · rename_i hne
    dsimp only at h
    split at h
    · cases h
    · rename_i hfits
      cases h
      simp only [not_or, Nat.not_lt, Bool.not_eq_true, List.any_eq_false, decide_eq_true_eq,
        Nat.not_le] at hfits
      obtain ⟨hcount, hleading, hlast⟩ := hfits
      have hleading := @foldlM_lt Nat 256 some _ 0 _
        (fun byte hbyte _ hd => Option.some.inj hd ▸ Nat.lt_succ_of_le (hleading byte hbyte))
        List.foldlM_pure
      rw [List.length_dropLast, Nat.zero_add, Nat.one_mul] at hleading
      have hlength := List.length_pos_iff.mpr hne
      generalize numbers.dropLast.foldl (fun n byte => 256 * n + byte) 0 = front at hleading ⊢
      have hpow : 256 ^ (numbers.length - 1) * Nat.pow 256 (5 - numbers.length) = 0x100000000 := by
        show 256 ^ (numbers.length - 1) * 256 ^ (5 - numbers.length) = _
        rw [← Nat.pow_add, show numbers.length - 1 + (5 - numbers.length) = 4 by omega]
      generalize Nat.pow 256 (5 - numbers.length) = limit at hlast hpow ⊢
      calc
        _ < (front + 1) * limit := by rw [Nat.add_mul, Nat.one_mul]; omega
        _ ≤ 256 ^ (numbers.length - 1) * limit := Nat.mul_le_mul_right _ hleading
        _ = 0x100000000 := hpow

theorem combine?_bytes {a b c d : Nat} (ha : a ≤ 255) (hb : b ≤ 255) (hc : c ≤ 255)
    (hd : d ≤ 255) :
    combine? [a, b, c, d] = some ((256 * (256 * (256 * 0 + a) + b) + c) * 256 + d) := by
  refine if_neg ?_
  rintro (hcount | hleading | hlast)
  · exact Nat.lt_irrefl 4 hcount
  · obtain ⟨n, hn, hlarge⟩ := List.any_eq_true.mp hleading
    have hlarge := of_decide_eq_true hlarge
    simp only [List.dropLast, List.mem_cons, List.not_mem_nil, or_false] at hn
    rcases hn with rfl | rfl | rfl <;> omega
  · have hlast : 256 ≤ d := hlast
    omega

theorem normalize_lt {cs host : List Char} (h : normalize cs = .ok host) :
    ∃ address < 0x100000000, host = render address := by
  rw [normalize] at h
  split at h
  · rename_i address haddress
    cases h
    obtain ⟨numbers, -, hcombine⟩ := Option.bind_eq_some_iff.mp haddress
    exact ⟨address, combine?_lt hcombine, rfl⟩
  · cases h

theorem normalize_render (h : address < 0x100000000) :
    normalize (render address) = .ok (render address) := by
  have hnumbers : (labels (render address)).mapM number? =
      some [address / 0x1000000, address / 0x10000 % 256, address / 0x100 % 256, address % 256] := by
    simp only [labels_render, List.mapM_cons, List.mapM_nil, number?_toDigits, Option.bind_eq_bind,
      Option.bind_some, Option.pure_def]
  have hdivmod : (256 * (256 * (256 * 0 + address / 0x1000000) + address / 0x10000 % 256) +
      address / 0x100 % 256) * 256 + address % 256 = address := by omega
  rw [normalize, hnumbers, Option.bind_some, combine?_bytes (by omega) (by omega) (by omega)
    (by omega), hdivmod]

theorem isIntended_render (address : Nat) : isIntended (render address) = true := by
  have hdigits : (Nat.toDigits 10 (address % 256)).all Char.isDigit = true :=
    List.all_eq_true.mpr fun c hc => Nat.isDigit_of_mem_toDigits (by decide) (by decide) hc
  have hne : (Nat.toDigits 10 (address % 256)).isEmpty = false :=
    List.isEmpty_eq_false_iff.mpr Nat.toDigits_ne_nil
  rw [isIntended, labels_render]
  simp only [List.getLast?_cons_cons, List.getLast?_singleton, hdigits, hne]
  rfl

/-- An IPv4 address is its own usual form. -/
theorem normalizeHost_render (h : address < 0x100000000) :
    normalizeHost (render address) = .ok (render address) := by
  have hfree : ∀ c, c.isDigit = false → c ≠ '.' → c ∉ render address := by
    intro c hdigit hdot hc
    rcases mem_render hc with hc | hc
    · rw [hdigit] at hc
      cases hc
    · exact hdot hc
  have hascii : ∀ c ∈ render address, Idna.isAscii c = true ∧ c.isUpper = false := by
    intro c hc
    rcases mem_render hc with hc | rfl
    · have hcode := Text.toNat_of_isAlphanum (c := c) (by rw [Char.isAlphanum, hc, Bool.or_true])
      exact Text.forall_ascii (p := fun c => c.isDigit = true →
        Idna.isAscii c = true ∧ c.isUpper = false) (by decide) (by omega) hc
    · decide
  have hmark : ∀ label ∈ Text.fields '.' (render address),
      Idna.asciiMark.isPrefixOf label = false := fun label hlabel =>
    Idna.isPrefixOf_asciiMark fun hx =>
      hfree 'x' (by decide) (by decide) (Text.mem_of_mem_fields hlabel hx)
  have hallowed : (render address).any isForbiddenInDomain = false :=
    List.any_eq_false.mpr fun c hc => by
      rw [isForbiddenInDomain_of_digit (mem_render hc)]
      decide
  have hne : (render address).isEmpty = false :=
    List.isEmpty_eq_false_iff.mpr (List.append_ne_nil_of_right_ne_nil _ (List.cons_ne_nil _ _))
  rw [normalizeHost_eq (hfree '[' (by decide) (by decide)) (hfree '%' (by decide) (by decide)),
    Idna.toAscii?_ascii hascii hmark, Option.elim_some, readDomain, hallowed, hne,
    isIntended_render, normalize_render h]
  rfl

end Ipv4

/-! ## IPv6 addresses -/

namespace Ipv6

variable {n : Nat} {pieces : List Nat}

-- The pieces of an address.
structure IsAddress (pieces : List Nat) : Prop where
  length : pieces.length = 8
  fits : ∀ n ∈ pieces, n < 0x10000

/-! ### What is read is an address -/

theorem hexValue?_lt {c : Char} (h : Json.hexValue? c = some n) : n < 16 := by
  unfold Json.hexValue? at h
  have hle : ∀ {a b : Char}, a ≤ b → a.toNat ≤ b.toNat := fun h => h
  split at h
  · rename_i hdigit
    cases h
    have hlast := hle hdigit.2
    exact Nat.lt_of_le_of_lt (Nat.sub_le_sub_right hlast _) (by decide)
  split at h
  · rename_i hletter
    cases h
    have hlast := hle hletter.2
    exact Nat.lt_of_le_of_lt (Nat.add_le_add_right (Nat.sub_le_sub_right hlast _) _) (by decide)
  split at h
  · rename_i hletter
    cases h
    have hlast := hle hletter.2
    exact Nat.lt_of_le_of_lt (Nat.add_le_add_right (Nat.sub_le_sub_right hlast _) _) (by decide)
  · cases h

theorem piece?_lt {cs : List Char} (h : piece? cs = some n) : n < 0x10000 := by
  unfold piece? at h
  split at h
  · cases h
  · rename_i hlength
    have hlength := Nat.not_lt.mp (not_or.mp hlength).2
    calc
      n < (0 + 1) * 16 ^ cs.length := foldlM_lt (fun c _ d hd => hexValue?_lt hd) h
      _ ≤ (0 + 1) * 16 ^ 4 := Nat.mul_le_mul_left _ (Nat.pow_le_pow_right (by decide) hlength)

theorem byte?_le {cs : List Char} (h : byte? cs = some n) : n ≤ 255 := by
  unfold byte? at h
  split at h
  · rename_i hbyte
    cases h
    exact of_decide_eq_true (Bool.and_eq_true_iff.mp hbyte).2
  · cases h

theorem dotted?_lt {cs : List Char} (h : dotted? cs = some pieces) :
    ∀ n ∈ pieces, n < 0x10000 := by
  obtain ⟨bytes, hbytes, h⟩ := Option.bind_eq_some_iff.mp h
  split at h
  · rename_i a b c d
    cases h
    have hle : ∀ byte ∈ [a, b, c, d], byte ≤ 255 := by
      intro byte hbyte
      obtain ⟨field, -, hread⟩ := (Idna.exists_of_mapM hbytes).2 byte hbyte
      exact byte?_le hread
    simp only [List.forall_mem_cons] at hle
    obtain ⟨ha, hb, hc, hd, -⟩ := hle
    simp only [List.forall_mem_cons, List.not_mem_nil]
    exact ⟨by omega, by omega, fun _ => False.elim⟩
  · cases h

theorem pieces?_lt {fields : List (List Char)} (h : pieces? fields = some pieces) :
    ∀ n ∈ pieces, n < 0x10000 := by
  fun_induction pieces? fields generalizing pieces with
  | case1 =>
    cases h
    exact fun _ hn => (nomatch hn)
  | case2 last hdot => exact dotted?_lt h
  | case3 last hdot =>
    obtain ⟨n, hn, rfl⟩ := Option.map_eq_some_iff.mp h
    exact fun m hm => List.mem_singleton.mp hm ▸ piece?_lt hn
  | case4 field rest hrest ih =>
    obtain ⟨n, hn, h⟩ := Option.bind_eq_some_iff.mp h
    obtain ⟨more, hmore, h⟩ := Option.bind_eq_some_iff.mp h
    cases h
    exact List.forall_mem_cons.mpr ⟨piece?_lt hn, ih hmore⟩

theorem partPieces?_lt {cs : List Char} (h : partPieces? cs = some pieces) :
    ∀ n ∈ pieces, n < 0x10000 := by
  unfold partPieces? at h
  split at h
  · cases h
    exact fun _ hn => (nomatch hn)
  · exact pieces?_lt h

theorem isAddress_of_parse? {cs : List Char} (h : parse? cs = some pieces) : IsAddress pieces := by
  unfold parse? at h
  split at h
  · obtain ⟨all, hall, h⟩ := Option.bind_eq_some_iff.mp h
    split at h
    · rename_i hlength
      cases h
      exact ⟨hlength, pieces?_lt hall⟩
    · cases h
  split at h
  · cases h
  obtain ⟨front, hfront, h⟩ := Option.bind_eq_some_iff.mp h
  obtain ⟨back, hback, h⟩ := Option.bind_eq_some_iff.mp h
  dsimp only at h
  split at h
  · rename_i hsize
    cases h
    refine ⟨?_, fun n hn => ?_⟩
    · rw [List.length_append, List.length_append, List.length_replicate]
      omega
    · rcases List.mem_append.mp hn with hn | hn
      · rcases List.mem_append.mp hn with hn | hn
        · exact partPieces?_lt hfront n hn
        · rw [(List.mem_replicate.mp hn).2]
          decide
      · exact partPieces?_lt hback n hn
  · cases h

/-! ### What is written is read -/

theorem piece?_toDigits (h : n < 0x10000) : piece? (Nat.toDigits 16 n) = some n := by
  have hlength : (Nat.toDigits 16 n).length ≤ 4 :=
    (Nat.length_toDigits_le_iff (by decide) (by decide)).mpr h
  have hread := foldlM_toDigits Json.hexValue? (b := 16) (by decide) hexValue?_digitChar n
  rw [piece?, if_neg, hread]
  rintro (hempty | hlong)
  · exact Nat.toDigits_ne_nil (List.isEmpty_iff.mp hempty)
  · exact Nat.not_lt.mpr hlength hlong

theorem colon_not_mem_toDigits (n : Nat) : ':' ∉ Nat.toDigits 16 n :=
  not_mem_toDigits (by decide) (by decide) (by decide)

theorem joinPieces_singleton (n : Nat) : joinPieces [n] = Nat.toDigits 16 n :=
  List.append_nil _

-- One piece after another.
theorem joinPieces_cons (n m : Nat) (pieces : List Nat) : joinPieces (n :: m :: pieces) =
    Nat.toDigits 16 n ++ ':' :: joinPieces (m :: pieces) := by
  rw [joinPieces, List.map_cons, List.map_cons, List.intercalate_cons_cons, List.append_assoc]
  rfl

theorem joinPieces_ne_nil (hne : pieces ≠ []) : joinPieces pieces ≠ [] := by
  match pieces, hne with
  | [n], _ =>
    rw [joinPieces_singleton]
    exact Nat.toDigits_ne_nil
  | n :: m :: pieces, _ =>
    rw [joinPieces_cons]
    exact List.append_ne_nil_of_left_ne_nil Nat.toDigits_ne_nil _

-- Pieces begin with a digit.
theorem head?_joinPieces (hne : pieces ≠ []) (rest : List Char) :
    (joinPieces pieces ++ rest).head? ≠ some ':' := by
  have hdigits : ∀ n rest, (Nat.toDigits 16 n ++ rest).head? ≠ some ':' := by
    intro n rest hhead
    obtain ⟨c, digits, hcons⟩ := List.exists_cons_of_ne_nil (@Nat.toDigits_ne_nil n 16)
    rw [hcons] at hhead
    refine colon_not_mem_toDigits n ?_
    rw [hcons, ← Option.some.inj hhead]
    exact List.mem_cons_self
  match pieces, hne with
  | [n], _ =>
    rw [joinPieces_singleton]
    exact hdigits n rest
  | n :: m :: pieces, _ =>
    rw [joinPieces_cons, List.append_assoc]
    exact hdigits n _

theorem pieces?_cons {field next : List Char} {fields : List (List Char)} :
    pieces? (field :: next :: fields) =
      (piece? field).bind fun n => (pieces? (next :: fields)).map (n :: ·) := by
  rw [pieces?]
  · cases piece? field with
    | none => rfl
    | some n => cases pieces? (next :: fields) <;> rfl
  · simp

/-- Pieces between colons are read as they are. -/
theorem pieces?_joinPieces (hne : pieces ≠ []) (hfits : ∀ n ∈ pieces, n < 0x10000) :
    pieces? (Text.fields ':' (joinPieces pieces)) = some pieces := by
  have hdot : ∀ n, '.' ∉ Nat.toDigits 16 n := fun n =>
    not_mem_toDigits (by decide) (by decide) (by decide)
  induction pieces with
  | nil => exact absurd rfl hne
  | cons n pieces ih =>
    obtain ⟨hn, hrest⟩ := List.forall_mem_cons.mp hfits
    cases pieces with
    | nil =>
      rw [joinPieces_singleton, Text.fields_eq_singleton (colon_not_mem_toDigits n), pieces?,
        piece?_toDigits hn]
      exact if_neg fun h => hdot n (List.contains_iff_mem.mp h)
    | cons m pieces =>
      have hmore := ih (List.cons_ne_nil _ _) hrest
      rw [joinPieces_cons, Text.fields_append (colon_not_mem_toDigits n)]
      obtain ⟨next, others, hfields⟩ :=
        List.exists_cons_of_ne_nil (Text.fields_ne_nil ':' (joinPieces (m :: pieces)))
      rw [hfields] at hmore ⊢
      rw [pieces?_cons, piece?_toDigits hn, hmore]
      rfl

theorem partPieces?_joinPieces (hfits : ∀ n ∈ pieces, n < 0x10000) :
    partPieces? (joinPieces pieces) = some pieces := by
  by_cases hne : pieces = []
  · rw [hne]
    rfl
  · rw [partPieces?, if_neg fun h => joinPieces_ne_nil hne (List.isEmpty_iff.mp h)]
    exact pieces?_joinPieces hne hfits

/-! ### The gap -/

theorem splitGap?_cons {c : Char} {rest : List Char} (h : c = ':' → rest.head? ≠ some ':') :
    splitGap? (c :: rest) = (splitGap? rest).map fun (before, after) => (c :: before, after) := by
  rw [splitGap?]
  rintro more rfl rfl
  exact h rfl rfl

theorem splitGap?_append {digits : List Char} (h : ':' ∉ digits) (rest : List Char) :
    splitGap? (digits ++ rest) =
      (splitGap? rest).map fun (before, after) => (digits ++ before, after) := by
  induction digits with
  | nil => exact Option.map_id'.symm
  | cons c digits ih =>
    obtain ⟨hc, hdigits⟩ := not_or.mp (mt List.mem_cons.mpr h)
    rw [List.cons_append, splitGap?_cons fun heq => absurd heq.symm hc, ih hdigits,
      Option.map_map]
    rfl

/-- There is no gap between pieces. -/
theorem splitGap?_joinPieces (pieces : List Nat) (rest : List Char) :
    splitGap? (joinPieces pieces ++ rest) =
      (splitGap? rest).map fun (before, after) => (joinPieces pieces ++ before, after) := by
  induction pieces with
  | nil => exact Option.map_id'.symm
  | cons n pieces ih =>
    cases pieces with
    | nil =>
      rw [joinPieces_singleton]
      exact splitGap?_append (colon_not_mem_toDigits n) rest
    | cons m pieces =>
      have hcolon := splitGap?_cons (c := ':') fun _ =>
        head?_joinPieces (List.cons_ne_nil m pieces) rest
      simp only [joinPieces_cons, List.append_assoc, List.cons_append,
        splitGap?_append (colon_not_mem_toDigits n), hcolon, ih, Option.map_map]
      rfl

-- The run that is left out is one of zeros.
theorem longestRun_le (pieces : List Nat) :
    (longestRun pieces).2 ≤ zeroRun (pieces.drop (longestRun pieces).1) := by
  refine List.foldlRecOn (motive := fun best : Nat × Nat => best.2 ≤ zeroRun (pieces.drop best.1))
    _ _ (Nat.zero_le _) fun best hbest i _ => ?_
  dsimp only
  split
  · exact Nat.le_refl _
  · exact hbest

theorem take_of_le_zeroRun (h : n ≤ zeroRun pieces) : pieces.take n = List.replicate n 0 := by
  induction pieces generalizing n with
  | nil =>
    rw [Nat.le_zero.mp h]
    rfl
  | cons piece pieces ih =>
    cases n with
    | zero => rfl
    | succ n =>
      rw [zeroRun, List.takeWhile_cons] at h
      split at h
      · rename_i hzero
        rw [List.take_succ_cons, List.replicate_succ, of_decide_eq_true hzero,
          ih (Nat.le_of_succ_le_succ h)]
      · cases h

theorem zeroRun_le_length (pieces : List Nat) : zeroRun pieces ≤ pieces.length :=
  (List.takeWhile_sublist _).length_le

/-- An address is read from its usual form. -/
theorem parse?_render (h : IsAddress pieces) : parse? (render pieces) = some pieces := by
  have hrun := longestRun_le pieces
  unfold render
  generalize longestRun pieces = run at hrun ⊢
  obtain ⟨start, size⟩ := run
  dsimp only at hrun ⊢
  split
  · have hgap := splitGap?_joinPieces pieces []
    rw [List.append_nil] at hgap
    have hne : pieces ≠ [] := List.ne_nil_of_length_pos (by rw [h.length]; decide)
    rw [parse?, hgap]
    simp only [splitGap?, Option.map_none, pieces?_joinPieces hne h.fits, Option.bind_eq_bind,
      Option.bind_some, if_pos h.length]
    rfl
  · rename_i hsize
    have hgap : splitGap? (joinPieces (pieces.take start) ++ [':', ':'] ++
        joinPieces (pieces.drop (start + size))) =
          some (joinPieces (pieces.take start), joinPieces (pieces.drop (start + size))) := by
      rw [List.append_assoc, splitGap?_joinPieces]
      simp [splitGap?]
    have hfront := @partPieces?_joinPieces (pieces.take start) fun n hn =>
      h.fits n (List.mem_of_mem_take hn)
    have hback := @partPieces?_joinPieces (pieces.drop (start + size)) fun n hn =>
      h.fits n (List.mem_of_mem_drop hn)
    have hdot : (joinPieces (pieces.take start)).contains '.' = false :=
      Bool.eq_false_iff.mpr fun hdot =>
        absurd (mem_joinPieces (List.contains_iff_mem.mp hdot)) (by decide)
    have hfits := zeroRun_le_length (pieces.drop start)
    rw [List.length_drop, h.length] at hfits
    have hlength : (pieces.take start).length + (pieces.drop (start + size)).length = 8 - size := by
      rw [List.length_take, List.length_drop, h.length]
      omega
    have hzeros : 8 - (8 - size) = size := by omega
    have hwhole : pieces.take start ++ List.replicate size 0 ++ pieces.drop (start + size) =
        pieces := by
      rw [← take_of_le_zeroRun hrun, List.append_assoc, ← List.drop_drop, List.take_append_drop,
        List.take_append_drop]
    rw [parse?, hgap]
    simp only [hdot, hfront, hback, Option.bind_eq_bind, Option.bind_some, hlength, hzeros, hwhole]
    rw [if_neg Bool.false_ne_true, if_pos (by omega)]
    rfl

theorem isAddress_of_normalize {cs host : List Char} (h : normalize cs = .ok host) :
    ∃ pieces, IsAddress pieces ∧ host = '[' :: render pieces ++ [']'] := by
  rw [normalize] at h
  split at h
  · rename_i pieces hpieces
    cases h
    exact ⟨pieces, isAddress_of_parse? hpieces, rfl⟩
  · cases h

end Ipv6

/-- An address between brackets is its own usual form. -/
theorem bracketed?_again {cs host : List Char} (h : bracketed? cs = some (.ok host)) :
    bracketed? host = some (.ok host) := by
  obtain ⟨pieces, haddress, rfl⟩ :
      ∃ pieces, Ipv6.IsAddress pieces ∧ host = '[' :: Ipv6.render pieces ++ [']'] := by
    unfold bracketed? at h
    split at h
    · split at h
      · exact Ipv6.isAddress_of_normalize (Option.some.inj h)
      · cases h
    · cases h
  have hlast : ('[' :: Ipv6.render pieces ++ [']']).getLast? = some ']' :=
    List.getLast?_concat
  show (if _ then some (Ipv6.normalize (Ipv6.render pieces ++ [']']).dropLast) else _) = _
  rw [if_pos hlast, List.dropLast_concat, Ipv6.normalize, Ipv6.parse?_render haddress]

end Url

end Vouch
