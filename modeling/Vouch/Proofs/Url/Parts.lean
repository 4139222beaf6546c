import Mathlib.Data.Bool.AllAny
import Vouch.Proofs.Url.Render

/-!
# Reading brings a URL into its usual form

Whatever text is read, each part of the URL holds only what may be written in its place: what could
end the part is percent-encoded, dropped or refused.
-/

namespace Vouch.Url

/-! ## The scheme -/

theorem isSchemeChar_ascii {c : Char} (h : isSchemeChar c = true) : c.toNat < 128 := by
  simp only [isSchemeChar, Bool.or_eq_true, decide_eq_true_eq] at h
  rcases h with ((halnum | rfl) | rfl) | rfl
  · have hcode := Text.toNat_of_isAlphanum halnum
    omega
  all_goals decide

-- What lower case does to the characters of a scheme.
theorem isSchemeChar_toLower {c : Char} (h : isSchemeChar c = true) :
    isSchemeChar c.toLower = true ∧ c.toLower.toLower = c.toLower ∧
      (c.isAlpha = true → c.toLower.isAlpha = true) := by
  refine Text.forall_ascii (p := fun c => isSchemeChar c = true → isSchemeChar c.toLower = true ∧
    c.toLower.toLower = c.toLower ∧ (c.isAlpha = true → c.toLower.isAlpha = true)) ?_
    (isSchemeChar_ascii h) h
  decide

theorem isScheme_of_split {cs scheme rest : List Char} (h : splitScheme? cs = some (scheme, rest)) :
    IsScheme scheme := by
  have hchars : ∀ c ∈ cs.takeWhile isSchemeChar, isSchemeChar c = true := fun c hc =>
    List.all_eq_true.mp List.all_takeWhile c hc
  unfold splitScheme? at h
  dsimp only at h
  split at h
  · split at h
    · rename_i halpha
      obtain ⟨rfl, rfl⟩ := Prod.mk.inj (Option.some.inj h)
      refine ⟨?_, ?_, ?_⟩
      · intro c hc
        obtain ⟨d, hd, rfl⟩ := List.mem_map.mp hc
        exact (isSchemeChar_toLower (hchars d hd)).1
      · cases hcs : cs.takeWhile isSchemeChar with
        | nil =>
          rw [hcs] at halpha
          cases halpha
        | cons c tail =>
          rw [hcs] at halpha
          exact (isSchemeChar_toLower (hchars c (hcs ▸ List.mem_cons_self))).2.2 halpha
      · rw [List.map_map]
        exact List.map_congr_left fun c hc => (isSchemeChar_toLower (hchars c hc)).2.1
    · cases h
  · cases h

/-! ## Paths -/

-- Whether every segment can be written as it is.
def PlainSegments (segments : List (List Char)) : Prop :=
  ∀ s ∈ segments, ∀ c ∈ s, isPlain c = true

theorem isPlain_of_path {c : Char} (h : EncodeSet.path c = false) : isPlain c = true := by
  simp only [EncodeSet.path, EncodeSet.fragment, EncodeSet.control, Bool.or_eq_false_iff,
    List.contains_cons, List.contains_nil, beq_eq_false_iff_ne, decide_eq_false_iff_not] at h
  obtain ⟨⟨⟨hlow, -⟩, hblank, -⟩, hhash, hquery, -⟩ := h
  refine isPlain_iff.mpr ⟨?_, hquery, hhash⟩
  have hne : c.toNat ≠ 0x20 := fun heq => hblank (Char.toNat_inj.mp heq)
  omega

theorem isPlain_of_percentEncode {cs : List Char} {c : Char}
    (h : c ∈ percentEncode .path cs) : isPlain c = true :=
  isPlain_of_path (percentEncode_stable EncodeSet.path_stable h)

theorem PlainSegments.nil : PlainSegments [] := fun _ hs => (nomatch hs)

theorem PlainSegments.cons {s : List Char} {segments : List (List Char)}
    (hs : ∀ c ∈ s, isPlain c = true) (h : PlainSegments segments) :
    PlainSegments (s :: segments) :=
  List.forall_mem_cons.mpr ⟨hs, h⟩

theorem PlainSegments.reverse {segments : List (List Char)} (h : PlainSegments segments) :
    PlainSegments segments.reverse := fun s hs => h s (List.mem_reverse.mp hs)

theorem PlainSegments.leave {segments : List (List Char)} (h : PlainSegments segments) :
    PlainSegments (leaveSegment segments) := by
  cases segments with
  | nil => exact h
  | cons s before =>
    rw [leaveSegment]
    split
    · exact h
    · exact (List.forall_mem_cons.mp h).2

theorem plain_colonDrive {s : List Char} (h : ∀ c ∈ s, isPlain c = true) :
    ∀ c ∈ colonDrive s, isPlain c = true := by
  intro c hc
  rcases List.mem_append.mp hc with hc | hc
  · exact h c (List.mem_of_mem_take hc)
  · rw [List.mem_singleton.mp hc]
    rfl

/-- Resolving dots and drive letters leaves what can be written. -/
theorem resolvePieces_plain {file drive : Bool} {done : List (List Char)} {pieces : List Piece}
    (hdone : PlainSegments done) (hpieces : ∀ p ∈ pieces, ∀ c ∈ p.text, isPlain c = true) :
    PlainSegments (resolvePieces file drive done pieces).segments := by
  induction pieces generalizing drive done with
  | nil => exact hdone.reverse
  | cons piece rest ih =>
    obtain ⟨hpiece, hrest⟩ := List.forall_mem_cons.mp hpieces
    have hempty : ∀ c ∈ ([] : List Char), isPlain c = true := fun _ hc => (nomatch hc)
    unfold resolvePieces
    dsimp only
    split
    · split
      · exact (hdone.leave.cons hempty).reverse
      · exact ih hdone.leave hrest
    split
    · split
      · exact (hdone.cons hempty).reverse
      · exact ih hdone hrest
    split
    · split
      · exact ih (.cons (fun c hc => hpiece c (List.mem_append_right _ hc))
          (.cons (fun c hc => hpiece c (List.mem_append_left _ hc)) .nil)) hrest
      · split
        · exact ih (.cons (plain_colonDrive hpiece) .nil) hrest
        · exact ih (.cons hpiece .nil) hrest
    · exact ih (hdone.cons hpiece) hrest

theorem PlainSegments.dropEmpty {segments : List (List Char)} (h : PlainSegments segments) :
    PlainSegments (dropEmpty segments) := by
  rw [Url.dropEmpty]
  split
  · exact .cons (fun _ hc => (nomatch hc)) .nil
  · exact fun s hs => h s (List.dropWhile_subset _ hs)

theorem readSegments_plain (special : Bool) (cs : List Char) :
    PlainSegments (readSegments special cs) := by
  refine resolvePieces_plain .nil fun p hp c hc => ?_
  obtain ⟨s, -, rfl⟩ := List.mem_map.mp hp
  exact isPlain_of_percentEncode hc

theorem ofFile_plain (written : List Char) : ∀ c ∈ (Piece.ofFile written).text,
    isPlain c = true := by
  have hwhole : ∀ c ∈ (Piece.whole (percentEncode .path (dropBreaks written))).text,
      isPlain c = true := fun c hc => isPlain_of_percentEncode hc
  unfold Piece.ofFile
  dsimp only
  split
  · split
    · split
      · rename_i letter _ _ after _ hcut
        intro c hc
        rcases List.mem_append.mp hc with hc | hc
        · simp only [Bool.and_eq_true] at hcut
          simp only [List.mem_cons, List.not_mem_nil, or_false] at hc
          rcases hc with rfl | rfl
          · exact isPlain_of_isAlpha hcut.1.1
          · rfl
        · exact isPlain_of_percentEncode hc
      · exact hwhole
    · exact hwhole
  · exact hwhole

theorem readFileSegments_plain (cs : List Char) :
    PlainSegments (readFileSegments cs).segments := by
  refine resolvePieces_plain .nil fun p hp => ?_
  obtain ⟨s, -, rfl⟩ := List.mem_map.mp hp
  exact ofFile_plain s

/-! ## The authority -/

theorem isInner_of_userinfo {cs : List Char} {c : Char} (h : c ∈ percentEncode .userinfo cs) :
    isInner c = true := by
  have hset := percentEncode_stable EncodeSet.userinfo_stable h
  obtain ⟨hpath, hrest⟩ := Bool.or_eq_false_iff.mp hset
  simp only [List.contains_cons, Bool.or_eq_false_iff, beq_eq_false_iff_ne] at hrest
  obtain ⟨hslash, -, -, -, hat, -, hback, -⟩ := hrest
  exact isInner_iff.mpr ⟨isPlain_of_path hpath, hslash, hback, hat⟩

theorem readPort_ok {scheme cs : List Char} {port : Option Nat}
    (h : readPort scheme cs = .ok port) :
    (∀ n ∈ port, n ≤ 65535) ∧ (cs = [] → port = none) := by
  unfold readPort at h
  dsimp only at h
  split at h
  · cases h
  split at h
  · cases h
  rename_i hfits
  split at h
  · cases h
    exact ⟨fun n hn => (nomatch hn), fun _ => rfl⟩
  · rename_i hnone
    cases h
    refine ⟨fun n hn => ?_, fun hnil => absurd (.inl (List.isEmpty_iff.mpr hnil)) hnone⟩
    cases hn
    exact Nat.not_lt.mp hfits

-- The parts that an authority is read from.  Without a host nothing else may be there.
theorem readAuthority_parts {scheme cs after : List Char} {atEnd : Bool} {a : Authority}
    (h : readAuthority scheme cs atEnd = .ok (a, after)) :
    ∃ userinfo host port, readHost (isSpecial scheme) host = .ok a.host ∧
      readPort scheme port = .ok a.port ∧ readUserinfo userinfo = (a.user, a.password) ∧
      (isSpecial scheme = true → host ≠ []) ∧
      (a.host = [] → port = [] ∧ a.user = [] ∧ a.password = []) := by
  rw [readAuthority_eq] at h
  cases hcut : cutUserinfo cs atEnd with
  | error e =>
    rw [hcut] at h
    cases h
  | ok parts =>
    obtain ⟨userinfo, hostport⟩ := parts
    rw [hcut] at h
    replace h : readHostport scheme userinfo hostport = .ok (a, after) := h
    unfold readHostport at h
    simp only [bind, Except.bind, pure, Except.pure] at h
    split at h
    · cases h
    rename_i hempty
    split at h
    · cases h
    rename_i host hread
    split at h
    · cases h
    rename_i hafter
    split at h
    · cases h
    rename_i port hport
    split at h
    · cases h
    rename_i huser
    cases h
    refine ⟨userinfo, _, _, hread, hport, rfl, fun hspecial hnil => hempty ?_, ?_⟩
    · rw [hspecial, hnil]
      rfl
    · rintro rfl
      simp only [List.isEmpty_nil, Bool.true_and, Bool.not_eq_true', Bool.not_eq_false,
        Bool.and_eq_true, List.isEmpty_iff] at hafter huser
      rw [hafter]
      exact ⟨rfl, huser⟩

/-- An authority that has been read is in its usual form, and special schemes have a host. -/
theorem readAuthority_ok {scheme cs after : List Char} {atEnd : Bool} {a : Authority}
    (h : readAuthority scheme cs atEnd = .ok (a, after)) :
    a.Formed ∧ (isSpecial scheme = true → a.host ≠ []) := by
  obtain ⟨userinfo, host, port, hread, hport, huser, hne, halone⟩ := readAuthority_parts h
  obtain ⟨huser, hpassword⟩ := Prod.mk.inj huser
  obtain ⟨hfits, hnone⟩ := readPort_ok hport
  refine ⟨⟨fun c hc => ?_, fun c hc => ?_, readHost_ok hread, hfits, fun hnil => ?_⟩,
    fun hspecial => readHost_ne_nil (hne hspecial) hread⟩
  · rw [← huser] at hc
    exact isInner_of_userinfo hc
  · rw [← hpassword] at hc
    exact isInner_of_userinfo hc
  · obtain ⟨hport, huser, hpassword⟩ := halone hnil
    exact ⟨huser, hpassword, hnone hport⟩

/-! ## The URL -/

theorem readPath_plain {special : Bool} {cs : List Char} {segments : List (List Char)}
    (h : readPath special cs = .segments segments) : PlainSegments segments := by
  unfold readPath at h
  split at h
  · cases h
    split
    · exact .cons (fun _ hc => (nomatch hc)) .nil
    · exact .nil
  · cases h
    exact readSegments_plain _ _

theorem readPath_segments (special : Bool) (cs : List Char) :
    ∃ segments, readPath special cs = .segments segments := by
  cases cs with
  | nil => exact ⟨_, rfl⟩
  | cons c cs => exact ⟨_, rfl⟩

-- A slash ends neither a query nor a fragment, so the path begins with it if the text does.
theorem splitTail_head (rest : List Char) :
    (splitTail rest).1.head? = some '/' ↔ rest.head? = some '/' := by
  cases rest with
  | nil => rfl
  | cons c rest =>
    rw [splitTail, List.takeWhile_cons]
    by_cases hc : c = '/'
    · subst hc
      simp
    · split
      · rw [List.takeWhile_cons]
        split <;> simp [hc]
      · simp [hc]

/-- What a URL of another scheme than that of files is read as: an authority with a path below it,
or a path alone, if the scheme has no special rules. -/
theorem readOther_cases {scheme rest : List Char} {u : Url} (h : readOther scheme rest = .ok u) :
    u.scheme = scheme ∧
      ((∃ cs atEnd a after path, readAuthority scheme cs atEnd = .ok (a, after) ∧
          u.authority = some a ∧ u.path = readPath (isSpecial scheme) path ∧
          (isSpecial scheme = true ∨ rest.head? = some '/')) ∨
        (isSpecial scheme = false ∧ u.authority = none ∧
          ((∃ path, u.path = .segments (readSegments false path) ∧ rest.head? = some '/') ∨
            ∃ text, u.path = .rootless text ∧ rest.head? ≠ some '/'))) := by
  simp only [← splitTail_head rest, ne_eq]
  unfold readOther at h
  simp only [bind, Except.bind, pure, Except.pure] at h
  split at h
  · rename_i front hfront
    split at h
    · cases h
    rename_i parts hread
    cases h
    refine ⟨rfl, .inl ⟨_, _, parts.1, parts.2, _, hread, rfl, rfl, ?_⟩⟩
    cases hspecial : isSpecial scheme with
    | true => exact .inl rfl
    | false =>
      rw [hspecial, if_neg Bool.false_ne_true] at hfront
      split at hfront
      · rename_i hslashes
        obtain ⟨more, hmore⟩ := List.isPrefixOf_iff_prefix.mp hslashes
        rw [← hmore]
        exact .inr rfl
      · cases hfront
  · rename_i hfront
    cases h
    have hspecial : isSpecial scheme = false := Bool.eq_false_iff.mpr fun hspecial => by
      rw [hspecial, if_pos rfl] at hfront
      cases hfront
    refine ⟨rfl, .inr ⟨hspecial, rfl, ?_⟩⟩
    dsimp only
    split
    · rename_i path hpath
      rw [hpath]
      exact .inl ⟨path, rfl, rfl⟩
    · rename_i hno
      refine .inr ⟨_, rfl, fun hhead => ?_⟩
      obtain ⟨path, hpath⟩ := List.head?_eq_some_iff.mp hhead
      exact hno path hpath

theorem readOther_ok {scheme rest : List Char} {u : Url} (hscheme : IsScheme scheme)
    (hother : scheme ≠ fileScheme) (h : readOther scheme rest = .ok u) : u.Formed := by
  obtain ⟨rfl, h⟩ := readOther_cases h
  rcases h with ⟨cs, atEnd, a, after, path, hread, hauthority, hpath, -⟩ |
    ⟨hspecial, hauthority, hpath⟩
  · obtain ⟨hformed, hhost⟩ := readAuthority_ok hread
    refine ⟨hscheme, ?_, fun hs => ⟨a, hauthority, fun _ => hhost hs⟩,
      fun hfile => absurd hfile hother, fun segments hsegments => ?_, fun _ => ?_⟩
    · rw [hauthority]
      rintro _ ⟨⟩
      exact hformed
    · exact readPath_plain (hpath.symm.trans hsegments)
    · rw [hpath]
      exact readPath_segments _ _
  · refine ⟨hscheme, ?_, fun hs => ?_, fun hfile => absurd hfile hother,
      fun segments hsegments => ?_, fun hsome => absurd hauthority hsome⟩
    · rw [hauthority]
      exact fun a ha => (nomatch ha)
    · rw [hspecial] at hs
      cases hs
    · rcases hpath with ⟨path, hpath, -⟩ | ⟨text, hpath, -⟩
      · rw [hpath] at hsegments
        cases hsegments
        exact readSegments_plain _ _
      · rw [hpath] at hsegments
        cases hsegments

theorem isScheme_file : IsScheme fileScheme := by
  exact ⟨List.all_iff_forall_prop.mp (by decide), by decide, by decide⟩

-- A file has an authority that consists of its host.
theorem formed_file {host : List Char} {segments : List (List Char)}
    {query fragment : Option (List Char)} (hhost : host = [] ∨ SpecialHost host)
    (hpath : PlainSegments segments) :
    Formed ⟨fileScheme, some ⟨[], [], host, none⟩, .segments segments, query, fragment⟩ := by
  have hnil : ∀ c ∈ ([] : List Char), isInner c = true := fun _ hc => (nomatch hc)
  have hform : IsHost host ∧ isDriveLetter host = false := by
    rcases hhost with rfl | hhost
    · exact ⟨⟨hnil, .name fun _ hc => (nomatch hc)⟩, rfl⟩
    · exact ⟨hhost.isHost, hhost.not_drive⟩
  refine ⟨isScheme_file, ?_, fun _ => ⟨_, rfl, fun hother => absurd rfl hother⟩, ?_, ?_,
    fun _ => ⟨segments, rfl⟩⟩
  · rintro a ha
    cases ha
    exact ⟨hnil, hnil, hform.1, fun n hn => (nomatch hn), fun _ => ⟨rfl, rfl, rfl⟩⟩
  · rintro - a ha
    cases ha
    exact ⟨rfl, rfl, rfl, hform.2⟩
  · rintro _ ⟨⟩
    exact hpath

/-- What a file's URL is read as: a host or none, and a path. -/
theorem readFile_cases {rest : List Char} {u : Url} (h : readFile rest = .ok u) :
    ∃ host path query fragment, (host = [] ∨ ∃ cs, normalizeHost cs = .ok host) ∧
      u = ⟨fileScheme, some ⟨[], [], host, none⟩,
        .segments (dropEmpty (readFileSegments path).segments), query, fragment⟩ := by
  unfold readFile at h
  simp only [bind, Except.bind, pure, Except.pure] at h
  split at h
  · cases h
    exact ⟨_, _, _, _, .inl rfl, rfl⟩
  split at h
  · cases h
    exact ⟨_, _, _, _, .inl rfl, rfl⟩
  split at h
  · cases h
    exact ⟨_, _, _, _, .inl rfl, rfl⟩
  split at h
  · cases h
  · rename_i host hread
    cases h
    refine ⟨_, _, _, _, ?_, rfl⟩
    split
    · exact .inl rfl
    · exact .inr ⟨_, hread⟩

theorem readFile_ok {rest : List Char} {u : Url} (h : readFile rest = .ok u) : u.Formed := by
  obtain ⟨host, path, query, fragment, hhost, rfl⟩ := readFile_cases h
  exact formed_file (hhost.imp_right fun ⟨_, hread⟩ => normalizeHost_ok hread)
    (readFileSegments_plain path).dropEmpty

/-- Every URL that is read is in its usual form. -/
theorem formed_of_parse {s : String} {u : Url} (h : parse s = .ok u) : u.Formed := by
  unfold parse at h
  dsimp only at h
  split at h
  · cases h
  rename_i scheme rest hscheme
  split at h
  · exact readFile_ok h
  · rename_i hother
    exact readOther_ok (isScheme_of_split hscheme) hother h

/-- The host of a URL that was read is the usual form of some host, unless it is the empty one of a
file. -/
theorem host_of_parse {s : String} {u : Url} (h : parse s = .ok u) : ∀ a ∈ u.authority,
    u.scheme = fileScheme ∧ a.host = [] ∨
      ∃ cs, readHost (isSpecial u.scheme) cs = .ok a.host := by
  unfold parse at h
  dsimp only at h
  split at h
  · cases h
  split at h
  · obtain ⟨host, path, query, fragment, hhost, rfl⟩ := readFile_cases h
    rintro a ⟨⟩
    exact hhost.imp_left fun hnil => ⟨rfl, hnil⟩
  · obtain ⟨rfl, h⟩ := readOther_cases h
    rcases h with ⟨cs, atEnd, a, after, path, hread, hauthority, -⟩ | ⟨-, hauthority, -⟩
    · obtain ⟨-, host, -, hhost, -⟩ := readAuthority_parts hread
      rw [hauthority]
      rintro _ ⟨⟩
      exact .inr ⟨host, hhost⟩
    · rw [hauthority]
      exact fun a ha => (nomatch ha)

end Vouch.Url
