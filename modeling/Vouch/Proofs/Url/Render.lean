import Vouch.Proofs.Url.Authority

/-!
# Written URLs are read again

The text of a URL with a path of segments and no fragment is cut into the same parts, whatever the
scheme.  Its query comes back as it was, unless the host is not accepted in the form in which it
is written.
-/

namespace Vouch.Url

/-! ## The URL as a whole -/

/-- The parts of a URL in their usual form. -/
structure Formed (u : Url) : Prop where
  scheme : IsScheme u.scheme
  authority : ∀ a ∈ u.authority, a.Formed
  -- Only the URL of a file may do without a host.
  special : isSpecial u.scheme = true →
    ∃ a ∈ u.authority, u.scheme ≠ fileScheme → a.host ≠ []
  file : u.scheme = fileScheme → ∀ a ∈ u.authority,
    a.user = [] ∧ a.password = [] ∧ a.port = none ∧ isDriveLetter a.host = false
  path : ∀ segments, u.path = .segments segments → ∀ s ∈ segments, ∀ c ∈ s, isPlain c = true
  -- After an authority comes a slash or nothing.
  rooted : u.authority ≠ none → ∃ segments, u.path = .segments segments

/-- What the host of a URL is read as once more. -/
def rereadHost (u : Url) : Except ParseError (List Char) :=
  match u.authority with
  | none => .ok []
  | some a =>
    if u.scheme = fileScheme ∧ a.host = [] then .ok [] else readHost (isSpecial u.scheme) a.host

/-- What matters of a URL beside its path: the scheme, the host and the query. -/
def gist (u : Url) : List Char × Option (List Char) × Option (List Char) :=
  (u.scheme, u.authority.map (·.host), u.query)

-- What stands between the scheme and the path.
def frontText (u : Url) : List Char :=
  match u.authority with
  | some a => a.render
  | none => if ['/', '/'].isPrefixOf u.path.render then ['/', '.'] else []

variable {u : Url}

theorem renderChars_eq (h : u.fragment = none) : u.renderChars =
    u.scheme ++ ':' :: (u.frontText ++ u.path.render ++ queryText u.query) := by
  rw [renderChars, h]
  show u.scheme ++ ':' :: u.frontText ++ u.path.render ++ queryText u.query ++ [] = _
  simp only [List.append_nil, List.append_assoc, List.cons_append]

theorem Formed.mem_path (hu : u.Formed) {segments : List (List Char)}
    (hpath : u.path = .segments segments) {c : Char} (h : c ∈ u.path.render) :
    isPlain c = true := by
  rw [hpath, Path.render] at h
  obtain ⟨s, hs, hc⟩ := List.mem_flatMap.mp h
  rcases List.mem_cons.mp hc with rfl | hc
  · rfl
  · exact hu.path segments hpath s hs c hc

theorem Formed.mem_front (hu : u.Formed) {c : Char} (h : c ∈ u.frontText) : isPlain c = true := by
  rw [frontText] at h
  split at h
  · rename_i a ha
    rw [Authority.render_eq] at h
    rcases List.mem_cons.mp h with rfl | h
    · rfl
    rcases List.mem_cons.mp h with rfl | h
    · rfl
    exact ((hu.authority a ha).text_chars h).1
  · split at h
    · simp only [List.mem_cons, List.not_mem_nil, or_false] at h
      rcases h with rfl | rfl <;> rfl
    · cases h

-- What the query of a link may hold.
theorem visible_of_query {c : Char} (h : EncodeSet.specialQuery c = false) :
    0x20 < c.toNat ∧ c ≠ '#' := by
  simp only [EncodeSet.specialQuery, EncodeSet.query, EncodeSet.control, Bool.or_eq_false_iff,
    List.contains_cons, List.contains_nil, beq_eq_false_iff_ne, decide_eq_false_iff_not] at h
  obtain ⟨⟨⟨hlow, -⟩, hblank, -, hhash, -⟩, -⟩ := h
  refine ⟨?_, hhash⟩
  have hne : c.toNat ≠ 0x20 := fun heq => hblank (Char.toNat_inj.mp heq)
  omega

section Reading

variable {segments : List (List Char)}

-- A path with segments begins with a slash.
theorem Path.render_segments (h : segments ≠ []) :
    ∃ rest, (Path.segments segments).render = '/' :: rest := by
  cases segments with
  | nil => exact absurd rfl h
  | cons s segments => exact ⟨s ++ segments.flatMap ('/' :: ·), rfl⟩

-- A query in its usual form stays as it is.
theorem map_percentEncode_query {set : EncodeSet}
    (hset : ∀ c, EncodeSet.specialQuery c = false → set c = false)
    {query : Option (List Char)} (h : ∀ q ∈ query, ∀ c ∈ q, EncodeSet.specialQuery c = false) :
    query.map (percentEncode set) = query := by
  cases query with
  | none => rfl
  | some q => exact congrArg some (percentEncode_eq_self fun c hc => hset c (h q rfl c hc))

theorem Authority.Formed.stops_text {a : Authority} (ha : a.Formed) (hhost : a.host ≠ [])
    (rest : List Char) : Stops (isSlash true) (a.text ++ rest) := by
  intro c hc
  have htext : a.text ≠ [] :=
    List.append_ne_nil_of_right_ne_nil _ (List.append_ne_nil_of_left_ne_nil hhost _)
  cases hcs : a.text with
  | nil => exact absurd hcs htext
  | cons d cs =>
    rw [hcs] at hc
    cases hc
    exact (ha.text_chars (hcs ▸ List.mem_cons_self)).2

-- Without an authority nothing can be taken for one.
theorem Formed.front_of_none (hu : u.Formed) (hauth : u.authority = none) :
    isSpecial u.scheme = false ∧
      ['/', '/'].isPrefixOf (u.frontText ++ u.path.render) = false := by
  refine ⟨Bool.eq_false_iff.mpr fun hs => ?_, ?_⟩
  · obtain ⟨a, ha, -⟩ := hu.special hs
    rw [hauth] at ha
    cases ha
  · rw [frontText, hauth]
    dsimp only
    split
    · rfl
    · rename_i hprefix
      exact Bool.eq_false_iff.mpr hprefix

theorem front_of_authority {a : Authority} (hauth : u.authority = some a) (rest : List Char) :
    u.frontText ++ rest = '/' :: '/' :: (a.text ++ rest) := by
  rw [frontText, hauth]
  dsimp only
  rw [Authority.render_eq]
  rfl

-- An authority ends where the path begins.
theorem Authority.Formed.stops_path {a : Authority} (ha : a.Formed) (special : Bool)
    (hne : segments ≠ []) :
    (∀ c ∈ a.text, (!isSlash special c) = true) ∧
      Stops (fun c => !isSlash special c) (Path.segments segments).render := by
  refine ⟨fun c hc => ?_, ?_⟩
  · obtain ⟨hslash, hback⟩ := Bool.or_eq_false_iff.mp (ha.text_chars hc).2
    rw [isSlash_eq_false (of_decide_eq_false hslash) (by simpa using hback)]
    rfl
  · obtain ⟨rest, hrest⟩ := Path.render_segments hne
    rw [hrest]
    exact stops_cons rfl

-- The slashes before the authority are taken off.
theorem Authority.Formed.front_text {a : Authority} (ha : a.Formed) {special : Bool}
    (hhost : special = true → a.host ≠ []) (rest : List Char) :
    (if special then some (('/' :: '/' :: (a.text ++ rest)).dropWhile (isSlash true))
      else if ['/', '/'].isPrefixOf ('/' :: '/' :: (a.text ++ rest)) then
        some (('/' :: '/' :: (a.text ++ rest)).drop 2)
      else none) = some (a.text ++ rest) := by
  cases special with
  | false => rfl
  | true => exact congrArg some (dropWhile_of_stops (ha.stops_text (hhost rfl) _))

theorem Formed.readOther_text (hu : u.Formed) (hscheme : u.scheme ≠ fileScheme)
    (hpath : u.path = .segments segments) (hne : segments ≠ [])
    (hquery : ∀ q ∈ u.query, ∀ c ∈ q, EncodeSet.specialQuery c = false) :
    (readOther u.scheme (u.frontText ++ u.path.render ++ queryText u.query)).map gist =
      u.rereadHost.map fun host => (u.scheme, u.authority.map fun _ => host, u.query) := by
  have hplain : ∀ c ∈ u.frontText ++ u.path.render, isPlain c = true := fun c hc =>
    (List.mem_append.mp hc).elim hu.mem_front (hu.mem_path hpath)
  have htail := splitTail_eq hplain fun q hq hmem =>
    (visible_of_query (hquery q hq _ hmem)).2 rfl
  have hsame : u.query.map (percentEncode (if isSpecial u.scheme then .specialQuery else .query)) =
      u.query := by
    refine map_percentEncode_query (fun c hc => ?_) hquery
    split
    · exact hc
    · exact (Bool.or_eq_false_iff.mp hc).1
  rw [readOther, htail]
  simp only [hsame]
  cases hauth : u.authority with
  | none =>
    obtain ⟨hspecial, hfront⟩ := hu.front_of_none hauth
    simp only [hspecial, hfront, rereadHost, hauth]
    rfl
  | some a =>
    have ha := hu.authority a hauth
    have hhost : isSpecial u.scheme = true → a.host ≠ [] := by
      intro hs
      obtain ⟨b, hb, hbhost⟩ := hu.special hs
      rw [hauth] at hb
      cases hb
      exact hbhost hscheme
    obtain ⟨hinner, hstop⟩ := ha.stops_path (isSpecial u.scheme) hne
    obtain ⟨rest, hrest⟩ := Path.render_segments hne
    have hnonempty : (Path.segments segments).render.isEmpty = false := by
      rw [hrest]
      rfl
    have hnofile : ¬(u.scheme = fileScheme ∧ a.host = []) := fun h => hscheme h.1
    simp only [front_of_authority hauth, ha.front_text hhost, hpath, takeWhile_append hinner hstop,
      dropWhile_append hinner hstop, hnonempty, Bool.false_and, rereadHost, hauth, if_neg hnofile]
    -- of what is read of the authority only the host is looked at
    let finish : List Char × List Char → List Char × Option (List Char) × Option (List Char) :=
      fun parts => (u.scheme, some parts.1, u.query)
    have hread := congrArg (Except.map finish) (ha.readAuthority_text hhost)
    refine Eq.trans ?_ (hread.trans ?_)
    · cases readAuthority u.scheme a.text false <;> rfl
    · cases readHost (isSpecial u.scheme) a.host <;> rfl

theorem afterSlash?_cons (cs : List Char) : afterSlash? ('/' :: cs) = some cs := rfl

theorem Formed.readFile_text (hu : u.Formed) (hscheme : u.scheme = fileScheme)
    (hpath : u.path = .segments segments) (hne : segments ≠ [])
    (hquery : ∀ q ∈ u.query, ∀ c ∈ q, EncodeSet.specialQuery c = false) :
    (readFile (u.frontText ++ u.path.render ++ queryText u.query)).map Url.query =
      u.rereadHost.map fun _ => u.query := by
  have hplain : ∀ c ∈ u.frontText ++ u.path.render, isPlain c = true := fun c hc =>
    (List.mem_append.mp hc).elim hu.mem_front (hu.mem_path hpath)
  have htail := splitTail_eq hplain fun q hq hmem =>
    (visible_of_query (hquery q hq _ hmem)).2 rfl
  have hsame : u.query.map (fun q => percentEncode .specialQuery (dropBreaks q)) = u.query := by
    cases hq : u.query with
    | none => rfl
    | some q =>
      have hbreaks := dropBreaks_eq fun c hc => (visible_of_query (hquery q hq c hc)).1
      rw [Option.map_some, hbreaks, percentEncode_eq_self (hquery q hq)]
  have hspecial : isSpecial u.scheme = true := by
    rw [hscheme]
    rfl
  obtain ⟨a, ha, -⟩ := hu.special hspecial
  obtain ⟨huser, hpassword, hport, hdrive⟩ := hu.file hscheme a ha
  have hformed := hu.authority a ha
  have htext : a.text = a.host := by
    rw [Authority.text, Authority.userinfoText, Authority.portText, huser, hpassword, hport]
    exact List.append_nil _
  have hfront := front_of_authority ha u.path.render
  obtain ⟨hinner, hstop⟩ := hformed.stops_path true hne
  rw [htext] at hfront hinner
  have hbreaks : dropBreaks a.host = a.host :=
    dropBreaks_eq fun c hc => (isPlain_iff.mp (isInner_iff.mp (hformed.host.chars c hc)).1).1
  rw [readFile, htail, hfront, hpath]
  simp only [hsame, afterSlash?_cons, Option.bind_some, takeWhile_append hinner hstop,
    dropWhile_append hinner hstop, hbreaks, hdrive, rereadHost, Option.mem_def.mp ha, hscheme]
  cases hhost : a.host with
  | nil => rfl
  | cons c cs =>
    have hnonempty : ¬(True ∧ c :: cs = []) := fun h => List.cons_ne_nil c cs h.2
    rw [if_neg hnonempty]
    show Except.map Url.query (Except.bind (normalizeHost (c :: cs)) _) =
      Except.map _ (normalizeHost (c :: cs))
    cases normalizeHost (c :: cs) <;> rfl

section Parse

variable (hu : u.Formed) (hpath : u.path = .segments segments) (hne : segments ≠ [])
  (hquery : ∀ q ∈ u.query, ∀ c ∈ q, EncodeSet.specialQuery c = false)
  (hfragment : u.fragment = none)
include hu hpath hne hquery hfragment

omit hne in
-- The text is not changed before it is cut at the colon after its scheme.
theorem Formed.parse_eq : parse u.render =
    if u.scheme = fileScheme then readFile (u.frontText ++ u.path.render ++ queryText u.query)
    else readOther u.scheme (u.frontText ++ u.path.render ++ queryText u.query) := by
  have hvisible : ∀ c ∈ u.renderChars, 0x20 < c.toNat := by
    intro c hc
    rw [renderChars_eq hfragment] at hc
    rcases List.mem_append.mp hc with hc | hc
    · exact (hu.scheme.visible c hc).1
    rcases List.mem_cons.mp hc with rfl | hc
    · decide
    rcases List.mem_append.mp hc with hc | hc
    · exact (isPlain_iff.mp ((List.mem_append.mp hc).elim hu.mem_front (hu.mem_path hpath))).1
    · cases hq : u.query with
      | none =>
        rw [hq] at hc
        cases hc
      | some q =>
        rw [hq] at hc
        rcases List.mem_cons.mp hc with rfl | hc
        · decide
        · exact (visible_of_query (hquery q hq c hc)).1
  have hcolon : ∀ c ∈ u.scheme, decide (c ≠ ':') = true :=
    fun c hc => decide_eq_true (hu.scheme.visible c hc).2
  rw [parse, render, String.toList_ofList, trimEdges_eq hvisible, dropBreaks_eq hvisible,
    renderChars_eq hfragment, splitScheme?_eq hu.scheme]
  dsimp only
  rw [dropWhile_append hcolon (stops_cons rfl)]
  rfl

/-- The text of a URL that is no file's is read with the host in its usual form. -/
theorem Formed.parse_render_gist (hscheme : u.scheme ≠ fileScheme) :
    (parse u.render).map gist =
      u.rereadHost.map fun host => (u.scheme, u.authority.map fun _ => host, u.query) := by
  rw [hu.parse_eq hpath hquery hfragment, if_neg hscheme]
  exact hu.readOther_text hscheme hpath hne hquery

/-- The text of a URL is read with the same query.  All that can go wrong is that the host in its
usual form is not accepted. -/
theorem Formed.parse_render :
    (parse u.render).map Url.query = u.rereadHost.map fun _ => u.query := by
  by_cases hscheme : u.scheme = fileScheme
  · rw [hu.parse_eq hpath hquery hfragment, if_pos hscheme]
    exact hu.readFile_text hscheme hpath hne hquery
  · have hgist := hu.parse_render_gist hpath hne hquery hfragment hscheme
    cases hparse : parse u.render <;> cases hhost : u.rereadHost <;> rw [hparse, hhost] at hgist
    · exact congrArg Except.error (Except.error.inj hgist)
    · cases hgist
    · cases hgist
    · exact congrArg (fun gist => Except.ok gist.2.2) (Except.ok.inj hgist)

end Parse

end Reading

end Vouch.Url
