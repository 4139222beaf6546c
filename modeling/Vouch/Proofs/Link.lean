import Vouch.Link
import Vouch.Proofs.Identifier
import Vouch.Proofs.Url.Form
import Vouch.Proofs.Url.Parts

/-!
# Links lead back

A link carries its flow and its token so that they can be read from its text.  The one thing that
can go wrong is outside its query: the text is refused as a whole if the host of the public
address, in the form in which links carry it, is not accepted.
-/

namespace Vouch

open Url (Formed PlainSegments)

theorem Url.Path.closed_plain {file : Bool} {path : Url.Path}
    (h : ∀ segments, path = .segments segments → PlainSegments segments) :
    ∀ segments, path.closed file = .segments segments → PlainSegments segments := by
  intro segments hclosed
  have hempty : ∀ c ∈ ([] : List Char), isPlain c = true := fun _ hc => (nomatch hc)
  cases path with
  | rootless text => cases text <;> cases hclosed
  | segments list =>
    have hlist : PlainSegments (list ++ [[]]) := fun s hs =>
      (List.mem_append.mp hs).elim (h list rfl s) fun hs => List.mem_singleton.mp hs ▸ hempty
    simp only [Url.Path.closed] at hclosed
    split at hclosed
    · cases hclosed
      exact h _ rfl
    split at hclosed
    · cases hclosed
      refine (Url.resolvePieces_plain .nil fun p hp => ?_).dropEmpty
      obtain ⟨s, hs, rfl⟩ := List.mem_map.mp hp
      exact hlist s hs
    · cases hclosed
      exact hlist

theorem Url.Path.closed_segments {file : Bool} {path : Url.Path}
    (h : ∃ segments, path = .segments segments) :
    ∃ segments, path.closed file = .segments segments := by
  obtain ⟨list, rfl⟩ := h
  simp only [Url.Path.closed]
  split
  · exact ⟨_, rfl⟩
  split <;> exact ⟨_, rfl⟩

namespace PublicUrl

variable {s : String} {p : PublicUrl} {flow : FlowId} {token : String} {url : Url}

/-- The public address is in its usual form. -/
theorem formed_of_parse (h : PublicUrl.parse s = .ok p) : p.base.Formed := by
  unfold PublicUrl.parse at h
  simp only [bind, Except.bind, pure, Except.pure] at h
  split at h
  · cases h
  · rename_i u hread
    cases h
    have hu := Url.formed_of_parse hread
    exact ⟨hu.scheme, hu.authority, hu.special, hu.file, Url.Path.closed_plain hu.path,
      fun hsome => Url.Path.closed_segments (hu.rooted hsome)⟩

/-- The query of a link. -/
def linkQuery (flow : FlowId) (token : String) : List Char :=
  Url.formPair flowName.toList flow.toHex.toList ++
    '&' :: Url.formPair tokenName.toList token.toList

theorem link_ok (h : p.link flow token = .ok url) : ∃ before, p.base.path = .segments before ∧
    url = { p.base with
      path := .segments (before.dropLast ++ linkPath)
      query := some (linkQuery flow token)
      fragment := none } := by
  unfold PublicUrl.link Url.resolve at h
  simp only [bind, Except.bind, pure, Except.pure] at h
  split at h
  · cases h
  · rename_i u hresolve
    split at hresolve
    · cases hresolve
    · rename_i before hpath
      cases hresolve
      cases h
      exact ⟨before, hpath, rfl⟩

-- Only an address without an authority may be none that links can be made under.
theorem link_total (hp : p.base.Formed) (hauthority : p.base.authority ≠ none) (flow : FlowId)
    (token : String) : ∃ url, p.link flow token = .ok url := by
  obtain ⟨segments, hpath⟩ := hp.rooted hauthority
  rw [PublicUrl.link, Url.resolve, hpath]
  exact ⟨_, rfl⟩

theorem formed_of_link (hp : p.base.Formed) (h : p.link flow token = .ok url) : url.Formed := by
  obtain ⟨before, hpath, rfl⟩ := link_ok h
  refine ⟨hp.scheme, hp.authority, hp.special, hp.file, fun segments hsegments => ?_,
    fun _ => ⟨_, rfl⟩⟩
  cases hsegments
  intro s hs
  rcases List.mem_append.mp hs with hs | hs
  · exact hp.path before hpath s (List.dropLast_subset before hs)
  · simp only [linkPath, List.mem_cons, List.not_mem_nil, or_false] at hs
    rcases hs with rfl | rfl <;> exact List.all_iff_forall_prop.mp (by decide)

-- The query of a link holds nothing that would have to be replaced.
theorem mem_linkQuery {c : Char} (h : c ∈ linkQuery flow token) :
    Url.EncodeSet.specialQuery c = false := by
  have hform : ∀ c, Url.isFormChar c = true → Url.EncodeSet.specialQuery c = false := by
    intro c hc
    have hascii : c.toNat < 128 := by
      simp only [Url.isFormChar, Bool.or_eq_true, decide_eq_true_eq] at hc
      rcases hc with (hc | rfl) | rfl
      · exact (Url.toNat_of_isFormSafe hc).1
      all_goals decide
    exact Text.forall_ascii (p := fun c => Url.isFormChar c = true →
      Url.EncodeSet.specialQuery c = false) (by decide) hascii hc
  have hpair : ∀ name value, c ∈ Url.formPair name value →
      Url.EncodeSet.specialQuery c = false := by
    intro name value hc
    rcases List.mem_append.mp hc with hc | hc
    · exact hform c (Url.isFormChar_of_mem_formEncode hc)
    rcases List.mem_cons.mp hc with rfl | hc
    · decide
    · exact hform c (Url.isFormChar_of_mem_formEncode hc)
  rcases List.mem_append.mp h with h | h
  · exact hpair _ _ h
  rcases List.mem_cons.mp h with rfl | h
  · decide
  · exact hpair _ _ h

theorem formPairs_linkQuery : Url.formPairs (linkQuery flow token) =
    [(flowName.toList, flow.toHex.toList), (tokenName.toList, token.toList)] := by
  rw [linkQuery, Url.formPairs_cons, Url.formPairs_formPair]

/-! ## Reading links -/

/-- Whether the host of the public address is accepted in the form in which links carry it. -/
def hostReads (p : PublicUrl) : Bool :=
  p.base.rereadHost.toBool

theorem parse_link (hp : p.base.Formed) (h : p.link flow token = .ok url) :
    (Url.parse url.render).map Url.query =
      p.base.rereadHost.map fun _ => some (linkQuery flow token) := by
  have hformed := formed_of_link hp h
  obtain ⟨before, hpath, rfl⟩ := link_ok h
  refine hformed.parse_render rfl (List.append_ne_nil_of_right_ne_nil _ (List.cons_ne_nil _ _))
    (fun q hq c hc => ?_) rfl
  cases hq
  exact mem_linkQuery hc

/-- A link leads back to its flow and its token, if its text is accepted at all. -/
theorem readLink?_link (hp : p.base.Formed) (h : p.link flow token = .ok url) :
    readLink? url.render = if p.hostReads then some (flow, token) else none := by
  have hparse := parse_link hp h
  rw [hostReads, readLink?]
  cases hread : Url.parse url.render with
  | error e =>
    cases hhost : p.base.rereadHost with
    | error e' => rfl
    | ok host =>
      rw [hread, hhost] at hparse
      cases hparse
  | ok u =>
    cases hhost : p.base.rereadHost with
    | error e' =>
      rw [hread, hhost] at hparse
      cases hparse
    | ok host =>
      rw [hread, hhost] at hparse
      have hquery : u.query = some (linkQuery flow token) := Except.ok.inj hparse
      have hflow : Url.lastValue? flowName
          [(flowName.toList, flow.toHex.toList), (tokenName.toList, token.toList)] =
          some flow.toHex := by
        have hlookup : List.lookup flowName.toList
            [(tokenName.toList, token.toList), (flowName.toList, flow.toHex.toList)] =
            some flow.toHex.toList := rfl
        rw [Url.lastValue?, List.reverse_cons]
        exact (congrArg (Option.map String.ofList) hlookup).trans
          (congrArg some String.ofList_toList)
      have htoken : Url.lastValue? tokenName
          [(flowName.toList, flow.toHex.toList), (tokenName.toList, token.toList)] =
          some token :=
        congrArg some String.ofList_toList
      simp only [Except.toOption, Option.bind_eq_bind, Option.bind_some, hquery, Option.getD_some,
        formPairs_linkQuery, hflow, htoken, Id.ofHex_toHex]
      rfl

/-! ## Writing public addresses -/

/-- A public address that is written in its usual form, with its host in any form, is accepted if
its host is. -/
theorem parse_render {u : Url} {host : List Char} (hu : u.Formed)
    {segments : List (List Char)} (hpath : u.path = .segments segments) (hne : segments ≠ [])
    (hquery : u.query = none) (hfragment : u.fragment = none)
    (hscheme : u.scheme ≠ Url.fileScheme) (hhost : u.rereadHost = .ok host) :
    ∃ p, PublicUrl.parse u.render = .ok p ∧ p.base.scheme = u.scheme ∧
      p.base.authority.map (·.host) = u.authority.map fun _ => host := by
  have hgist := hu.parse_render_gist hpath hne (by rw [hquery]; exact fun q hq => (nomatch hq))
    hfragment hscheme
  rw [hhost] at hgist
  cases hparse : Url.parse u.render with
  | error e =>
    rw [hparse] at hgist
    cases hgist
  | ok v =>
    rw [hparse] at hgist
    have hread : PublicUrl.parse u.render =
        .ok ⟨{ v with path := v.path.closed (v.scheme = Url.fileScheme) }⟩ := by
      rw [PublicUrl.parse, hparse]
      rfl
    have hparts := Prod.mk.inj (Except.ok.inj hgist)
    exact ⟨_, hread, hparts.1, (Prod.mk.inj hparts.2).1⟩

/-- Whether links are read is up to the host alone. -/
theorem hostReads_eq {host : List Char} (hscheme : p.base.scheme ≠ Url.fileScheme)
    (hhost : p.base.authority.map (·.host) = some host) :
    p.hostReads = (Url.readHost (Url.isSpecial p.base.scheme) host).toBool := by
  obtain ⟨a, ha, rfl⟩ := Option.map_eq_some_iff.mp hhost
  have hnofile : ¬(p.base.scheme = Url.fileScheme ∧ a.host = []) := fun h => hscheme h.1
  rw [hostReads, Url.rereadHost, ha]
  dsimp only
  rw [if_neg hnofile]

/-- A host of a scheme, and nothing under it. -/
def site (scheme host : List Char) : Url :=
  ⟨scheme, some ⟨[], [], host, none⟩, .segments [[]], none, none⟩

theorem render_site (scheme host : List Char) :
    (site scheme host).render = String.ofList (scheme ++ "://".toList ++ host ++ ['/']) := by
  rw [Url.render]
  simp [Url.renderChars, Url.renderBase, site, Url.Authority.render, Url.Path.render]

theorem formed_site {scheme host : List Char} (hscheme : Url.IsScheme scheme)
    (hnofile : scheme ≠ Url.fileScheme) (hhost : Url.IsHost host) (hne : host ≠ []) :
    (site scheme host).Formed := by
  have hnil : ∀ c ∈ ([] : List Char), Url.isInner c = true := fun _ hc => (nomatch hc)
  have hauthority : (⟨[], [], host, none⟩ : Url.Authority).Formed :=
    ⟨hnil, hnil, hhost, fun _ hport => (nomatch hport), fun hempty => absurd hempty hne⟩
  refine ⟨hscheme, fun a ha => ?_, fun _ => ⟨_, rfl, fun _ => hne⟩,
    fun hfile => absurd hfile hnofile, fun segments hsegments s hs c hc => ?_, fun _ => ⟨_, rfl⟩⟩
  · cases ha
    exact hauthority
  · cases hsegments
    rw [List.mem_singleton.mp hs] at hc
    cases hc

/-- A site can be a public address if its host is accepted.  Links under it are read if what the
host was made into is accepted, too. -/
theorem parse_site {scheme host name : List Char} (hscheme : Url.IsScheme scheme)
    (hspecial : Url.isSpecial scheme = true) (hnofile : scheme ≠ Url.fileScheme)
    (hhost : Url.IsHost host) (hne : host ≠ []) (hread : Url.normalizeHost host = .ok name) :
    ∃ p, PublicUrl.parse (site scheme host).render = .ok p ∧ p.base.authority ≠ none ∧
      p.hostReads = (Url.normalizeHost name).toBool := by
  have hhostReads : (site scheme host).rereadHost = .ok name := by
    rw [Url.rereadHost, site]
    dsimp only
    rw [if_neg fun h => hnofile h.1, Url.readHost, hspecial, if_pos rfl, hread]
  obtain ⟨p, hparse, hpscheme, hauthority⟩ := parse_render (formed_site hscheme hnofile hhost hne)
    rfl (List.cons_ne_nil _ _) rfl rfl hnofile hhostReads
  have hname : p.base.authority.map (·.host) = some name := hauthority
  have hscheme : p.base.scheme = scheme := hpscheme
  refine ⟨p, hparse, fun hnone => ?_, ?_⟩
  · rw [hnone] at hname
    cases hname
  · rw [hostReads_eq (by rw [hscheme]; exact hnofile) hname, hscheme, Url.readHost, hspecial,
      if_pos rfl]

end PublicUrl

end Vouch
