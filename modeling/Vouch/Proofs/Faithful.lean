import Vouch.Proofs.Link
import Vouch.Proofs.Url.Stable

/-!
# What a link is read as

A text is read as a link exactly if it is a URL whose query names a flow and a token.  A name may be
given more than once: its last value counts.  The flow is named in hexadecimal digits of either
case.

A link that was made leads back to its flow and its token, unless a label of its host is too long in
the form in which the link carries it.
-/

namespace Vouch

namespace Url

/-- The last pair with a name has this value. -/
def LastValue (pairs : List (List Char × List Char)) (name value : List Char) : Prop :=
  ∃ before after, pairs = before ++ (name, value) :: after ∧ ∀ pair ∈ after, pair.1 ≠ name

theorem lastValue?_eq_some_iff {name value : String} {pairs : List (List Char × List Char)} :
    lastValue? name pairs = some value ↔ LastValue pairs name.toList value.toList := by
  have hvalue : ∀ cs : List Char, String.ofList cs = value ↔ cs = value.toList := fun cs =>
    ⟨fun h => by rw [← h, String.toList_ofList], fun h => by rw [h, String.ofList_toList]⟩
  rw [lastValue?, Option.map_eq_some_iff]
  simp only [hvalue, exists_eq_right, List.lookup_eq_some_iff]
  constructor
  · rintro ⟨after, before, hpairs, hafter⟩
    refine ⟨before.reverse, after.reverse, ?_, fun pair hpair => ?_⟩
    · rw [← List.reverse_reverse pairs, hpairs]
      simp
    · exact (bne_iff_ne.mp (hafter pair (List.mem_reverse.mp hpair))).symm
  · rintro ⟨before, after, rfl, hafter⟩
    refine ⟨after.reverse, before.reverse, by simp, fun pair hpair => ?_⟩
    exact bne_iff_ne.mpr (hafter pair (List.mem_reverse.mp hpair)).symm

end Url

/-- Whether a text is a URL whose query carries the flow and the token. -/
def Carries (link : String) (flow : FlowId) (token : String) : Prop :=
  ∃ url digits, Url.parse link = .ok url ∧
    Url.LastValue (Url.formPairs (url.query.getD [])) PublicUrl.flowName.toList digits ∧
    digits.map Char.toLower = flow.toHex.toList ∧
    Url.LastValue (Url.formPairs (url.query.getD [])) PublicUrl.tokenName.toList token.toList

/-- A text is read as a link exactly if it carries a flow and a token. -/
theorem readLink?_eq_some_iff {link token : String} {flow : FlowId} :
    readLink? link = some (flow, token) ↔ Carries link flow token := by
  have htoOption : ∀ {ε α : Type} {x : Except ε α} {a : α}, x.toOption = some a ↔ x = .ok a := by
    intro ε α x a
    cases x <;> simp [Except.toOption]
  simp only [readLink?, Option.bind_eq_bind, Option.bind_eq_some_iff, htoOption,
    Url.lastValue?_eq_some_iff, Id.ofHex_eq_ok_iff, Option.pure_def, Option.some.injEq,
    Prod.mk.injEq]
  constructor
  · rintro ⟨url, hurl, digits, hdigits, flow, hflow, token, htoken, rfl, rfl⟩
    exact ⟨url, digits.toList, hurl, hdigits, hflow, htoken⟩
  · rintro ⟨url, digits, hurl, hdigits, hflow, htoken⟩
    refine ⟨url, hurl, String.ofList digits, ?_, flow, ?_, token, htoken, rfl, rfl⟩
    · rwa [String.toList_ofList]
    · rwa [String.toList_ofList]

/-! ## Links under a public address -/

namespace PublicUrl

variable {s : String} {p : PublicUrl}

/-- Whether a label of the host is too long to be read.  Only special schemes have labels. -/
def hasLongLabel (p : PublicUrl) : Bool :=
  Url.isSpecial p.base.scheme && p.base.authority.any fun a => Idna.hasOverlong a.host

-- Reading an address closes its path and leaves the rest as it is.
theorem host_of_parse (hp : PublicUrl.parse s = .ok p) : ∀ a ∈ p.base.authority,
    p.base.scheme = Url.fileScheme ∧ a.host = [] ∨
      ∃ cs, Url.readHost (Url.isSpecial p.base.scheme) cs = .ok a.host := by
  unfold PublicUrl.parse at hp
  simp only [bind, Except.bind, pure, Except.pure] at hp
  split at hp
  · cases hp
  · rename_i u hread
    cases hp
    have hhost := Url.host_of_parse hread
    exact hhost

/-- The host of an address that was read is accepted once more, unless a label of it is too long. -/
theorem hostReads_of_parse (hp : PublicUrl.parse s = .ok p) : p.hostReads = !p.hasLongLabel := by
  have hhost := host_of_parse hp
  rw [hostReads, hasLongLabel, Url.rereadHost]
  cases ha : p.base.authority with
  | none =>
    rw [Option.any_none, Bool.and_false]
    rfl
  | some a =>
    dsimp only
    rw [Option.any_some]
    split
    · rename_i hfile
      rw [hfile.2, Bool.and_eq_false_imp.mpr fun _ => Url.hasOverlong_eq_false List.not_mem_nil]
      rfl
    · rename_i hother
      obtain ⟨cs, hread⟩ := (hhost a ha).resolve_left hother
      rw [Url.readHost_again hread]
      split
      · rename_i hlong
        rw [hlong]
        rfl
      · rename_i hshort
        rw [Bool.eq_false_iff.mpr hshort]
        rfl

/-- Under an address that was read a link leads back to what it was made of, unless a label of the
host is too long, and what a text is read as is what it carries. -/
theorem links_faithful (hp : PublicUrl.parse s = .ok p) :
    (∀ flow token url, p.link flow token = .ok url →
      readLink? url.render = if p.hasLongLabel then none else some (flow, token)) ∧
    ∀ link flow token, readLink? link = some (flow, token) ↔ Carries link flow token := by
  refine ⟨fun flow token url hlink => ?_, fun _ _ _ => readLink?_eq_some_iff⟩
  rw [p.readLink?_link (formed_of_parse hp) hlink, hostReads_of_parse hp]
  cases p.hasLongLabel <;> rfl

end PublicUrl

namespace Sample

def someFlow : FlowId := ⟨List.replicate 16 0xA7, by decide⟩

/-- A token may hold any characters. -/
theorem odd_token_carried : ∃ p : PublicUrl, PublicUrl.parse "https://vouch.example/" = .ok p ∧
    ∃ url, p.link someFlow "a&b=c +%#é\n" = .ok url ∧
      readLink? url.render = some (someFlow, "a&b=c +%#é\n") := by
  have hscheme : Url.IsScheme "https".toList :=
    ⟨List.all_iff_forall_prop.mp (by decide), by decide, by decide⟩
  have hallowed : ∀ c ∈ "vouch.example".toList, Url.isForbiddenInDomain c = false :=
    List.all_iff_forall_prop.mp (by decide)
  have hascii : Idna.toAscii? "vouch.example".toList = some "vouch.example".toList :=
    Idna.toAscii?_ascii (List.all_iff_forall_prop.mp (by decide)) (by decide)
  have hname : Url.normalizeHost "vouch.example".toList = .ok "vouch.example".toList :=
    Url.normalizeHost_domain hascii (by decide) hallowed (by decide)
  obtain ⟨p, hp, hauthority, hreads⟩ := PublicUrl.parse_site hscheme (by decide) (by decide)
    (.of_allowed hallowed) (by decide) hname
  rw [hname] at hreads
  rw [PublicUrl.render_site] at hp
  obtain ⟨url, hlink⟩ :=
    p.link_total (PublicUrl.formed_of_parse hp) hauthority someFlow "a&b=c +%#é\n"
  have hshort : p.hasLongLabel = false := by
    have hnot : (!p.hasLongLabel) = true := (PublicUrl.hostReads_of_parse hp).symm.trans hreads
    simpa using hnot
  have hread := (PublicUrl.links_faithful hp).1 someFlow "a&b=c +%#é\n" url hlink
  rw [hshort] at hread
  exact ⟨p, hp, url, hlink, hread⟩

/-- Under an address whose host takes up too much in Punycode no link is read. -/
theorem far_apart_link_refused : ∃ p : PublicUrl,
    PublicUrl.parse (.ofList ("http://".toList ++ Url.farApart 700 ++ ['/'])) = .ok p ∧
    ∃ url, p.link someFlow "token" = .ok url ∧ readLink? url.render = none := by
  have hscheme : Url.IsScheme "http".toList :=
    ⟨List.all_iff_forall_prop.mp (by decide), by decide, by decide⟩
  have hideographs := Url.isIdeograph_farApart (n := 700) (by decide)
  have hlength : (Url.farApart 700).length = 700 := by
    rw [Url.farApart, List.length_map, List.length_range]
  obtain ⟨name, hname, hrefused⟩ := Url.normalizeHost_spaced hideographs
    (Url.spaced_farApart (by decide)) (by omega) (by rw [hlength]; decide)
  obtain ⟨p, hp, hauthority, hreads⟩ := PublicUrl.parse_site hscheme (by decide) (by decide)
    (Url.isHost_ideographs hideographs) (List.ne_nil_of_length_pos (by omega)) hname
  rw [hrefused] at hreads
  rw [PublicUrl.render_site] at hp
  have hbase := PublicUrl.formed_of_parse hp
  obtain ⟨url, hlink⟩ := p.link_total hbase hauthority someFlow "token"
  refine ⟨p, hp, url, hlink, ?_⟩
  rw [p.readLink?_link hbase hlink, hreads]
  rfl

end Sample

end Vouch
