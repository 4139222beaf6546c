import Vouch.Proofs.Link

/-!
# Addresses that links can be made under

Every URL can be the public address, but not every URL has a path that links could be put under.
A scheme without special rules that no slash follows is only a name for the rest of the text, as
in a mail address; so is a host with its port when the scheme in front of it was left out.  Under
such an address no link can be made, and under any other one every link can.
-/

namespace Vouch

namespace Url

/-- Whether a text reads as a scheme without special rules and something else that no slash begins.
-/
def isRootless (s : String) : Bool :=
  match splitScheme? (dropBreaks (trimEdges s.toList)) with
  | some (scheme, rest) => !isSpecial scheme && rest.head? ≠ some '/'
  | none => false

theorem readOther_path {scheme rest : List Char} {u : Url} (h : readOther scheme rest = .ok u) :
    if !isSpecial scheme && rest.head? ≠ some '/' then ∃ text, u.path = .rootless text
    else ∃ segments, u.path = .segments segments := by
  obtain ⟨-, h⟩ := readOther_cases h
  rcases h with ⟨cs, atEnd, a, after, path, -, -, hpath, hspecial | hslash⟩ |
    ⟨hspecial, -, ⟨path, hpath, hslash⟩ | ⟨text, hpath, hslash⟩⟩
  · rw [hspecial, Bool.not_true, Bool.false_and, if_neg Bool.false_ne_true, hpath]
    exact readPath_segments _ _
  · rw [hslash, if_neg (by simp), hpath]
    exact readPath_segments _ _
  · rw [hslash, if_neg (by simp)]
    exact ⟨_, hpath⟩
  · rw [hspecial, if_pos (by simpa using hslash)]
    exact ⟨text, hpath⟩

/-- A URL has segments for its path unless it is rootless. -/
theorem path_of_parse {s : String} {u : Url} (h : parse s = .ok u) :
    if isRootless s then ∃ text, u.path = .rootless text
    else ∃ segments, u.path = .segments segments := by
  unfold parse at h
  dsimp only at h
  rw [isRootless]
  split at h
  · cases h
  rename_i scheme rest hscheme
  rw [hscheme]
  split at h
  · rename_i hfile
    have hspecial : isSpecial scheme = true := by
      rw [hfile]
      rfl
    simp only [hspecial, Bool.not_true, Bool.false_and, if_neg Bool.false_ne_true]
    obtain ⟨host, path, query, fragment, -, rfl⟩ := readFile_cases h
    exact ⟨_, rfl⟩
  · exact readOther_path h

end Url

namespace PublicUrl

variable {s : String} {p : PublicUrl}

/-- Links can be made under an address, whatever they carry, unless it is rootless; then none
can. -/
theorem link_of_parse (h : PublicUrl.parse s = .ok p) (flow : FlowId) (token : String) :
    if Url.isRootless s then p.link flow token = .error .cannotBeABase
    else ∃ url, p.link flow token = .ok url := by
  unfold PublicUrl.parse at h
  simp only [bind, Except.bind, pure, Except.pure] at h
  split at h
  · cases h
  rename_i u hread
  cases h
  have hpath := Url.path_of_parse hread
  rw [link, Url.resolve]
  split
  · rename_i hrootless
    rw [if_pos hrootless] at hpath
    obtain ⟨text, hpath⟩ := hpath
    rw [hpath]
    cases text <;> rfl
  · rename_i hrooted
    rw [if_neg hrooted] at hpath
    obtain ⟨segments, hclosed⟩ := @Url.Path.closed_segments (u.scheme = Url.fileScheme) _ hpath
    rw [hclosed]
    exact ⟨_, rfl⟩

end PublicUrl

end Vouch
