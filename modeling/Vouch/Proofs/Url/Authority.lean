import Vouch.Proofs.Url.Host

/-!
# Written authorities are read again

The user name and the password end at the last at sign and the port begins at a colon outside
brackets; none of these marks stands within a part.  All that can go wrong is that the host is not
accepted in the form in which it is written.
-/

namespace Vouch.Url

/-! ## The parts of an authority -/

theorem isSlash_eq_false {special : Bool} {c : Char} (hslash : c ≠ '/') (hback : c ≠ '\\') :
    isSlash special c = false := by
  simp only [isSlash, hslash, hback, decide_false, Bool.and_false, Bool.or_false]

/-- The parts of an authority in their usual form. -/
structure Authority.Formed (a : Authority) : Prop where
  user : ∀ c ∈ a.user, isInner c = true
  password : ∀ c ∈ a.password, isInner c = true
  host : IsHost a.host
  port : ∀ n ∈ a.port, n ≤ 65535
  -- Without a host there is nothing else.
  alone : a.host = [] → a.user = [] ∧ a.password = [] ∧ a.port = none

-- The user name and the password with their signs.
def Authority.userinfoText (a : Authority) : List Char :=
  if a.user.isEmpty && a.password.isEmpty then []
  else a.user ++ (if a.password.isEmpty then [] else ':' :: a.password) ++ ['@']

def Authority.portText (a : Authority) : List Char :=
  match a.port with
  | none => []
  | some port => ':' :: Nat.toDigits 10 port

-- An authority without the slashes in front.
def Authority.text (a : Authority) : List Char :=
  a.userinfoText ++ (a.host ++ a.portText)

theorem Authority.render_eq (a : Authority) : a.render = '/' :: '/' :: a.text := by
  obtain ⟨user, password, host, port⟩ := a
  cases port <;>
    simp only [Authority.render, Authority.text, Authority.userinfoText, Authority.portText,
      List.cons_append, List.append_assoc]

section Authority

variable {a : Authority}

theorem Authority.isDigit_of_mem_portText {c : Char} (h : c ∈ a.portText.tail) :
    c.isDigit = true := by
  rw [Authority.portText] at h
  split at h
  · cases h
  · exact Nat.isDigit_of_mem_toDigits (by decide) (by decide) h

theorem Authority.isInner_portText {c : Char} (h : c ∈ a.portText) : isInner c = true := by
  have hdigit := a.isDigit_of_mem_portText (c := c)
  cases hport : a.portText with
  | nil =>
    rw [hport] at h
    cases h
  | cons d digits =>
    rw [hport] at h hdigit
    rcases List.mem_cons.mp h with rfl | h
    · have hcolon : c = ':' := by
        rw [Authority.portText] at hport
        split at hport
        · cases hport
        · exact (List.cons.inj hport).1.symm
      rw [hcolon]
      rfl
    · exact isInner_of_isDigit (hdigit h)

-- The at sign after the user name and the password is the last one.
theorem Authority.Formed.no_at (ha : a.Formed) : '@' ∉ a.host ++ a.portText := by
  intro hmem
  have hinner : isInner '@' = true := by
    rcases List.mem_append.mp hmem with h | h
    · exact ha.host.chars _ h
    · exact a.isInner_portText h
  cases hinner

theorem Authority.Formed.text_chars (ha : a.Formed) {c : Char} (h : c ∈ a.text) :
    isPlain c = true ∧ isSlash true c = false := by
  have hinner : ∀ d, isInner d = true → isPlain d = true ∧ isSlash true d = false := by
    intro d hd
    obtain ⟨hplain, hslash, hback, -⟩ := isInner_iff.mp hd
    exact ⟨hplain, isSlash_eq_false hslash hback⟩
  rcases List.mem_append.mp h with h | h
  · rw [Authority.userinfoText] at h
    split at h
    · cases h
    rcases List.mem_append.mp h with h | h
    · rcases List.mem_append.mp h with h | h
      · exact hinner c (ha.user c h)
      · split at h
        · cases h
        · rcases List.mem_cons.mp h with rfl | h
          · exact ⟨rfl, rfl⟩
          · exact hinner c (ha.password c h)
    · rw [List.mem_singleton.mp h]
      exact ⟨rfl, rfl⟩
  · rcases List.mem_append.mp h with h | h
    · exact hinner c (ha.host.chars c h)
    · exact hinner c (a.isInner_portText h)

end Authority

/-! ## Host and port -/

variable {rest : List Char}

-- One character of a host.
theorem splitHost_cons {inside a : Bool} {c : Char} (hc : (c = ':' && !inside) = false)
    (ha : (if c = '[' then true else if c = ']' then false else inside) = a) :
    splitHost inside (c :: rest) =
      (c :: (splitHost a rest).1, (splitHost a rest).2) := by
  rw [splitHost, if_neg (by rw [hc]; decide)]
  simp only [ha]

-- The end of a host: nothing or the colon of a port.
theorem splitHost_rest (h : Stops (· ≠ ':') rest) : splitHost false rest = ([], rest) := by
  cases rest with
  | nil => rfl
  | cons c rest =>
    have hc : c = ':' := by simpa using h c rfl
    rw [splitHost, if_pos (by rw [hc]; rfl)]

theorem splitHost_name {host : List Char} (hhost : ∀ c ∈ host, c ≠ ':' ∧ c ≠ '[')
    (h : Stops (· ≠ ':') rest) : splitHost false (host ++ rest) = (host, rest) := by
  induction host with
  | nil => exact splitHost_rest h
  | cons c host ih =>
    obtain ⟨hcolon, hopen⟩ := hhost c List.mem_cons_self
    rw [List.cons_append, splitHost_cons (a := false) (by simp [hcolon]) (by simp [hopen]),
      ih fun d hd => hhost d (List.mem_cons_of_mem c hd)]

theorem splitHost_brackets {address : List Char} (haddress : ']' ∉ address)
    (h : Stops (· ≠ ':') rest) :
    splitHost true (address ++ ']' :: rest) = (address ++ [']'], rest) := by
  induction address with
  | nil => rw [List.nil_append, splitHost_cons (a := false) rfl rfl, splitHost_rest h]; rfl
  | cons c address ih =>
    have hc : c ≠ ']' := fun heq => haddress (heq ▸ List.mem_cons_self)
    rw [List.cons_append, splitHost_cons (a := true) (by simp) (by simp [hc]),
      ih fun hmem => haddress (List.mem_cons_of_mem c hmem)]
    rfl

/-- The host is found again. -/
theorem splitHost_append {host : List Char} (hshape : HostShape host)
    (h : Stops (· ≠ ':') rest) : splitHost false (host ++ rest) = (host, rest) := by
  cases hshape with
  | name hname => exact splitHost_name hname h
  | brackets haddress =>
    have hclose := splitHost_brackets haddress h
    simp only [List.cons_append, List.append_assoc, List.nil_append] at hclose ⊢
    rw [splitHost_cons (a := true) rfl rfl, hclose]

theorem Authority.stops_portText (a : Authority) : Stops (· ≠ ':') a.portText := by
  rw [Authority.portText]
  split
  · exact stops_nil
  · exact stops_cons rfl

-- A port that fits is read, whether or not the scheme implies it.
theorem readPort_of_digits {scheme digits : List Char} (hdigits : ∀ c ∈ digits, c.isDigit = true)
    (hfits : Json.digitsValue digits ≤ 65535) : ∃ port, readPort scheme digits = .ok port := by
  have hall : digits.all Char.isDigit = true := List.all_eq_true.mpr hdigits
  rw [readPort, if_neg (by rw [hall]; decide), if_neg (Nat.not_lt.mpr hfits)]
  split
  · exact ⟨none, rfl⟩
  · exact ⟨some (Json.digitsValue digits), rfl⟩

theorem digitsValue_toDigits (n : Nat) : Json.digitsValue (Nat.toDigits 10 n) = n :=
  Nat.ofDigitChars_ten_toDigits

theorem Authority.Formed.readPort_portText {a : Authority} (ha : a.Formed) (scheme : List Char) :
    ∃ port, readPort scheme a.portText.tail = .ok port := by
  refine readPort_of_digits (fun c hc => a.isDigit_of_mem_portText hc) ?_
  have hfits := ha.port
  rw [Authority.portText]
  split
  · exact Nat.zero_le _
  · rename_i port hport
    rw [List.tail_cons, digitsValue_toDigits]
    exact hfits port hport

/-! ## The authority as a whole -/

section Authority

variable {a : Authority} {scheme : List Char}

-- The user name and the password are cut off, if there are any.
theorem Authority.Formed.splitLast?_text (ha : a.Formed) :
    Text.splitLast? ['@'] a.text = none ∧ a.text = a.host ++ a.portText ∨
      ∃ c userinfo, Text.splitLast? ['@'] a.text = some (c :: userinfo, a.host ++ a.portText) ∧
        a.host ≠ [] := by
  by_cases hnone : a.user = [] ∧ a.password = []
  · left
    have htext : a.text = a.host ++ a.portText := by
      rw [Authority.text, Authority.userinfoText, hnone.1, hnone.2]
      rfl
    exact ⟨htext ▸ Text.splitLast?_eq_none ha.no_at, htext⟩
  · right
    obtain ⟨c, userinfo, hcut⟩ : ∃ c userinfo, a.userinfoText = c :: userinfo ++ ['@'] := by
      obtain ⟨user, password, host, port⟩ := a
      cases user with
      | cons c user => exact ⟨c, _, rfl⟩
      | nil =>
        cases password with
        | cons c password => exact ⟨':', c :: password, rfl⟩
        | nil => exact absurd ⟨rfl, rfl⟩ hnone
    refine ⟨c, userinfo, ?_, fun hhost => hnone ⟨(ha.alone hhost).1, (ha.alone hhost).2.1⟩⟩
    rw [Authority.text, hcut, List.append_assoc]
    exact Text.splitLast?_append _ ha.no_at

-- The user name and the password, and what follows them.
def cutUserinfo (cs : List Char) (atEnd : Bool) : Except ParseError (List Char × List Char) :=
  match Text.splitLast? ['@'] cs with
  | none => .ok ([], cs)
  | some ([], rest) => if rest.isEmpty && !atEnd then .error .emptyHost else .ok ([], rest)
  | some (userinfo, rest) => .ok (userinfo, rest)

-- What is made of the text after the user name and the password.
def readHostport (scheme userinfo hostport : List Char) :
    Except ParseError (Authority × List Char) := do
  let (host, after) := splitHost false hostport
  if isSpecial scheme && host.isEmpty then .error .emptyHost
  let host ← readHost (isSpecial scheme) host
  if host.isEmpty && !after.isEmpty then .error .emptyHost
  let port ← readPort scheme (after.tail.takeWhile (· ≠ '\\'))
  let (user, password) := readUserinfo userinfo
  if host.isEmpty && !(user.isEmpty && password.isEmpty) then .error .emptyHost
  return ({ user, password, host, port }, after.dropWhile (· ≠ '\\'))

theorem readAuthority_eq (scheme cs : List Char) (atEnd : Bool) :
    readAuthority scheme cs atEnd =
      (cutUserinfo cs atEnd).bind fun parts => readHostport scheme parts.1 parts.2 := by
  unfold readAuthority cutUserinfo readHostport readHost
  rcases Text.splitLast? ['@'] cs with _ | ⟨_ | ⟨c, userinfo⟩, rest⟩
  · cases isSpecial scheme <;> rfl
  · dsimp only
    cases rest.isEmpty && !atEnd <;> cases isSpecial scheme <;> rfl
  · cases isSpecial scheme <;> rfl

/-- An authority is read again if its host is, up to its end. -/
theorem Authority.Formed.readAuthority_text (ha : a.Formed)
    (hspecial : isSpecial scheme = true → a.host ≠ []) :
    (readAuthority scheme a.text false).map (fun parts => (parts.1.host, parts.2)) =
      (readHost (isSpecial scheme) a.host).map fun host => (host, []) := by
  obtain ⟨userinfo, hcut, huserinfo⟩ : ∃ userinfo,
      cutUserinfo a.text false = .ok (userinfo, a.host ++ a.portText) ∧
        (a.host = [] → userinfo = []) := by
    rcases ha.splitLast?_text with ⟨hnone, htext⟩ | ⟨c, userinfo, hsome, hhost⟩
    · exact ⟨[], by rw [cutUserinfo, hnone, htext], fun _ => rfl⟩
    · exact ⟨c :: userinfo, by rw [cutUserinfo, hsome], fun h => absurd h hhost⟩
  have hempty : (isSpecial scheme && a.host.isEmpty) = false := by
    cases hs : isSpecial scheme with
    | false => rfl
    | true =>
      rw [Bool.true_and]
      exact List.isEmpty_eq_false_iff.mpr (hspecial hs)
  have hback : ∀ c ∈ a.portText, decide (c ≠ '\\') = true := fun c hc =>
    decide_eq_true (isInner_iff.mp (a.isInner_portText hc)).2.2.1
  obtain ⟨port, hport⟩ := ha.readPort_portText scheme
  rw [readAuthority_eq, hcut]
  show (readHostport scheme userinfo (a.host ++ a.portText)).map _ = _
  rw [readHostport, splitHost_append ha.host.shape a.stops_portText]
  simp only [hempty]
  cases hread : readHost (isSpecial scheme) a.host with
  | error e => rfl
  | ok host =>
    have halone : ∀ b : Bool, (a.host = [] → b = false) → (host.isEmpty && b) = false := by
      intro b hb
      by_cases hnil : a.host = []
      · rw [hb hnil, Bool.and_false]
      · rw [List.isEmpty_eq_false_iff.mpr (readHost_ne_nil hnil hread), Bool.false_and]
    have hafter : (host.isEmpty && !a.portText.isEmpty) = false := by
      refine halone _ fun hnil => ?_
      rw [Authority.portText, (ha.alone hnil).2.2]
      rfl
    have huser : (host.isEmpty &&
        !((readUserinfo userinfo).1.isEmpty && (readUserinfo userinfo).2.isEmpty)) = false := by
      refine halone _ fun hnil => ?_
      rw [huserinfo hnil]
      rfl
    have htail := takeWhile_all fun c hc => hback c (List.mem_of_mem_tail hc)
    show Except.map _ (if (host.isEmpty && !a.portText.isEmpty) = true then _ else _) = _
    simp only [bind, Except.bind, hafter, htail, hport, huser, dropWhile_all hback, pure,
      Except.pure]
    rfl

end Authority

end Vouch.Url
