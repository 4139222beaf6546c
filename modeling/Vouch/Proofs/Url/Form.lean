import Vouch.Proofs.Text.Split
import Vouch.Proofs.Url.Percent
import Vouch.Url.Form

/-!
# Form-encoded pairs read back

What is written as a name or a value in a query is read as that name or value, whatever characters
it has.  A plus sign of the text itself is written with a percent sign, so that making blanks of
plus signs first does no harm.
-/

namespace Vouch.Url

open Text (encodeUtf8 encodeUtf8_append encodeUtf8_cons utf8EncodeChar_ascii)

/-! ## Characters of pairs -/

/-- Whether a character may stand in a pair: for itself, for a blank or before two digits. -/
def isFormChar (c : Char) : Bool :=
  isFormSafe c || c = '+' || c = '%'

-- What stands for itself is ASCII, and neither of the two signs that stand for something else.
theorem toNat_of_isFormSafe {c : Char} (h : isFormSafe c = true) :
    c.toNat < 128 ∧ c.toNat ≠ 0x2B ∧ c.toNat ≠ 0x25 := by
  rcases Bool.or_eq_true_iff.mp h with h | h
  · have hc := Text.toNat_of_isAlphanum h
    omega
  · simp only [List.contains_cons, List.contains_nil, Bool.or_false, Bool.or_eq_true, beq_iff_eq]
      at h
    rcases h with rfl | rfl | rfl | rfl <;> decide

theorem isFormChar_of_mem_percentByte {b : UInt8} {c : Char} (h : c ∈ percentByte b) :
    isFormChar c = true := by
  rcases mem_percentByte h with rfl | hc
  · rfl
  · rw [isFormChar, isFormSafe, hc]
    rfl

theorem isFormChar_of_mem_formEncode {cs : List Char} {c : Char} (h : c ∈ formEncode cs) :
    isFormChar c = true := by
  obtain ⟨d, -, hc⟩ := List.mem_flatMap.mp h
  split at hc
  · rename_i hsafe
    rw [List.mem_singleton.mp hc, isFormChar, hsafe]
    rfl
  split at hc
  · rw [List.mem_singleton.mp hc]
    rfl
  · obtain ⟨b, -, hb⟩ := List.mem_flatMap.mp hc
    exact isFormChar_of_mem_percentByte hb

/-! ## Names and values -/

-- Reading makes blanks of plus signs before anything else.
def blankPlus (bs : Bytes) : Bytes :=
  bs.map fun b => if b = 0x2B then 0x20 else b

theorem formDecode_eq (cs : List Char) :
    formDecode cs = Text.decodeLossy (percentDecode (blankPlus (encodeUtf8 cs))) := rfl

theorem blankPlus_append (as bs : Bytes) : blankPlus (as ++ bs) = blankPlus as ++ blankPlus bs :=
  List.map_append

theorem blankPlus_percentByte (b : UInt8) :
    blankPlus (encodeUtf8 (percentByte b)) = encodeUtf8 (percentByte b) := by
  have hb := b.toNat_lt
  have hplus : ∀ n < 16, UInt8.ofNat (upperDigit n).toNat ≠ 0x2B := by
    intro n hn
    exact byte_ne (toNat_upperDigit hn).1 (toNat_upperDigit hn).2
  rw [encodeUtf8_percentByte, blankPlus, List.map_cons, List.map_cons, List.map_cons,
    if_neg (by decide), if_neg (hplus _ (by omega)), if_neg (hplus _ (by omega)), List.map_nil]

-- One character of a name or a value.
theorem percentDecode_formEncode_singleton (c : Char) (rest : Bytes) :
    percentDecode (blankPlus (encodeUtf8 (formEncode [c])) ++ rest) =
      String.utf8EncodeChar c ++ percentDecode rest := by
  rw [formEncode, List.flatMap_cons, List.flatMap_nil, List.append_nil]
  split
  · rename_i hsafe
    obtain ⟨hascii, hplus, hpercent⟩ := toNat_of_isFormSafe hsafe
    rw [encodeUtf8_cons, utf8EncodeChar_ascii hascii]
    show percentDecode ((if UInt8.ofNat c.toNat = 0x2B then 0x20 else UInt8.ofNat c.toNat) ::
      rest) = _
    rw [if_neg (byte_ne (b := 0x2B) hascii hplus),
      percentDecode_cons_of_ne (byte_ne (b := 0x25) hascii hpercent)]
    rfl
  split
  · rename_i hblank
    subst hblank
    exact percentDecode_cons_of_ne (by decide) rest
  · induction String.utf8EncodeChar c with
    | nil => rfl
    | cons b bs ih =>
      rw [List.flatMap_cons, encodeUtf8_append, blankPlus_append, blankPlus_percentByte,
        List.append_assoc, percentDecode_percentByte, ih]
      rfl

theorem percentDecode_formEncode (cs : List Char) :
    percentDecode (blankPlus (encodeUtf8 (formEncode cs))) = encodeUtf8 cs := by
  induction cs with
  | nil => rfl
  | cons c cs ih =>
    have hcons : formEncode (c :: cs) = formEncode [c] ++ formEncode cs := by
      simp only [formEncode, List.flatMap_cons, List.flatMap_nil, List.append_nil]
    rw [hcons, encodeUtf8_append, blankPlus_append, percentDecode_formEncode_singleton, ih,
      encodeUtf8_cons]

/-- A name or value reads back. -/
theorem formDecode_formEncode (cs : List Char) : formDecode (formEncode cs) = cs := by
  rw [formDecode_eq, percentDecode_formEncode, Text.decodeLossy_encodeUtf8]

/-! ## Pairs -/

theorem not_mem_formEncode {c : Char} (h : isFormChar c = false) (cs : List Char) :
    c ∉ formEncode cs := by
  intro hmem
  rw [isFormChar_of_mem_formEncode hmem] at h
  cases h

theorem not_mem_formPair (name value : List Char) : '&' ∉ formPair name value := by
  intro hmem
  rcases List.mem_append.mp hmem with hname | hvalue
  · exact not_mem_formEncode rfl name hname
  · rcases List.mem_cons.mp hvalue with heq | hvalue
    · exact absurd heq (by decide)
    · exact not_mem_formEncode rfl value hvalue

-- The name and the value that a field stands for.
def readPair (field : List Char) : List Char × List Char :=
  match Text.splitFirst? '=' field with
  | some (name, value) => (formDecode name, formDecode value)
  | none => (formDecode field, [])

theorem formPairs_eq (query : List Char) :
    formPairs query = ((Text.fields '&' query).filter fun field => !field.isEmpty).map readPair :=
  rfl

theorem readPair_formPair (name value : List Char) : readPair (formPair name value) =
    (name, value) := by
  have hname : '=' ∉ formEncode name := not_mem_formEncode rfl name
  simp only [readPair, formPair, Text.splitFirst?_append hname, formDecode_formEncode]

theorem formPair_isEmpty (name value : List Char) : (formPair name value).isEmpty = false := by
  rw [formPair]
  cases formEncode name <;> rfl

theorem formPairs_formPair (name value : List Char) :
    formPairs (formPair name value) = [(name, value)] := by
  rw [formPairs_eq, Text.fields_eq_singleton (not_mem_formPair name value),
    List.filter_cons_of_pos (by rw [formPair_isEmpty]; rfl)]
  exact congrArg (· :: []) (readPair_formPair name value)

/-- A pair that others follow reads back. -/
theorem formPairs_cons (name value query : List Char) :
    formPairs (formPair name value ++ '&' :: query) = (name, value) :: formPairs query := by
  rw [formPairs_eq, Text.fields_append (not_mem_formPair name value),
    List.filter_cons_of_pos (by rw [formPair_isEmpty]; rfl), List.map_cons, readPair_formPair,
    formPairs_eq]

end Vouch.Url
