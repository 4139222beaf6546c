import Vouch.Text.Split
import Vouch.Url.Percent

/-!
# Form-encoded pairs

A query may carry pairs of a name and a value: the two separated by `=`, the pairs by `&`, spaces
written as `+`, and everything but letters, digits and `*-._` percent-encoded.  Reading never
fails: a pair without `=` has an empty value, and damaged UTF-8 is replaced.
-/

namespace Vouch.Url

-- Whether a character stands for itself in a pair.
def isFormSafe (c : Char) : Bool :=
  c.isAlphanum || ['*', '-', '.', '_'].contains c

-- A name or a value as it stands in a pair.
def formEncode (cs : List Char) : List Char :=
  cs.flatMap fun c =>
    if isFormSafe c then [c]
    else if c = ' ' then ['+']
    else (String.utf8EncodeChar c).flatMap percentByte

def formPair (name value : List Char) : List Char :=
  formEncode name ++ '=' :: formEncode value

-- The name or value that stands in a pair.
def formDecode (cs : List Char) : List Char :=
  Text.decodeLossy <| percentDecode <|
    (Text.encodeUtf8 cs).map fun b => if b = 0x2B then 0x20 else b

/-- The pairs of a query, in order. -/
def formPairs (query : List Char) : List (List Char × List Char) :=
  ((Text.fields '&' query).filter fun field => !field.isEmpty).map fun field =>
    match Text.splitFirst? '=' field with
    | some (name, value) => (formDecode name, formDecode value)
    | none => (formDecode field, [])

end Vouch.Url
