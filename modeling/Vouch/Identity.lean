import Vouch.Contact

/-!
# Identities

An identity declares the addresses it wants to be reached at.  Of a channel, the first declared
value counts.
-/

namespace Vouch

/-- An address that an identity declares. -/
structure DeclaredAddress where
  channel : Channel
  value : Contact
  deriving DecidableEq, Repr

/-- The addresses an identity declares, in order. -/
structure Traits where
  addresses : List DeclaredAddress
  deriving DecidableEq, Repr

/-- An identity and what it declares. -/
structure Identity where
  id : IdentityId
  traits : Traits
  deriving DecidableEq, Repr

namespace Traits

/-- The value declared for a channel. -/
def address? (traits : Traits) (channel : Channel) : Option Contact :=
  (traits.addresses.find? (·.channel = channel)).map (·.value)

/-- The declarations with the first one of a channel replaced, or a new one at the end. -/
def replaceFirst (channel : Channel) (value : Contact) : List DeclaredAddress → List DeclaredAddress
  | [] => [⟨channel, value⟩]
  | declared :: rest =>
    if declared.channel = channel then
      { declared with value } :: rest
    else
      declared :: replaceFirst channel value rest

/-- Declares a value for a channel in place of the one that counted so far. -/
def setAddress (traits : Traits) (channel : Channel) (value : Contact) : Traits :=
  ⟨replaceFirst channel value traits.addresses⟩

-- The value that was set is the one that counts.
theorem address?_setAddress (traits : Traits) (channel : Channel) (value : Contact) :
    (traits.setAddress channel value).address? channel = some value := by
  obtain ⟨declared⟩ := traits
  simp only [setAddress, address?]
  induction declared with
  | nil => simp [replaceFirst]
  | cons first rest ih => by_cases h : first.channel = channel <;> simp_all [replaceFirst]

end Traits

end Vouch
