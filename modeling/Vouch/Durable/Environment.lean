import Vouch.Durable.Ledger
import Vouch.Durable.Records

/-!
# The database environment

The nine byte maps that are kept together on disk.  One of them says which version of the schema
they follow; an environment of a newer version is refused.
-/

namespace Vouch.Durable

/-- The nine byte maps, as the stores that use them. -/
structure Environment where
  ledger : Ledger
  identities : IdentityFile
  messages : MessageFile

/-- The version of the schema that is written. -/
def schemaVersion : UInt32 := 1

/-- Why an environment could not be opened or read. -/
inductive EnvironmentError where
  -- The database refused an operation.
  | database (message : String)
  -- The directory could not be made or used.
  | directory (message : String)
  -- The contents contradict each other.
  | corruption (cause : Corruption)
  -- The version of the schema is newer than the one that is supported.
  | unsupportedSchema (found supported : UInt32)
  deriving DecidableEq, Repr

def EnvironmentError.message : EnvironmentError → String
  | .database message => "LMDB error: " ++ message
  | .directory message => "I/O error: " ++ message
  | .corruption cause => "corrupted record: " ++ cause.message
  | .unsupportedSchema found supported =>
    "database schema version " ++ toString found.toNat ++ " is newer than supported version "
      ++ toString supported.toNat

namespace Environment

/-- The environment before it is first opened. -/
def blank : Environment :=
  ⟨⟨∅, ∅, ∅, ∅, ∅, ∅, ∅⟩, ⟨∅⟩, ⟨∅⟩⟩

def versionKey : Bytes := Bytes.ofText "schema_version"

/-- The version of the schema; zero if none was written. -/
def readVersion (e : Environment) : Except EnvironmentError UInt32 :=
  match e.ledger.header.get? versionKey with
  | none => .ok 0
  | some bs =>
    if bs.length = 4 then .ok (UInt32.ofNat (Bytes.ofLittleEndian bs))
    else .error (.corruption .badSchemaVersion)

/-- Opens an environment.  An older version of the schema is brought up to date. -/
def reopen (e : Environment) : Except EnvironmentError Environment := do
  let found ← e.readVersion
  if schemaVersion < found then
    .error (.unsupportedSchema found schemaVersion)
  else if found < schemaVersion then
    let version := Bytes.littleEndian 4 schemaVersion.toNat
    return { e with ledger := { e.ledger with header := e.ledger.header.insert versionKey version } }
  else
    return e

/-- A new environment. -/
def fresh : Environment :=
  { blank with
    ledger := { blank.ledger with
      header := ByteMap.empty.insert versionKey (Bytes.littleEndian 4 schemaVersion.toNat) } }

/-- A byte map by its name. -/
def database? (e : Environment) (name : String) : Option ByteMap :=
  match name with
  | "addresses" => some e.ledger.addresses
  | "slots" => some e.ledger.slots
  | "value_index" => some e.ledger.valueIndex
  | "challenges" => some e.ledger.challenges
  | "active_by_address" => some e.ledger.active
  | "address_challenges" => some e.ledger.history
  | "identities" => some e.identities.identities
  | "messages" => some e.messages.messages
  | "meta" => some e.ledger.header
  | _ => none

/-- The environment with the byte map of a name replaced. -/
def withDatabase (e : Environment) (name : String) (m : ByteMap) : Environment :=
  match name with
  | "addresses" => { e with ledger := { e.ledger with addresses := m } }
  | "slots" => { e with ledger := { e.ledger with slots := m } }
  | "value_index" => { e with ledger := { e.ledger with valueIndex := m } }
  | "challenges" => { e with ledger := { e.ledger with challenges := m } }
  | "active_by_address" => { e with ledger := { e.ledger with active := m } }
  | "address_challenges" => { e with ledger := { e.ledger with history := m } }
  | "identities" => { e with identities := ⟨m⟩ }
  | "messages" => { e with messages := ⟨m⟩ }
  | "meta" => { e with ledger := { e.ledger with header := m } }
  | _ => e

end Environment

end Vouch.Durable
