import Vouch.Json.Record
import Vouch.Toml.Parser

/-!
# Configuration

What can be set of a node.  Every setting has a default, and unknown settings are passed over.  A
configuration is written as a TOML document with all settings in order.
-/

namespace Vouch

/-- The settings of a node. -/
structure Config where
  -- The directory of the database.
  dataDir : String
  -- How large the database may grow, in units of 2 ^ 20 bytes.
  mapSize : UInt64
  -- The public address, under which links lie.
  publicUrl : String
  -- How long the token and the code are good for, in seconds.
  challengeLifespan : UInt64
  -- How long a flow is open, in seconds.
  flowLifespan : UInt64
  -- How many wrong codes end a challenge; zero for no bound.
  maxAttempts : UInt32
  logFormat : LogFormat
  -- Which messages are logged.
  logLevel : String
  deriving DecidableEq, Repr

namespace LogFormat

/-- Reads a format: its name, or a table with the name as its only key and nothing under it. -/
def ofToml? : Toml → Option LogFormat
  | .text s => all.find? fun format => format.name = s
  | .table _ [(s, .table _ [])] => all.find? fun format => format.name = s
  | .table _ [(s, .array [])] => all.find? fun format => format.name = s
  | _ => none

end LogFormat

namespace Toml

def text? : Toml → Option String
  | .text s => some s
  | _ => none

def below? (bound : Nat) : Toml → Option Nat
  | .integer n => if 0 ≤ n ∧ n.toNat < bound then some n.toNat else none
  | _ => none

/-- A setting, or its default if the document does not have it. -/
def Entries.setting {α : Type} (entries : Entries) (key : String) (read : Toml → Option α)
    (default : α) : Option α :=
  match entries.lookup key with
  | none => some default
  | some value => read value

/-- A line that sets a key to a value. -/
def line (key : String) (value : List Char) : List Char :=
  key.toList ++ " = ".toList ++ value ++ ['\n']

-- The text of a number, if it fits into 64 bits with a sign.
def writeNumber? (n : Nat) : Option (List Char) :=
  if n < signedLimit then some (Nat.toDigits 10 n) else none

end Toml

namespace Config

/-- The settings where nothing is set. -/
def standard : Config where
  dataDir := "./affirm_data"
  mapSize := 64
  publicUrl := "http://127.0.0.1:4455/"
  challengeLifespan := 3600
  flowLifespan := 3600
  maxAttempts := 5
  logFormat := .human
  logLevel := "info"

/-- How large the database may grow, in bytes; at most the greatest number of 64 bits. -/
def mapBytes (c : Config) : UInt64 :=
  UInt64.ofNat (min (c.mapSize.toNat * 0x100000) (UInt64.size - 1))

def policy (c : Config) : Policy where
  challengeLifespan := c.challengeLifespan
  flowLifespan := c.flowLifespan
  maxAttempts := if c.maxAttempts = 0 then none else some c.maxAttempts

def keys : List String :=
  ["data_dir", "map_size_mb", "public_url", "challenge_lifespan_secs", "flow_lifespan_secs",
    "max_attempts", "log_format", "log_level"]

/-- Reads the settings from a document. -/
def ofToml? (s : String) : Option Config := do
  let entries ← Toml.parse? s
  let word64? (value : Toml) : Option UInt64 := (value.below? UInt64.size).map UInt64.ofNat
  let word32? (value : Toml) : Option UInt32 := (value.below? UInt32.size).map UInt32.ofNat
  return {
    dataDir := ← entries.setting "data_dir" Toml.text? standard.dataDir
    mapSize := ← entries.setting "map_size_mb" word64? standard.mapSize
    publicUrl := ← entries.setting "public_url" Toml.text? standard.publicUrl
    challengeLifespan :=
      ← entries.setting "challenge_lifespan_secs" word64? standard.challengeLifespan
    flowLifespan := ← entries.setting "flow_lifespan_secs" word64? standard.flowLifespan
    maxAttempts := ← entries.setting "max_attempts" word32? standard.maxAttempts
    logFormat := ← entries.setting "log_format" LogFormat.ofToml? standard.logFormat
    logLevel := ← entries.setting "log_level" Toml.text? standard.logLevel }

/-- Writes the settings as a document, unless a number is too large for that. -/
def toToml? (c : Config) : Option String := do
  let mapSize ← Toml.writeNumber? c.mapSize.toNat
  let challengeLifespan ← Toml.writeNumber? c.challengeLifespan.toNat
  let flowLifespan ← Toml.writeNumber? c.flowLifespan.toNat
  let maxAttempts ← Toml.writeNumber? c.maxAttempts.toNat
  return String.ofList <|
    Toml.line "data_dir" (Toml.writeText c.dataDir)
      ++ Toml.line "map_size_mb" mapSize
      ++ Toml.line "public_url" (Toml.writeText c.publicUrl)
      ++ Toml.line "challenge_lifespan_secs" challengeLifespan
      ++ Toml.line "flow_lifespan_secs" flowLifespan
      ++ Toml.line "max_attempts" maxAttempts
      ++ Toml.line "log_format" (Toml.writeText c.logFormat.name)
      ++ Toml.line "log_level" (Toml.writeText c.logLevel)

def toJson (c : Config) : Json :=
  .object [
    ("data_dir", .text c.dataDir),
    ("map_size_mb", Json.ofWord64 c.mapSize),
    ("public_url", .text c.publicUrl),
    ("challenge_lifespan_secs", Json.ofWord64 c.challengeLifespan),
    ("flow_lifespan_secs", Json.ofWord64 c.flowLifespan),
    ("max_attempts", Json.ofWord32 c.maxAttempts),
    ("log_format", c.logFormat.toJson),
    ("log_level", .text c.logLevel)]

/-- Reads the settings from an object, or from an array that may end early. -/
def ofJson? (j : Json) : Option Config := do
  let fields : Json.Fields ←
    match j with
    | .array items => if items.length ≤ keys.length then some (keys.zip items) else none
    | _ => Json.fields? keys j
  return {
    dataDir := ← fields.setting "data_dir" Json.text? standard.dataDir
    mapSize := ← fields.setting "map_size_mb" Json.word64? standard.mapSize
    publicUrl := ← fields.setting "public_url" Json.text? standard.publicUrl
    challengeLifespan :=
      ← fields.setting "challenge_lifespan_secs" Json.word64? standard.challengeLifespan
    flowLifespan := ← fields.setting "flow_lifespan_secs" Json.word64? standard.flowLifespan
    maxAttempts := ← fields.setting "max_attempts" Json.word32? standard.maxAttempts
    logFormat := ← fields.setting "log_format" LogFormat.ofJson? standard.logFormat
    logLevel := ← fields.setting "log_level" Json.text? standard.logLevel }

end Config

end Vouch
