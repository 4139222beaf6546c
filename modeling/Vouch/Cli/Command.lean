import Vouch.Cli.Arguments
import Vouch.Config

/-!
# Commands

What an operator can ask of a node, and the settings that go with it.  A setting that is not among
the arguments is looked for in the environment.
-/

namespace Vouch.Cli

/-- What is asked of a node. -/
inductive Command where
  -- Registers an identity with an email address.
  | register (identity email : String)
  -- Takes note of an identity's new email address.
  | changeEmail (identity email : String)
  -- Requests verification for whoever has an address.
  | resend (email : String)
  | openLink (url : String)
  -- Enters the code for a flow.
  | submit (flow code : String)
  -- Shows the addresses of an identity.
  | status (identity : String)
  -- Shows every flow of an identity, oldest first.
  | history (identity : String)
  -- Shows where a flow stands.
  | resumeFlow (flow : String)
  -- Shows what is offered in place of an expired flow.
  | expiredFlow (flow : String)
  | listOutbox (onlyQueued : Bool)
  -- Delivers what waits in the outbox.
  | sendOutbox
  -- Ends the challenges whose time has run out.
  | sweep
  | showConfig
  deriving DecidableEq, Repr

/-- Settings that take precedence over those in a file. -/
structure Overrides where
  configFile : Option String
  dataDir : Option String
  publicUrl : Option String
  challengeLifespan : Option UInt64
  flowLifespan : Option UInt64
  maxAttempts : Option UInt32
  logLevel : Option String
  logFormat : Option LogFormat
  deriving DecidableEq, Repr

-- A number in decimal digits, which a plus sign may precede.
def readNatural? (s : String) : Option Nat :=
  let digits :=
    match s.toList with
    | '+' :: rest => rest
    | cs => cs
  if Json.isDigits digits then some (Json.digitsValue digits) else none

def readWord64? (s : String) : Option UInt64 := do
  let n ← readNatural? s
  guard (n < UInt64.size)
  return UInt64.ofNat n

-- A number of 32 bits; zero may have a minus sign.
def readWord32? (s : String) : Option UInt32 := do
  let n ←
    match s.toList with
    | '-' :: rest => do
      guard (Json.isDigits rest ∧ Json.digitsValue rest = 0)
      some 0
    | _ => readNatural? s
  guard (n < UInt32.size)
  return UInt32.ofNat n

-- A path, which may not be empty.
def readPath? (s : String) : Option String :=
  if s.isEmpty then none else some s

/-- The name of the environment variable for an option. -/
def variableName (option : String) : String :=
  "AFFIRM_" ++ option.map fun c => if c = '-' then '_' else c.toUpper

/-- The options that come before the command. -/
def settingNames : List String :=
  ["config", "data-dir", "public-url", "challenge-lifespan", "flow-lifespan", "max-attempts",
    "log-level", "log-format"]

namespace Overrides

/-- Reads a setting, from the arguments or else from the environment. -/
def setting {α : Type} (a : Arguments) (environment : List (String × String)) (name : String)
    (read : String → Option α) : Option (Option α) :=
  match a.value? name <|> environment.lookup (variableName name) with
  | none => some none
  | some s => (read s).map some

def read (a : Arguments) (environment : List (String × String)) : Option Overrides := do
  return {
    configFile := ← setting a environment "config" readPath?
    dataDir := ← setting a environment "data-dir" readPath?
    publicUrl := ← setting a environment "public-url" some
    challengeLifespan := ← setting a environment "challenge-lifespan" readWord64?
    flowLifespan := ← setting a environment "flow-lifespan" readWord64?
    maxAttempts := ← setting a environment "max-attempts" readWord32?
    logLevel := ← setting a environment "log-level" some
    logFormat := ← setting a environment "log-format" LogFormat.ofName? }

/-- The settings that hold: those of the file, unless they are overridden. -/
def apply (o : Overrides) (base : Config) : Config :=
  { base with
    dataDir := o.dataDir.getD base.dataDir
    publicUrl := o.publicUrl.getD base.publicUrl
    challengeLifespan := o.challengeLifespan.getD base.challengeLifespan
    flowLifespan := o.flowLifespan.getD base.flowLifespan
    maxAttempts := o.maxAttempts.getD base.maxAttempts
    logLevel := o.logLevel.getD base.logLevel
    logFormat := o.logFormat.getD base.logFormat }

end Overrides

namespace Command

-- The form of a command with options that have values.
def optionsForm (options : List String) : Form := ⟨options, [], 0, false⟩

-- The form of a command with plain words.
def wordsForm (words : Nat) : Form := ⟨[], [], words, false⟩

def groupForm (options : List String) : Form := ⟨options, [], 0, true⟩

def readFlow (name : String) (rest : List String) : Option Command := do
  let a ← allArguments (wordsForm 1) rest
  let flow ← a.words.head?
  match name with
  | "resume" => some (.resumeFlow flow)
  | "expired" => some (.expiredFlow flow)
  | _ => none

def readOutbox (name : String) (rest : List String) : Option Command :=
  match name with
  | "list" => do
    let a ← allArguments ⟨[], ["queued"], 0, false⟩ rest
    return .listOutbox (a.flags.contains "queued")
  | "send" => do
    let _ ← allArguments (wordsForm 0) rest
    return .sendOutbox
  | _ => none

def readSimple (name : String) (rest : List String) : Option Command := do
  let withOptions (options : List String) (make : (String → String) → Command) : Option Command := do
    let a ← allArguments (optionsForm options) rest
    return make fun name => (a.value? name).getD ""
  match name with
  | "register" =>
    withOptions ["identity", "email"] fun v => .register (v "identity") (v "email")
  | "change-email" =>
    withOptions ["identity", "email"] fun v => .changeEmail (v "identity") (v "email")
  | "resend" => withOptions ["email"] fun v => .resend (v "email")
  | "submit" => withOptions ["flow", "code"] fun v => .submit (v "flow") (v "code")
  | "status" => withOptions ["identity"] fun v => .status (v "identity")
  | "history" => withOptions ["identity"] fun v => .history (v "identity")
  | "sweep" => withOptions [] fun _ => .sweep
  | "config" => withOptions [] fun _ => .showConfig
  | "open-link" => do
    let a ← allArguments (wordsForm 1) rest
    return .openLink (← a.words.head?)
  | _ => none

def read : List String → Option Command
  | [] => none
  | name :: rest =>
    if name = "flow" ∨ name = "outbox" then do
      match ← sortArguments (groupForm []) .none none rest with
      | (_, inner :: rest) => if name = "flow" then readFlow inner rest else readOutbox inner rest
      | (_, []) => none
    else
      readSimple name rest

end Command

def readCommandLine (arguments : List String) (environment : List (String × String)) :
    Option (Overrides × Command) := do
  let (a, rest) ← sortArguments (Command.groupForm settingNames) .none none arguments
  return (← Overrides.read a environment, ← Command.read rest)

end Vouch.Cli
