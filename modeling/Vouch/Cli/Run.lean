import Vouch.Cli.Command
import Vouch.Cli.DataDirectory
import Vouch.Cli.Report
import Vouch.Engine.Answer
import Vouch.Json.Answer

/-!
# Running commands

A command opens the node, does one thing and prints the result as JSON.  An error that a user can
act on is an answer: it is printed as JSON too, and reported besides.
-/

namespace Vouch.Cli

/-- What a command does not bring with it. -/
structure Surroundings where
  environment : List (String × String)
  now : Timestamp
  entropy : Entropy

/-- How a command ended: what it printed, and what went wrong. -/
structure Outcome where
  printed : String
  fault : Option Fault
  deriving DecidableEq, Repr

/-- A transport that writes each message as a line of JSON. -/
structure LinePrinter where
  lines : List String

instance : MailTransport LinePrinter where
  send mail _ printer := .ok ⟨printer.lines ++ [mail.toJson.compact ++ "\n"]⟩

-- The world of a node that an operator works with.
abbrev NodeState := NodeWorld (OutboxTransport Durable.MessageFile)

namespace Outcome

/-- A command that printed a value. -/
def value (j : Json) : Outcome := ⟨j.pretty ++ "\n", none⟩

/-- A command that failed without an answer. -/
def failure (fault : Fault) : Outcome := ⟨"", some fault⟩

end Outcome

-- The answer for an error that a user can act on.
def answerOf (e : VerificationError) : Json :=
  match e with
  | .expiredFlow context =>
    .object [("error", .text "expired_flow"), ("context", context.toJson)]
  | .invalidCode attemptsRemaining =>
    .object [("error", .text "invalid_code"),
      ("attempts_remaining", Json.ofOption Json.ofWord32 attemptsRemaining)]
  | e => .object [("error", .text e.message)]

-- What is printed for an error in verification.
def rejection (e : VerificationError) : Outcome where
  printed := if e.isRecoverable then (answerOf e).sortNames.compact ++ "\n" else ""
  fault := some (.ofVerification e)

-- An operation of the engine on the node's world.
abbrev NodeAction (α : Type) :=
  Action Durable.Ledger Durable.IdentityFile (OutboxTransport Durable.MessageFile) α

/-- Runs an operation and prints its result. -/
def perform {α ε : Type} (operation : EStateM ε NodeState α) (print : α → Json)
    (reject : ε → Outcome) (world : NodeState) : Outcome × NodeState :=
  match operation world with
  | .ok a world => (.value (print a), world)
  | .error e world => (reject e, world)

-- Runs an operation whose errors are answers.
def ask {α : Type} (operation : NodeAction α) (print : α → Json) (world : NodeState) :
    Outcome × NodeState :=
  perform operation print rejection world

-- Runs an operation that only reads; all its errors are faults.
def look {α : Type} (operation : NodeAction α) (print : α → Json) (world : NodeState) :
    Outcome × NodeState :=
  perform operation print (fun e => .failure (.ofVerification e)) world

-- Runs an operation of the node.
def edit {α : Type} (operation : EStateM NodeError NodeState α) (print : α → Json)
    (world : NodeState) : Outcome × NodeState :=
  perform operation print (fun e => .failure (.ofNode e)) world

-- Goes on with an identity's name, unless it is none.
def withIdentity (name : String) (go : IdentityId → NodeState → Outcome × NodeState)
    (world : NodeState) : Outcome × NodeState :=
  match IdentityId.ofName name with
  | .ok id => go id world
  | .error fault => (.failure (.ofMessage (InputError.invalidId fault).message), world)

-- Goes on with a flow's identifier, unless it is none.
def withFlow (hex : String) (go : FlowId → NodeState → Outcome × NodeState)
    (world : NodeState) : Outcome × NodeState :=
  match Id.ofHex .flow hex with
  | .ok flow => go flow world
  | .error fault => (.failure (.ofMessage (InputError.invalidId fault).message), world)

def openLink (url : String) : NodeAction FlowState :=
  match readLink? url with
  | some (flow, token) => Engine.openLink flow token
  | none => throw .notFound

-- Every flow of an identity, oldest first.
def flowsOf {σ ι τ : Type} [VerificationStore σ] (id : IdentityId) :
    Action σ ι τ (List FlowState) := do
  let now ← Action.now
  let histories ← (← Engine.addressesOf id).mapM fun a => Engine.history a.id
  return histories.flatten.map fun c => .ofChallenge c now

def listOutbox (onlyQueued : Bool) (world : NodeState) : Outcome × NodeState :=
  let status := if onlyQueued then some MessageStatus.queued else none
  match MessageStore.messages status world.mailer.outbox with
  | .ok messages => (.value (Json.ofList QueuedMessage.toJson messages), world)
  | .error e => (.failure (.ofMessage e.message), world)

/-- Delivers what waits in the outbox by printing it. -/
def sendOutbox (world : NodeState) : Outcome × NodeState :=
  let courier : Courier Durable.MessageFile LinePrinter := ⟨world.mailer.outbox, ⟨[]⟩⟩
  let finish (courier : Courier Durable.MessageFile LinePrinter) (fault : Option Fault) :
      Outcome × NodeState :=
    (⟨String.join courier.transport.lines, fault⟩, { world with mailer := ⟨courier.outbox⟩ })
  match Courier.dispatch world.now courier with
  | .ok _ courier => finish courier none
  | .error e courier => finish courier (some (.ofNode (.ofDelivery e)))

def showConfig (config : Config) : Outcome :=
  match config.toToml? with
  | some text => ⟨text, none⟩
  | none => .failure (.ofNode (.config "out-of-range value for u64 type"))

-- Runs a command on an open node.
def runOnNode (e : Engine) (config : Config) (command : Command) (world : NodeState) :
    Outcome × NodeState :=
  match command with
  | .register identity email =>
    withIdentity identity (fun id => edit (Node.register e id email)
      (Json.ofList RequestOutcome.toJson)) world
  | .changeEmail identity email =>
    withIdentity identity (fun id => edit (Node.changeEmail e id email) RequestOutcome.toJson) world
  | .resend email =>
    ask (e.requestByValue .email email) (Json.ofList RequestOutcome.toJson) world
  | .openLink url => ask (openLink url) FlowState.toJson world
  | .submit flow code =>
    withFlow flow (fun flow => ask (Engine.submit flow code) SubmitOutcome.toJson) world
  | .status identity =>
    withIdentity identity (fun id => look (Engine.addressesOf id)
      (Json.ofList Address.toJson)) world
  | .history identity =>
    withIdentity identity (fun id => look (flowsOf id) (Json.ofList FlowState.toJson)) world
  | .resumeFlow flow =>
    withFlow flow (fun flow => ask (Engine.resume flow) FlowState.toJson) world
  | .expiredFlow flow =>
    withFlow flow (fun flow => ask (Engine.expiredContext flow) ExpiredContext.toJson) world
  | .listOutbox onlyQueued => listOutbox onlyQueued world
  | .sendOutbox => sendOutbox world
  | .sweep => look Engine.sweep (fun n => .object [("expired", .number n)]) world
  | .showConfig => (showConfig config, world)

/-- The settings that hold, from a file if one is named. -/
def effectiveConfig (o : Overrides) (disk : Disk) : Except Fault Config :=
  match o.configFile with
  | none => .ok (o.apply .standard)
  | some path =>
    let load : Except NodeError Config :=
      match disk.readFile path with
      | .error fault => .error (.config (path ++ ": " ++ fault.message))
      | .ok content =>
        match Config.ofToml? content with
        | some config => .ok config
        | none => .error (.config "TOML parse error")
    match load with
    | .ok config => .ok (o.apply config)
    | .error e => .error ((Fault.ofNode e).during ("failed to load config " ++ path))

-- Opens the node and runs a command on it.
def runCommand (config : Config) (command : Command) (around : Surroundings) (disk : Disk) :
    Outcome × Disk :=
  let refuse (e : NodeError) : Outcome :=
    .failure ((Fault.ofNode e).during "failed to open verification node")
  match openDatabase config.dataDir config.mapBytes disk with
  | (.error e, disk) => (refuse (.database e), disk)
  | (.ok environment, disk) =>
    match Node.engine config with
    | .error e => (refuse e, disk)
    | .ok engine =>
      let (outcome, world) := runOnNode engine config command
        { store := environment.ledger
          identities := environment.identities
          mailer := ⟨environment.messages⟩
          now := around.now
          entropy := around.entropy }
      (outcome,
        disk.setDatabase (Path.split config.dataDir).place
          ⟨world.store, world.identities, world.mailer.outbox⟩)

/-- Runs a command line.  There is no outcome if it cannot be understood.  Showing the settings
needs no database. -/
def run (arguments : List String) (around : Surroundings) (disk : Disk) :
    Option Outcome × Disk :=
  match readCommandLine arguments around.environment with
  | none => (none, disk)
  | some (overrides, command) =>
    match effectiveConfig overrides disk with
    | .error fault => (some (.failure fault), disk)
    | .ok config =>
      if command = .showConfig then (some (showConfig config), disk)
      else
        let (outcome, disk) := runCommand config command around disk
        (some outcome, disk)

end Vouch.Cli
