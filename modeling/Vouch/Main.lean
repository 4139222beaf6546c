import Std.Time.DateTime.Timestamp
import Vouch.Cli.Run
import Vouch.Durable.Image

/-!
# The program

Reads the settings file and the database that a command line names, runs the command on them, and
writes the database back.  A command line that cannot be understood ends with code 2, any other
fault with code 1.
-/

namespace Vouch.Program

/-- The file of the database in the data directory. -/
def databasePath (directory : String) : String :=
  directory ++ "/records"

/-- The environment variables that hold settings. -/
def readVariables : IO (List (String × String)) :=
  Cli.settingNames.filterMapM fun name => do
    return (← IO.getEnv (Cli.variableName name)).map fun value => (Cli.variableName name, value)

def currentTime : IO Timestamp := do
  let now ← Std.Time.Timestamp.now
  return ⟨UInt64.ofNat now.toSecondsSinceUnixEpoch.val.toNat⟩

/-- Enough random bytes for a command that makes up to ten thousand challenges. -/
def randomBytes : Nat := 800000

/-- What an operation gives, unless it fails. -/
def attempt? {α : Type} (operation : IO α) : IO (Option α) := do
  try
    return some (← operation)
  catch _ =>
    return none

/-- The settings file, if one is named and can be read. -/
def readFiles (o : Cli.Overrides) : IO (List (String × String)) := do
  let some path := o.configFile | return []
  let some content ← attempt? (IO.FS.readFile path) | return []
  return [(path, content)]

/-- Adds the database of a data directory, if there is one. -/
def withStoredDatabase (directory : String) (disk : Cli.Disk) : IO Cli.Disk := do
  let some image ← attempt? (IO.FS.readBinFile (databasePath directory)) | return disk
  let some environment := Durable.Environment.ofImage? image.toList | return disk
  return disk.setDatabase (Cli.Path.split directory).place environment

/-- Writes the database of a data directory. -/
def storeDatabase (directory : String) (disk : Cli.Disk) : IO Unit := do
  let some environment := disk.databases.lookup (Cli.Path.split directory).place | return
  IO.FS.createDirAll directory
  IO.FS.writeBinFile (databasePath directory) ⟨environment.image.toArray⟩

/-- Prints the outcome of a command and gives the exit code. -/
def finish (outcome : Cli.Outcome) : IO UInt32 := do
  IO.print outcome.printed
  match outcome.fault with
  | none => return 0
  | some fault =>
    IO.eprint fault.report
    return 1

/-- Runs a command line. -/
def execute (arguments : List String) : IO UInt32 := do
  let environment ← readVariables
  let some (overrides, _) := Cli.readCommandLine arguments environment
    | IO.eprintln "the command line cannot be understood"
      return 2
  let disk := Cli.Disk.ofFiles (← readFiles overrides)
  match Cli.effectiveConfig overrides disk with
  | .error fault => finish (.failure fault)
  | .ok config =>
    let disk ← withStoredDatabase config.dataDir disk
    let entropy := Entropy.ofBytes (← IO.getRandomBytes randomBytes.toUSize)
    let (outcome, disk) := Cli.run arguments ⟨environment, ← currentTime, entropy⟩ disk
    storeDatabase config.dataDir disk
    finish (outcome.getD ⟨"", none⟩)

end Vouch.Program

/-- Runs the command line that the program was started with. -/
def main (arguments : List String) : IO UInt32 :=
  Vouch.Program.execute arguments
