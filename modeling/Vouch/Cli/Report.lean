import Vouch.Node
import Vouch.Text.Split

/-!
# Reports on errors

A report says what went wrong and, below that, what caused it.  The causes are numbered if there is
more than one; the further lines of a cause are indented like its first.
-/

namespace Vouch

-- What caused an error, nearest first.
def VerificationError.causes : VerificationError → List String
  | .invalidAddress cause => [cause.message]
  | .store cause => [cause.message]
  | _ => []

def Durable.EnvironmentError.causes : Durable.EnvironmentError → List String
  | .database message => [message]
  | .directory message => [message]
  | _ => []

def NodeError.causes : NodeError → List String
  | .verification cause => cause.message :: cause.causes
  | .store cause => [cause.message]
  | .database cause => cause.message :: cause.causes
  | .invalidAddress cause => [cause.message]
  | .publicUrl cause => [cause.message]
  | .mail cause => [cause.message]
  | .config _ => []

namespace Cli

/-- What went wrong, and what caused it, nearest first. -/
structure Fault where
  message : String
  causes : List String
  deriving DecidableEq, Repr

namespace Fault

def ofMessage (message : String) : Fault := ⟨message, []⟩

def ofVerification (e : VerificationError) : Fault := ⟨e.message, e.causes⟩

def ofNode (e : NodeError) : Fault := ⟨e.message, e.causes⟩

/-- A fault that came up while something else was attempted. -/
def during (message : String) (fault : Fault) : Fault := ⟨message, fault.message :: fault.causes⟩

-- A text with every line after the first indented.
def indent (width : Nat) (s : String) : String :=
  let lines := (Text.fields '\n' s.toList).map String.ofList
  ("\n".pushn ' ' width).intercalate lines

def causeLines (number : Option Nat) (cause : String) : String :=
  match number with
  | none => "\n    " ++ indent 4 cause
  | some n =>
    let digits := toString n
    "\n" ++ "".pushn ' ' (5 - digits.length) ++ digits ++ ": " ++ indent 7 cause

def report (fault : Fault) : String :=
  let causes :=
    match fault.causes with
    | [] => ""
    | [cause] => "\n\nCaused by:" ++ causeLines none cause
    | causes =>
      "\n\nCaused by:" ++
        String.join (causes.zipIdx.map fun (cause, n) => causeLines (some n) cause)
  "Error: " ++ fault.message ++ causes ++ "\n"

end Fault

end Cli

end Vouch
