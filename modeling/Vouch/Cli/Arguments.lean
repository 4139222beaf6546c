/-!
# Arguments

An argument that begins with two dashes is the name of an option, whose value follows an equals
sign or is the next argument; other arguments that begin with a dash are refused.  After two dashes
alone every argument is a plain word.  Nothing may be given twice.
-/

namespace Vouch.Cli

/-- The arguments that a command takes. -/
structure Form where
  -- The options that have a value.
  options : List String
  -- The options that have none.
  flags : List String
  -- How many plain words there are.
  words : Nat
  -- Whether the first plain word names a command, which takes the rest.
  isGroup : Bool

/-- The arguments of a command, sorted. -/
structure Arguments where
  values : List (String × String)
  flags : List String
  words : List String

namespace Arguments

def none : Arguments := ⟨[], [], []⟩

def value? (a : Arguments) (name : String) : Option String :=
  a.values.lookup name

def setValue (a : Arguments) (name value : String) : Option Arguments :=
  if (a.value? name).isSome then .none else some { a with values := (name, value) :: a.values }

def setFlag (a : Arguments) (name : String) : Option Arguments :=
  if a.flags.contains name then .none else some { a with flags := name :: a.flags }

end Arguments

-- The name of the option that an argument is, and the value after its equals sign.
def optionName? (argument : String) : Option (String × Option String) :=
  match argument.toList with
  | '-' :: '-' :: rest =>
    let value := (rest.dropWhile (· ≠ '=')).tail?
    some (String.ofList (rest.takeWhile (· ≠ '=')), value.map String.ofList)
  | _ => none

-- Whether an argument can be no plain word: it begins with a dash and goes on.
def isDashed (argument : String) : Bool :=
  match argument.toList with
  | '-' :: _ :: _ => true
  | _ => false

/-- Sorts the arguments of a command.  Of a group, the rest begins with the name of a command.
`waiting` is the option whose value comes next, if there is one. -/
def sortArguments (form : Form) (a : Arguments) (waiting : Option String) :
    List String → Option (Arguments × List String)
  | [] => if waiting.isSome then none else some (a, [])
  | argument :: rest =>
    match waiting with
    | some name =>
      if isDashed argument then none
      else (a.setValue name argument).bind fun a => sortArguments form a none rest
    | none =>
      if argument = "--" then
        if form.isGroup then none else some ({ a with words := a.words ++ rest }, [])
      else
        match optionName? argument with
        | some (name, some value) =>
          if form.options.contains name then
            (a.setValue name value).bind fun a => sortArguments form a none rest
          else
            none
        | some (name, none) =>
          if form.flags.contains name then
            (a.setFlag name).bind fun a => sortArguments form a none rest
          else if form.options.contains name then
            sortArguments form a (some name) rest
          else
            none
        | none =>
          if isDashed argument then none
          else if form.isGroup then some (a, argument :: rest)
          else sortArguments form { a with words := a.words ++ [argument] } none rest

/-- Sorts the arguments of a command that is no group, all of which have to be there. -/
def allArguments (form : Form) (arguments : List String) : Option Arguments := do
  let (a, _) ← sortArguments form .none none arguments
  guard (a.words.length = form.words ∧ form.options.all fun name => (a.value? name).isSome)
  return a

end Vouch.Cli
