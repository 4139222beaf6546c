/-!
# TOML values and tables

A table remembers how it came about, because that decides who may add to it: a table with a header
of its own is closed against dotted keys, and one written in braces against everything.  A header
may follow the headers of the tables inside it, and every `[[header]]` adds a table to an array.
-/

namespace Vouch

namespace Toml

/-- How a table came about. -/
inductive Origin where
  -- By a header of its own.
  | header
  -- By the header of a table inside it.
  | implied
  -- By a dotted key.
  | dotted
  -- In braces.
  | braces
  deriving DecidableEq, Repr

end Toml

inductive Toml where
  | text (s : String)
  | integer (n : Int)
  | bool (b : Bool)
  -- A number with a fraction or an exponent.
  | float
  -- A date, a time or both.
  | moment
  | array (items : List Toml)
  | table (origin : Toml.Origin) (entries : List (String × Toml))
  -- The tables that `[[header]]` makes.
  | tables (list : List (List (String × Toml)))
  deriving Repr

namespace Toml

/-- The entries of a table. -/
abbrev Entries := List (String × Toml)

namespace Entries

/-- The entries with a key's value replaced, or a new entry at the end. -/
def insert (key : String) (value : Toml) : Entries → Entries
  | [] => [(key, value)]
  | (key', value') :: rest =>
    if key' = key then (key, value) :: rest else (key', value') :: insert key value rest

-- The list with its last element changed.
def changeLast (f : Entries → Option Entries) (list : List Entries) : Option (List Entries) := do
  let last ← list.getLast?
  return list.dropLast ++ [← f last]

/-- Sets a value under a dotted key.  A key that has a value must not be set again, and tables on
the way are made if they are not there. -/
def set (path : List String) (key : String) (value : Toml) (entries : Entries) : Option Entries :=
  match path with
  | [] => if (entries.lookup key).isSome then none else some (entries.insert key value)
  | first :: rest =>
    match entries.lookup first with
    | none => do
      let inner ← set rest key value []
      return entries.insert first (.table .dotted inner)
    | some (.table origin inner) => do
      guard (origin = .dotted ∨ origin = .implied ∧ !rest.isEmpty)
      let inner ← set rest key value inner
      return entries.insert first (.table origin inner)
    | some (.tables list) => do
      guard !rest.isEmpty
      let list ← changeLast (set rest key value) list
      return entries.insert first (.tables list)
    | some _ => none

/-- Changes the table that headers call by a path.  Tables on the way are made if they are not
there; of an array of tables the last one is meant. -/
def change (f : Entries → Option Entries) (path : List String) (entries : Entries) :
    Option Entries :=
  match path with
  | [] => f entries
  | first :: rest =>
    match entries.lookup first with
    | none => do
      let inner ← change f rest []
      return entries.insert first (.table .implied inner)
    | some (.table .braces _) => none
    | some (.table origin inner) => do
      let inner ← change f rest inner
      return entries.insert first (.table origin inner)
    | some (.tables list) => do
      let list ← changeLast (change f rest) list
      return entries.insert first (.tables list)
    | some _ => none

/-- Makes the table of a header. -/
def openTable (key : String) (entries : Entries) : Option Entries :=
  match entries.lookup key with
  | none => some (entries.insert key (.table .header []))
  | some (.table .implied inner) => some (entries.insert key (.table .header inner))
  | some _ => none

/-- Makes another table of an array of tables. -/
def openArray (key : String) (entries : Entries) : Option Entries :=
  match entries.lookup key with
  | none => some (entries.insert key (.tables [[]]))
  | some (.tables list) => some (entries.insert key (.tables (list ++ [[]])))
  | some _ => none

end Entries

end Toml

end Vouch
