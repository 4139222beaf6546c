import Vouch.Json.Token
import Vouch.Json.Value

/-!
# Reading JSON

The tokens of a text are read one after another by a machine with a stack, which holds the arrays
and objects that are still open.  The depth of nesting is not bounded.
-/

namespace Vouch.Json

/-- An array or object that is still open, its contents last first. -/
inductive Frame where
  | array (items : List Json)
  -- An object; `broken` if one of its names has half of a surrogate pair.
  | object (members : List (String × Json)) (broken : Bool) (name : Option String)

/-- What may come next. -/
inductive Expect where
  | value
  | valueOrClose
  | name
  | nameOrClose
  | colon
  | commaOrClose
  -- Nothing: the value is complete.
  | nothing (result : Json)

structure Reader where
  stack : List Frame
  expect : Expect

namespace Reader

/-- The machine before the first token. -/
def start : Reader := ⟨[], .value⟩

-- Puts a complete value where it belongs.
def accept (stack : List Frame) (j : Json) : Option Reader :=
  match stack with
  | [] => some ⟨[], .nothing j⟩
  | .array items :: rest => some ⟨.array (j :: items) :: rest, .commaOrClose⟩
  | .object members bad (some name) :: rest =>
    some ⟨.object ((name, j) :: members) bad none :: rest, .commaOrClose⟩
  | .object _ _ none :: _ => none

/-- Reads a token where a value is expected. -/
def value (stack : List Frame) : Token → Option Reader
  | .null => accept stack .null
  | .bool b => accept stack (.bool b)
  | .number n => accept stack (.number n)
  | .otherNumber => accept stack .otherNumber
  | .text s => accept stack (.text s)
  | .brokenText => accept stack .broken
  | .openArray => some ⟨.array [] :: stack, .valueOrClose⟩
  | .openObject => some ⟨.object [] false none :: stack, .nameOrClose⟩
  | _ => none

-- Ends the innermost array or object.
def close (stack : List Frame) (token : Token) : Option Reader :=
  match stack, token with
  | .array items :: rest, .closeArray => accept rest (.array items.reverse)
  | .object members bad _ :: rest, .closeObject =>
    accept rest (if bad then .broken else .object members.reverse)
  | _, _ => none

/-- Reads a token where a name is expected. -/
def name (stack : List Frame) (token : Token) : Option Reader :=
  match stack, token with
  | .object members bad _ :: rest, .text s =>
    some ⟨.object members bad (some s) :: rest, .colon⟩
  | .object members _ _ :: rest, .brokenText => some ⟨.object members true (some "") :: rest, .colon⟩
  | _, _ => none

-- Reads a comma or the end of the innermost array or object.
def commaOrClose (stack : List Frame) (token : Token) : Option Reader :=
  match token, stack with
  | .comma, .array _ :: _ => some ⟨stack, .value⟩
  | .comma, .object .. :: _ => some ⟨stack, .name⟩
  | _, _ => close stack token

/-- Reads a token. -/
def step (r : Reader) (token : Token) : Option Reader :=
  match r.expect, token with
  | .value, _ => value r.stack token
  | .valueOrClose, .closeArray => close r.stack token
  | .valueOrClose, _ => value r.stack token
  | .name, _ => name r.stack token
  | .nameOrClose, .closeObject => close r.stack token
  | .nameOrClose, _ => name r.stack token
  | .colon, .colon => some ⟨r.stack, .value⟩
  | .colon, _ => none
  | .commaOrClose, _ => commaOrClose r.stack token
  | .nothing _, _ => none

/-- The value, once the tokens have ended. -/
def finish (r : Reader) : Option Json :=
  match r.expect with
  | .nothing j => some j
  | _ => none

end Reader

-- The value that tokens write.
def ofTokens? (tokens : List Token) : Option Json :=
  (tokens.foldlM Reader.step Reader.start).bind Reader.finish

def parse? (s : String) : Option Json :=
  (tokens? s.toList).bind ofTokens?

end Vouch.Json
