import Vouch.Text.Split

/-!
# Paths

A path is walked name by name, from the working directory or, if it begins with a slash, from the
root.  Where it leads can be told from its names, as no directory has a second name; whether the
walk succeeds depends on what stands on the way.
-/

namespace Vouch.Cli

/-- Why the file system refuses an operation. -/
inductive DiskFault where
  | missing
  | exists
  | notDirectory
  | isDirectory
  | nameTooLong
  | outOfMemory
  | nulByte
  | notText
  deriving DecidableEq, Repr

def DiskFault.message : DiskFault → String
  | .missing => "No such file or directory (os error 2)"
  | .outOfMemory => "Cannot allocate memory (os error 12)"
  | .exists => "File exists (os error 17)"
  | .notDirectory => "Not a directory (os error 20)"
  | .isDirectory => "Is a directory (os error 21)"
  | .nameTooLong => "File name too long (os error 36)"
  | .nulByte => "file name contained an unexpected NUL byte"
  | .notText => "stream did not contain valid UTF-8"

/-- A place in the tree of directories: the names on the way to it, from the working directory or
from the root, which is named `/`.  A place above the working directory begins with `..`. -/
abbrev Place := List String

namespace Place

/-- The directory that everything lies in. -/
def root : Place := ["/"]

/-- The directory that a place lies in; the root lies in itself. -/
def parent (place : Place) : Place :=
  if place = root then root
  else if place.all (· = "..") then place ++ [".."]
  else place.dropLast

/-- Where a name leads from a directory. -/
def step (place : Place) (name : String) : Place :=
  if name = "." then place
  else if name = ".." then place.parent
  else place ++ [name]

/-- The places on the way to a place, itself not included. -/
def ancestors (place : Place) : List Place :=
  (List.range place.length).map place.take

end Place

/-- A path, taken apart. -/
structure Path where
  start : Place
  names : List String
  -- Whether a slash ends the path.
  closed : Bool
  deriving DecidableEq, Repr

namespace Path

/-- The parts of a path.  Slashes in a row count as one. -/
def split (text : String) : Path where
  start := if text.toList.head? = some '/' then Place.root else []
  names := ((Text.fields '/' text.toList).filter (!·.isEmpty)).map String.ofList
  closed := text.toList.getLast? = some '/'

-- The longest path, in bytes.
def maxLength : Nat := 4095

/-- The longest name, in bytes. -/
def maxName : Nat := 255

/-- The parts of a path that the system accepts as one. -/
def ofText (text : String) : Except DiskFault Path :=
  if text.toList.contains '\x00' then .error .nulByte
  else if maxLength < text.utf8ByteSize then .error .nameTooLong
  else if text.isEmpty then .error .missing
  else .ok (split text)

/-- The place that a path leads to. -/
def place (path : Path) : Place :=
  path.names.foldl Place.step path.start

/-- The path without its last name.  Names that stand for the directory they are in do not
count. -/
def parent (path : Path) : Path where
  start := path.start
  names := (path.names.filter (· ≠ ".")).dropLast
  closed := false

theorem length_names_parent (path : Path) (h : path.names ≠ []) :
    path.parent.names.length < path.names.length := by
  have hlt := List.length_pos_iff.2 h
  have hle := List.length_filter_le (fun name => decide (name ≠ ".")) path.names
  simp only [parent, List.length_dropLast]
  omega

end Path

end Vouch.Cli
