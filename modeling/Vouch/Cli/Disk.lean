import Vouch.Cli.Path
import Vouch.Durable.Environment

/-!
# Files and directories

The part of a file system that a node needs: files, from which settings are read, and directories,
which may hold a database.
-/

namespace Vouch.Cli

/-- What a file holds. -/
inductive Content where
  | text (s : String)
  -- Bytes that are no text.
  | binary
  deriving DecidableEq, Repr

/-- Files, directories and databases. -/
structure Disk where
  files : List (Place × Content)
  directories : List Place
  databases : List (Place × Durable.Environment)

namespace Disk

-- The directories that every system has.
def systemDirectories : List Place :=
  Place.root :: ["dev", "etc", "home", "proc", "sys", "tmp", "usr", "var"].map fun name =>
    Place.root ++ [name]

-- The file of the system that is always empty.
def nullDevice : Place := Place.root ++ ["dev", "null"]

/-- A working directory that holds some files. -/
def ofFiles (files : List (String × String)) : Disk where
  files := files.map fun (path, content) => ((Path.split path).place, .text content)
  directories := []
  databases := []

def content? (disk : Disk) (place : Place) : Option Content :=
  if place = nullDevice then some (.text "") else disk.files.lookup place

def isFile (disk : Disk) (place : Place) : Bool :=
  (disk.content? place).isSome

def isDirectory (disk : Disk) (place : Place) : Bool :=
  place.all (· = "..") || systemDirectories.contains place || disk.directories.contains place
    || disk.files.any fun file => file.1.ancestors.contains place

def «exists» (disk : Disk) (place : Place) : Bool :=
  disk.isFile place || disk.isDirectory place

-- Walks from a place along some names.  Each of them needs a directory to be looked up in.
def walk (disk : Disk) (place : Place) : List String → Except DiskFault Place
  | [] => .ok place
  | name :: rest =>
    if !disk.isDirectory place then
      .error (if disk.isFile place then .notDirectory else .missing)
    else if Path.maxName < name.utf8ByteSize then
      .error .nameTooLong
    else
      disk.walk (place.step name) rest

-- A walk ends where its names lead.
theorem eq_foldl_of_walk {disk : Disk} {place last : Place} {names : List String}
    (h : disk.walk place names = .ok last) : last = names.foldl Place.step place := by
  induction names generalizing place with
  | nil => simpa [walk] using h.symm
  | cons name rest ih =>
    simp only [walk] at h
    split at h
    · exact nomatch h
    · split at h
      · exact nomatch h
      · exact ih h

-- Finds what a path leads to; behind a slash at its end that can only be a directory.
def find (disk : Disk) (path : Path) : Except DiskFault Place :=
  disk.walk path.start (path.names ++ if path.closed then ["."] else [])

def leadsToDirectory (disk : Disk) (path : Path) : Bool :=
  match disk.find path with
  | .ok place => disk.isDirectory place
  | .error _ => false

def readFile (disk : Disk) (path : String) : Except DiskFault String := do
  let place ← disk.find (← Path.ofText path)
  match disk.content? place with
  | some (.text content) => .ok content
  | some .binary => .error .notText
  | none => .error (if disk.isDirectory place then .isDirectory else .missing)

def setFile (disk : Disk) (place : Place) (content : Content) : Disk :=
  { disk with files := (place, content) :: disk.files.filter fun file => file.1 ≠ place }

def makeDirectory (disk : Disk) (path : Path) : Except DiskFault Disk := do
  let place ← disk.walk path.start path.names
  if path.names.getLast?.any [".", ".."].contains || disk.exists place then .error .exists
  else .ok { disk with directories := place :: disk.directories }

-- Makes a directory unless there is one.
def ensureDirectory (disk : Disk) (path : Path) : Except DiskFault Disk :=
  match disk.makeDirectory path with
  | .ok disk => .ok disk
  | .error fault => if disk.leadsToDirectory path then .ok disk else .error fault

/-- Makes a directory unless there is one, and first those on the way to it that are missing.
Those stay even if the last one cannot be made. -/
def makeTree (disk : Disk) (path : Path) : Except DiskFault Unit × Disk :=
  if path.names = [] then (.ok (), disk)
  else
    match disk.ensureDirectory path with
    | .ok disk => (.ok (), disk)
    | .error .missing =>
      match disk.makeTree path.parent with
      | (.error fault, disk) => (.error fault, disk)
      | (.ok (), disk) =>
        match disk.ensureDirectory path with
        | .ok disk => (.ok (), disk)
        | .error fault => (.error fault, disk)
    | .error fault => (.error fault, disk)
termination_by path.names.length
decreasing_by exact path.length_names_parent ‹path.names ≠ []›

/-- The database in a directory, which may hold one already. -/
def database (disk : Disk) (place : Place) : Durable.Environment :=
  (disk.databases.lookup place).getD .blank

/-- Writes a database into its directory. -/
def setDatabase (disk : Disk) (place : Place) (e : Durable.Environment) : Disk :=
  { disk with databases := (place, e) :: disk.databases.filter fun entry => entry.1 ≠ place }

end Disk

end Vouch.Cli
