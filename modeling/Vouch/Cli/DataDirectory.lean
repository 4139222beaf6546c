import Vouch.Cli.Disk

/-!
# The data directory

The directory of a node's database.  It holds a file with the records and one that locks them; both
are made when the database is opened.
-/

namespace Vouch.Cli

def dataFile : String := "data.mdb"

def lockFile : String := "lock.mdb"

-- The size of a page of memory, in bytes.
def pageSize : Nat := 4096

-- The size of the memory that can be addressed, in bytes.
def addressable : Nat := 0x800000000000

-- Checks that the size to which a database may grow is a number of pages.
def checkPages (bytes : UInt64) : Except Durable.EnvironmentError Unit :=
  if bytes.toNat % pageSize ≠ 0 then
    .error <| .database <|
      "map size (" ++ toString bytes.toNat ++ ") must be a multiple of the system page size ("
        ++ toString pageSize ++ ")"
  else
    .ok ()

-- Checks that the size to which a database may grow fits into the memory.
def checkMemory (bytes : UInt64) : Except Durable.EnvironmentError Unit :=
  if addressable ≤ bytes.toNat then .error (.database DiskFault.outOfMemory.message) else .ok ()

-- Makes the files of a database.  A file with records that is not empty has to hold records.
def makeFiles (place : Place) (disk : Disk) : Except Durable.EnvironmentError Unit × Disk :=
  let records := place ++ [dataFile]
  let lock := place ++ [lockFile]
  if disk.isDirectory lock then (.error (.database DiskFault.isDirectory.message), disk)
  else
    let disk := disk.setFile lock .binary
    if disk.isDirectory records then (.error (.database DiskFault.isDirectory.message), disk)
    else
      match (disk.content? records).getD (.text "") with
      | .text "" | .binary => (.ok (), disk.setFile records .binary)
      | .text _ => (.error (.database "MDB_INVALID: File is not an LMDB file"), disk)

-- Makes the directory that a path leads to.
def makeDataDirectory (path : String) (disk : Disk) :
    Except Durable.EnvironmentError Place × Disk :=
  if path.isEmpty then (.error (.database DiskFault.missing.message), disk)
  else
    match Path.ofText path with
    | .error fault => (.error (.directory fault.message), disk)
    | .ok path =>
      match disk.makeTree path with
      | (.error fault, disk) => (.error (.directory fault.message), disk)
      | (.ok (), disk) => (.ok path.place, disk)

def openDirectory (place : Place) (mapBytes : UInt64) (disk : Disk) :
    Except Durable.EnvironmentError Durable.Environment × Disk :=
  match checkPages mapBytes with
  | .error e => (.error e, disk)
  | .ok () =>
    match makeFiles place disk with
    | (.error e, disk) => (.error e, disk)
    | (.ok (), disk) =>
      match checkMemory mapBytes with
      | .error e => (.error e, disk)
      | .ok () =>
        match (disk.database place).reopen with
        | .error e => (.error e, disk)
        | .ok e => (.ok e, disk.setDatabase place e)

/-- Opens the database in the directory that a path leads to, which is made first.  The directory
stays even if there can be no database in it. -/
def openDatabase (path : String) (mapBytes : UInt64) (disk : Disk) :
    Except Durable.EnvironmentError Durable.Environment × Disk :=
  match makeDataDirectory path disk with
  | (.error e, disk) => (.error e, disk)
  | (.ok place, disk) => openDirectory place mapBytes disk

end Vouch.Cli
