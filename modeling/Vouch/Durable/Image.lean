import Vouch.Binary.Codec
import Vouch.Durable.Environment

/-!
# Images of the database

An environment is kept on disk as one byte string: the entries of each byte map, one map after the
other.
-/

namespace Vouch.Durable

-- The names of the byte maps, in the order of the image.
def databaseNames : List String :=
  ["addresses", "slots", "value_index", "challenges", "active_by_address", "address_challenges",
    "identities", "messages", "meta"]

-- A byte string, after its length.
def blobCodec : Binary.Codec Bytes where
  encode bs := (Binary.Codec.natural 8).encode bs.length ++ bs
  decode bs :=
    match (Binary.Codec.natural 8).decode bs with
    | none => none
    | some (size, rest) => Binary.Codec.splitAt? size rest

-- The entries of a byte map.
def entriesCodec : Binary.Codec (List (Bytes × Bytes)) :=
  .list (.pair blobCodec blobCodec)

namespace Environment

def image (e : Environment) : Bytes :=
  databaseNames.flatMap fun name =>
    entriesCodec.encode (((e.database? name).map ByteMap.entries).getD [])

-- Reads the byte maps of the given names, one after the other.
def readImage (names : List String) (e : Environment) (bs : Bytes) : Option Environment :=
  match names with
  | [] => some e
  | name :: names =>
    match entriesCodec.decode bs with
    | none => none
    | some (entries, rest) =>
      let map := entries.foldl (fun map entry => map.insert entry.1 entry.2) ByteMap.empty
      readImage names (e.withDatabase name map) rest

def ofImage? (bs : Bytes) : Option Environment :=
  readImage databaseNames blank bs

end Environment

end Vouch.Durable
