import Vouch.Bytes

/-!
# Binary codecs

A codec writes a value as bytes and reads it back from the beginning of a byte string.  Numbers
have a fixed width and their lowest byte first, texts and lists are preceded by their length in
64 bits, a value that may be absent by a byte, and an alternative by its number in 32 bits.
-/

namespace Vouch.Binary

/-- A way to write values and to read them back together with the bytes that follow. -/
structure Codec (α : Type) where
  encode : α → Bytes
  decode : Bytes → Option (α × Bytes)

namespace Codec

variable {α β : Type}

/-- The first `n` bytes, if there are that many, and the rest. -/
def splitAt? (n : Nat) (bs : Bytes) : Option (Bytes × Bytes) :=
  if n ≤ bs.length then some (bs.splitAt n) else none

/-- A number of `width` bytes. -/
def natural (width : Nat) : Codec Nat where
  encode n := Bytes.littleEndian width n
  decode bs := (splitAt? width bs).map fun (number, rest) => (Bytes.ofLittleEndian number, rest)

/-- A codec for one type, through another. -/
def map (c : Codec α) (into : α → β) (back : β → α) : Codec β where
  encode b := c.encode (back b)
  decode bs := (c.decode bs).map fun (a, rest) => (into a, rest)

/-- A codec that refuses some values when reading. -/
def filterMap (c : Codec α) (into : α → Option β) (back : β → α) : Codec β where
  encode b := c.encode (back b)
  decode bs :=
    match c.decode bs with
    | none => none
    | some (a, rest) => (into a).map fun b => (b, rest)

/-- Two values, one after the other. -/
def pair (c : Codec α) (d : Codec β) : Codec (α × β) where
  encode p := c.encode p.1 ++ d.encode p.2
  decode bs :=
    match c.decode bs with
    | none => none
    | some (a, rest) =>
      match d.decode rest with
      | none => none
      | some (b, rest) => some ((a, b), rest)

def word32 : Codec UInt32 :=
  (natural 4).map UInt32.ofNat UInt32.toNat

def word64 : Codec UInt64 :=
  (natural 8).map UInt64.ofNat UInt64.toNat

/-- A truth value, in one byte that is zero or one. -/
def bool : Codec Bool :=
  (natural 1).filterMap (fun n => if n = 0 then some false else if n = 1 then some true else none)
    fun b => if b then 1 else 0

def bytes (size : Nat) : Codec { bs : Bytes // bs.length = size } where
  encode bs := bs.1
  decode bs :=
    if h : size ≤ bs.length then
      some (⟨bs.take size, List.length_take_of_le h⟩, bs.drop size)
    else
      none

/-- A text, as its length in bytes and its UTF-8 form. -/
def text : Codec String where
  encode s := (natural 8).encode (Bytes.ofText s).length ++ Bytes.ofText s
  decode bs :=
    match (natural 8).decode bs with
    | none => none
    | some (size, rest) =>
      match splitAt? size rest with
      | none => none
      | some (content, rest) => (Bytes.toText? content).map fun s => (s, rest)

/-- A value that may be absent, after a byte that says whether it is there. -/
def option (c : Codec α) : Codec (Option α) where
  encode
    | none => [0]
    | some a => 1 :: c.encode a
  decode
    | 0 :: rest => some (none, rest)
    | 1 :: rest => (c.decode rest).map fun (a, rest) => (some a, rest)
    | _ => none

-- Reads a number of values, one after the other.
def decodeMany (c : Codec α) : Nat → Bytes → Option (List α × Bytes)
  | 0, bs => some ([], bs)
  | n + 1, bs =>
    match c.decode bs with
    | none => none
    | some (a, rest) => (decodeMany c n rest).map fun (as, rest) => (a :: as, rest)

/-- A list, after its length. -/
def list (c : Codec α) : Codec (List α) where
  encode as := (natural 8).encode as.length ++ as.flatMap c.encode
  decode bs :=
    match (natural 8).decode bs with
    | none => none
    | some (n, rest) => decodeMany c n rest

/-- One of several values, by its number. -/
def oneOf [DecidableEq α] (values : List α) : Codec α :=
  (natural 4).filterMap (fun n => values[n]?) fun a => values.idxOf a

/-- The value at the beginning of a byte string; what follows does not matter. -/
def decodeStart? (c : Codec α) (bs : Bytes) : Option α :=
  (c.decode bs).map (·.1)

end Codec

end Vouch.Binary
