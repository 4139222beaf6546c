import Vouch.Bytes

/-!
# BLAKE2b

The hash function BLAKE2b without a key, with a digest of up to sixty-four bytes.  The message is
cut into blocks of 128 bytes; each block is mixed into a chain of eight words by twelve rounds,
and the digest is the beginning of the last chain.
-/

namespace Vouch.Blake2b

-- The chain before the first block, parameters apart: the fractional parts of the square roots of
-- the first eight primes.
def initialWords : Vector UInt64 8 := #v[
  0x6A09E667F3BCC908, 0xBB67AE8584CAA73B, 0x3C6EF372FE94F82B, 0xA54FF53A5F1D36F1,
  0x510E527FADE682D1, 0x9B05688C2B3E6C1F, 0x1F83D9ABFB41BD6B, 0x5BE0CD19137E2179]

-- The order in which the ten distinct rounds take the words of a block.
def schedule : Vector (Vector (Fin 16) 16) 10 := #v[
  #v[0, 1, 2, 3, 4, 5, 6, 7, 8, 9, 10, 11, 12, 13, 14, 15],
  #v[14, 10, 4, 8, 9, 15, 13, 6, 1, 12, 0, 2, 11, 7, 5, 3],
  #v[11, 8, 12, 0, 5, 2, 15, 13, 10, 14, 3, 6, 7, 1, 9, 4],
  #v[7, 9, 3, 1, 13, 12, 11, 14, 2, 6, 5, 10, 4, 0, 15, 8],
  #v[9, 0, 5, 7, 2, 4, 10, 15, 14, 1, 11, 12, 6, 8, 3, 13],
  #v[2, 12, 6, 10, 0, 11, 8, 3, 4, 13, 7, 5, 15, 14, 1, 9],
  #v[12, 5, 1, 15, 14, 13, 4, 10, 0, 7, 6, 3, 9, 2, 8, 11],
  #v[13, 11, 7, 14, 12, 1, 3, 9, 5, 0, 15, 4, 8, 6, 2, 10],
  #v[6, 15, 14, 9, 11, 3, 0, 8, 12, 2, 13, 7, 1, 4, 10, 5],
  #v[10, 2, 8, 4, 7, 6, 1, 5, 15, 11, 9, 14, 3, 12, 13, 0]]

-- A word turned right by `n` bits.
def rotateRight (x n : UInt64) : UInt64 :=
  (x >>> n) ||| (x <<< (64 - n))

-- Mixes two words of the block into four words of the work vector.
def mix (v : Vector UInt64 16) (ia ib ic id : Fin 16) (x y : UInt64) : Vector UInt64 16 :=
  let a := v[ia] + v[ib] + x
  let d := rotateRight (v[id] ^^^ a) 32
  let c := v[ic] + d
  let b := rotateRight (v[ib] ^^^ c) 24
  let a := a + b + y
  let d := rotateRight (d ^^^ a) 16
  let c := c + d
  let b := rotateRight (b ^^^ c) 63
  (((v.set ia a).set ib b).set ic c).set id d

-- One round: the columns, then the diagonals.
def round (m v : Vector UInt64 16) (order : Vector (Fin 16) 16) : Vector UInt64 16 :=
  let v := mix v 0 4 8 12 m[order[0]] m[order[1]]
  let v := mix v 1 5 9 13 m[order[2]] m[order[3]]
  let v := mix v 2 6 10 14 m[order[4]] m[order[5]]
  let v := mix v 3 7 11 15 m[order[6]] m[order[7]]
  let v := mix v 0 5 10 15 m[order[8]] m[order[9]]
  let v := mix v 1 6 11 12 m[order[10]] m[order[11]]
  let v := mix v 2 7 8 13 m[order[12]] m[order[13]]
  mix v 3 4 9 14 m[order[14]] m[order[15]]

-- Mixes a block into the chain.  `count` is the number of message bytes up to its end.
def compress (h : Vector UInt64 8) (m : Vector UInt64 16) (count : Nat) (last : Bool) :
    Vector UInt64 8 :=
  let v := (h ++ initialWords : Vector UInt64 16)
  let v := v.set 12 (v[12] ^^^ UInt64.ofNat count)
  let v := v.set 13 (v[13] ^^^ UInt64.ofNat (count / UInt64.size))
  let v := if last then v.set 14 (v[14] ^^^ 0xFFFFFFFFFFFFFFFF) else v
  let v := (List.finRange 12).foldl
    (fun v i => round m v (schedule.get ⟨i.val % 10, Nat.mod_lt _ (by decide)⟩)) v
  Vector.ofFn fun i : Fin 8 => h[i] ^^^ v.get ⟨i.val, by omega⟩ ^^^ v.get ⟨i.val + 8, by omega⟩

-- The sixteen words of a block; what is missing at its end counts as zero.
def blockWords (block : Bytes) : Vector UInt64 16 :=
  Vector.ofFn fun i : Fin 16 =>
    UInt64.ofNat (Bytes.ofLittleEndian ((block.drop (8 * i.val)).take 8))

-- Mixes the rest of a message, of which `count` bytes came before, into the chain.  The last block
-- is the one that ends the message, full or not; an empty message has one empty block.
def absorb (h : Vector UInt64 8) (count : Nat) (rest : Bytes) : Vector UInt64 8 :=
  if rest.length ≤ 128 then
    compress h (blockWords rest) (count + rest.length) true
  else
    absorb (compress h (blockWords (rest.take 128)) (count + 128) false) (count + 128)
      (rest.drop 128)
termination_by rest.length
decreasing_by simp only [List.length_drop]; omega

/-- The digest of `size` bytes of a message. -/
def digest (size : Nat) (message : Bytes) : Bytes :=
  let h := initialWords.set 0 (initialWords[0] ^^^ (0x01010000 ^^^ UInt64.ofNat size))
  ((absorb h 0 message).toList.flatMap fun w => Bytes.littleEndian 8 w.toNat).take size

end Vouch.Blake2b
