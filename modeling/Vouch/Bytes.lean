/-!
# Byte strings

A byte string is a list of bytes.  Numbers are written in a fixed number of bytes, by `bigEndian`
with the most significant byte first and by `littleEndian` with the least significant first, and
read back by `ofBigEndian` and `ofLittleEndian`.  Text is stored as its UTF-8 bytes.
-/

namespace Vouch

abbrev Bytes := List UInt8

namespace Bytes

/-- The `width` low bytes of `n`, least significant first. -/
def littleEndian : (width : Nat) → (n : Nat) → Bytes
  | 0, _ => []
  | width + 1, n => UInt8.ofNat n :: littleEndian width (n / 256)

/-- The `width` low bytes of `n`, most significant first. -/
def bigEndian (width n : Nat) : Bytes :=
  (littleEndian width n).reverse

def ofLittleEndian : Bytes → Nat
  | [] => 0
  | b :: rest => b.toNat + 256 * ofLittleEndian rest

def ofBigEndian (bs : Bytes) : Nat :=
  ofLittleEndian bs.reverse

theorem length_littleEndian (width n : Nat) : (littleEndian width n).length = width := by
  induction width generalizing n with
  | zero => rfl
  | succ width ih => simp [littleEndian, ih]

theorem length_bigEndian (width n : Nat) : (bigEndian width n).length = width := by
  simp [bigEndian, length_littleEndian]

-- Reading back `width` bytes recovers the number up to the bytes dropped.
theorem ofLittleEndian_littleEndian (width n : Nat) :
    ofLittleEndian (littleEndian width n) = n % Nat.pow 256 width := by
  induction width generalizing n with
  | zero => simp [littleEndian, ofLittleEndian, Nat.mod_one]
  | succ width ih =>
    simp only [littleEndian, ofLittleEndian, ih]
    have hpow : Nat.pow 256 (width + 1) = 256 * Nat.pow 256 width := Nat.mul_comm _ _
    rw [hpow, Nat.mod_mul]
    simp

theorem ofBigEndian_bigEndian (width n : Nat) :
    ofBigEndian (bigEndian width n) = n % Nat.pow 256 width := by
  simp [ofBigEndian, bigEndian, ofLittleEndian_littleEndian]

-- Bytes are recovered from the number they stand for.
theorem littleEndian_ofLittleEndian (bs : Bytes) :
    littleEndian bs.length (ofLittleEndian bs) = bs := by
  induction bs with
  | nil => rfl
  | cons b rest ih =>
    have hb := b.toNat_lt
    have hlow : UInt8.ofNat (b.toNat + 256 * ofLittleEndian rest) = b := by
      apply UInt8.toNat_inj.mp
      simp
    have hhigh : (b.toNat + 256 * ofLittleEndian rest) / 256 = ofLittleEndian rest := by omega
    simp [littleEndian, ofLittleEndian, hlow, hhigh, ih]

def ofText (s : String) : Bytes :=
  s.toByteArray.data.toList

/-- The text a byte string is the UTF-8 form of, if it is one. -/
def toText? (bs : Bytes) : Option String :=
  if h : (ByteArray.mk bs.toArray).IsValidUTF8 then some ⟨_, h⟩ else none

theorem toText?_ofText (s : String) : toText? (ofText s) = some s := by
  have h : ByteArray.mk (ofText s).toArray = s.toByteArray := by
    simp [ofText]
  unfold toText?
  rw [dif_pos (by rw [h]; exact s.isValidUTF8)]
  cases s
  simp [ofText]

theorem ofText_of_toText? {bs : Bytes} {s : String} (h : toText? bs = some s) :
    ofText s = bs := by
  unfold toText? at h
  split at h
  · cases h
    simp [ofText]
  · cases h

/-- Whether `p` begins `bs`; the byte strings that begin with a key's first part are listed
together. -/
def startsWith (bs p : Bytes) : Bool :=
  p.isPrefixOf bs

/-- Lexicographic order on byte strings, a proper beginning coming first. -/
def lt : Bytes → Bytes → Bool
  | _, [] => false
  | [], _ :: _ => true
  | a :: as, b :: bs => a < b || (a == b && lt as bs)

end Bytes

end Vouch
