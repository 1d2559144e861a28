/-!
Byte strings: strings of a fixed length, bitwise exclusive or, and the two orders in which
a number is written as bytes.  The small lemmas give the length of every result.
-/
namespace AvatarVault

/-- Byte strings are compared as the core library does it. -/
instance decidableEqByteArray : DecidableEq ByteArray := ByteArray.instDecidableEq

/-- The byte strings of exactly `n` bytes. -/
abbrev Bytes (n : Nat) : Type := { b : ByteArray // b.size = n }

/-- The byte string itself when it has the wanted length. -/
def Bytes.ofByteArray? (n : Nat) (b : ByteArray) : Option (Bytes n) :=
  if h : b.size = n then some ⟨b, h⟩ else none

theorem Bytes.ofByteArray?_eq_some_iff {n : Nat} {b : ByteArray} {k : Bytes n} :
    Bytes.ofByteArray? n b = some k ↔ b = k.val := by
  unfold Bytes.ofByteArray?
  constructor
  · intro h
    split at h
    · simp only [Option.some.injEq] at h
      rw [← h]
    · simp at h
  · intro h
    subst h
    simp [k.property]

/-- Byte `i` of a string of known length. -/
def Bytes.get {n : Nat} (b : Bytes n) (i : Nat) (h : i < n) : UInt8 :=
  b.val.get i (by rw [b.property]; exact h)

/-- A byte string given by its bytes. -/
def bytesOfList (l : List UInt8) : ByteArray := ⟨l.toArray⟩

@[simp] theorem size_bytesOfList (l : List UInt8) : (bytesOfList l).size = l.length := rfl

/-- `n` times the byte `b`. -/
def replicateByte (n : Nat) (b : UInt8) : ByteArray := ⟨Array.replicate n b⟩

@[simp] theorem size_replicateByte (n : Nat) (b : UInt8) : (replicateByte n b).size = n := by
  rw [← ByteArray.size_data]
  simp [replicateByte]

/-- Byte by byte exclusive or, as long as the shorter of the two. -/
def xorBytes (a b : ByteArray) : ByteArray := ⟨Array.zipWith (· ^^^ ·) a.data b.data⟩

@[simp] theorem size_xorBytes (a b : ByteArray) : (xorBytes a b).size = min a.size b.size := by
  rw [← ByteArray.size_data]
  simp [xorBytes]

/-- Adding the same pad twice gives the text back. -/
theorem xorBytes_xorBytes (a pad : ByteArray) (h : a.size ≤ pad.size) :
    xorBytes (xorBytes a pad) pad = a := by
  apply ByteArray.ext
  apply Array.ext
  · simp only [xorBytes, Array.size_zipWith, ByteArray.size_data]
    omega
  · intro i h₁ h₂
    simp only [xorBytes, Array.getElem_zipWith, UInt8.xor_assoc, UInt8.xor_self, UInt8.xor_zero]

/-- The `k` low bytes of a number, lowest first. -/
def littleEndian : Nat → Nat → List UInt8
  | 0, _ => []
  | k + 1, n => n.toUInt8 :: littleEndian k (n / 256)

@[simp] theorem length_littleEndian (k n : Nat) : (littleEndian k n).length = k := by
  induction k generalizing n with
  | zero => rfl
  | succ k ih => simp [littleEndian, ih]

/-- The `k` low bytes of a number, highest first. -/
def bigEndian (k n : Nat) : List UInt8 := (littleEndian k n).reverse

@[simp] theorem length_bigEndian (k n : Nat) : (bigEndian k n).length = k := by
  simp [bigEndian]

/-- The number whose bytes are given, lowest first. -/
def ofLittleEndian : List UInt8 → Nat
  | [] => 0
  | b :: r => b.toNat + 256 * ofLittleEndian r

end AvatarVault
