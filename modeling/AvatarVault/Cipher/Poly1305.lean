import AvatarVault.Bytes
/-!
The Poly1305 one-time authenticator, as arithmetic modulo 2^130 - 5.
-/
namespace AvatarVault.Poly1305

/-- The prime 2^130 - 5. -/
def prime : Nat := 0x3fffffffffffffffffffffffffffffffb

/-- The part of the key that multiplies, with its 22 fixed bits cleared. -/
def clamp (r : Nat) : Nat := r &&& 0x0ffffffc0ffffffc0ffffffc0fffffff

/-- The number at bytes `start` to `stop`, lowest byte first. -/
def numberAt (b : ByteArray) (start stop : Nat) : Nat :=
  ofLittleEndian (b.extract start stop).data.toList

/-- Folds in the sixteen-byte blocks from `start` on; each has a one after its last byte. -/
def accumulate (r : Nat) (message : ByteArray) (start acc : Nat) : Nat :=
  if start < message.size then
    let stop := min (start + 16) message.size
    let block := numberAt message start stop + 1 <<< (8 * (stop - start))
    accumulate r message (start + 16) ((acc + block) * r % prime)
  else acc
termination_by message.size - start

/-- The tag of a message under a one-time key. -/
def tag (key : Bytes 32) (message : ByteArray) : Bytes 16 :=
  let r := clamp (numberAt key.val 0 16)
  let s := numberAt key.val 16 32
  ⟨bytesOfList (littleEndian 16 (accumulate r message 0 0 + s)), by simp⟩

end AvatarVault.Poly1305
