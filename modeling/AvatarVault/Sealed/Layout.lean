import AvatarVault.Bytes
import AvatarVault.Saturating
import AvatarVault.Cipher.Aead
/-!
The layout of a sealed avatar: a header of 24 random bytes, then the sealed segments.  Every
segment but the last seals 65536 bytes; the last one seals the rest, possibly nothing.  The
nonce of a segment is the header with the big-endian index added bitwise to its last eight
bytes; the associated data are the index and a byte that marks the last segment.
-/
namespace AvatarVault

/-- The number of bytes of a nonce. -/
def nonceSize : Nat := 24

/-- The number of bytes before the first segment. -/
def headerSize : Nat := nonceSize

/-- The number of plaintext bytes in every segment but the last. -/
def segmentSize : Nat := 64 * 1024

/-- The index of a segment as eight bytes, highest first. -/
def indexBytes (index : UInt64) : List UInt8 := bigEndian 8 index.toNat

/-- The nonce of a segment. -/
def segmentNonce (iv : Bytes 24) (index : UInt64) : Bytes 24 :=
  ⟨iv.val.extract 0 16 ++ xorBytes (iv.val.extract 16 24) (bytesOfList (indexBytes index)), by
    simp [ByteArray.size_append, ByteArray.size_extract, iv.property, indexBytes]⟩

/-- The associated data of a segment. -/
def segmentData (index : UInt64) (isFinal : Bool) : ByteArray :=
  bytesOfList (indexBytes index ++ [if isFinal then 1 else 0])

/-- The number of segments for a plaintext length; at least one. -/
def segmentCount (n : UInt64) : UInt64 := n / 65536 + 1

/-- The length of the sealed avatar for a plaintext length: the header, the plaintext and one
tag for each segment, or the largest counter where that does not fit. -/
def ciphertextLength (n : UInt64) : UInt64 :=
  saturatingAdd (saturatingAdd headerSize.toUInt64 n)
    (saturatingMul (segmentCount n) tagSize.toUInt64)

end AvatarVault
