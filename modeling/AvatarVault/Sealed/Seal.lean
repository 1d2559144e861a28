import AvatarVault.Sealed.Stream
/-!
Sealing a whole avatar.
-/
namespace AvatarVault

/-- A sealed avatar and the digest of its bytes. -/
structure SealedAvatar where
  ciphertext : ByteArray
  digest : Digest

/-- The pieces one after another. -/
def concatPieces (pieces : List ByteArray) : ByteArray := pieces.foldl (· ++ ·) ByteArray.empty

/-- Drives a stream over the plaintext to its end and checks the length that it reports. -/
def sealAvatar (cipher : Aead) (plaintext : ByteArray) (key : ProfileKey) (iv : Bytes 24) :
    Except SealFailure SealedAvatar := do
  let stream ← Stream.start plaintext key.bytes.val iv
  let (drained, stream) := stream.drain cipher
  let ciphertext := concatPieces (← drained)
  let (length, digest) ← stream.finish.1
  if ciphertext.size.toUInt64 ≠ length then
    throw (.collected ciphertext.size length)
  return { ciphertext, digest }

end AvatarVault
