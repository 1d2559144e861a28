import AvatarVault.Digest.Blake3
import AvatarVault.Error
import AvatarVault.Text.Quoted
/-!
Digests of sealed texts, their hexadecimal form, and digests over text that comes in pieces.
-/
namespace AvatarVault

/-- The BLAKE3 hash of a sealed text. -/
structure Digest where
  bytes : Bytes 32
  deriving DecidableEq

/-- Why a text names no digest. -/
inductive DigestFailure where
  /-- The text does not have 64 bytes. -/
  | length (actual : Nat)
  /-- A byte of the text is no hexadecimal digit. -/
  | symbol (code : UInt8)
  deriving DecidableEq, Repr

/-- The failure in words. -/
def DigestFailure.message : DigestFailure → String
  | length actual => s!"expected 64 hex bytes, received {actual}"
  | symbol code =>
    "invalid hex character: " ++
      if code < 0x80 then Quoted.char (Char.ofNat code.toNat) else "0x" ++ Hex.ofNat code.toNat

/-- The failure for a given text as the error of an upload. -/
def DigestFailure.toUploadError (text : String) (e : DigestFailure) : UploadError :=
  .validation ("invalid digest hex '" ++ text ++ "': " ++ e.message)

namespace Digest

/-- The digest of a text. -/
def of (b : ByteArray) : Digest := ⟨Blake3.hash b⟩

/-- Whether the text has this digest. -/
def verifies (d : Digest) (b : ByteArray) : Bool := of b = d

/-- Sixty-four lower-case digits. -/
def toHex (d : Digest) : String := Hex.encode d.bytes.val

/-- The digest that sixty-four digits of either case name. -/
def ofHex (s : String) : Except DigestFailure Digest :=
  let codes := s.toUTF8.data.toList
  if hs : codes.length = 64 then
    match hd : Hex.decode codes with
    | .ok bytes => .ok ⟨bytesOfList bytes, by simp [Hex.length_decode hd, hs]⟩
    | .error code => .error (.symbol code)
  else .error (.length codes.length)

/-- A digest in the making: the bytes taken in so far. -/
structure Running where
  taken : ByteArray

namespace Running

/-- Nothing taken in yet. -/
def empty : Running := ⟨ByteArray.empty⟩

/-- Takes in a further piece. -/
def absorb (r : Running) (piece : ByteArray) : Running := ⟨r.taken ++ piece⟩

/-- The digest of all that was taken in. -/
def digest (r : Running) : Digest := of r.taken

theorem digest_absorb (r : Running) (piece : ByteArray) :
    (r.absorb piece).digest = of (r.taken ++ piece) := rfl

end Running

end Digest

end AvatarVault
