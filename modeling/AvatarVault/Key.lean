import AvatarVault.Bytes
import AvatarVault.Error
import AvatarVault.Text.Base64
import AvatarVault.Text.Blank
/-!
Profile keys: 32 secret bytes, given as bytes or as base64 text.
-/
namespace AvatarVault

/-- The number of bytes of a profile key. -/
def keySize : Nat := 32

/-- A profile key. -/
structure ProfileKey where
  bytes : Bytes 32
  deriving DecidableEq

/-- Why something is no profile key. -/
inductive KeyFailure where
  /-- The number of bytes is wrong. -/
  | size (actual : Nat)
  /-- The text is no base64. -/
  | encoding (cause : Base64.Failure)
  deriving DecidableEq, Repr

/-- The failure as the error of an upload. -/
def KeyFailure.toUploadError : KeyFailure → UploadError
  | size actual => .validation s!"profile key must be {keySize} bytes, got {actual}"
  | encoding cause => .validation s!"profile key is not valid base64: {cause.message}"

namespace ProfileKey

/-- The key made of exactly these bytes. -/
def ofBytes (b : ByteArray) : Except KeyFailure ProfileKey :=
  match Bytes.ofByteArray? 32 b with
  | some bytes => .ok ⟨bytes⟩
  | none => .error (.size b.size)

theorem ofBytes_eq_ok_iff {b : ByteArray} {k : ProfileKey} :
    ofBytes b = .ok k ↔ b = k.bytes.val := by
  rw [← Bytes.ofByteArray?_eq_some_iff]
  unfold ofBytes
  cases Bytes.ofByteArray? 32 b with
  | none => simp
  | some bytes =>
    cases k
    simp

/-- The key given as base64 text; blanks around the text do not count. -/
def ofBase64 (s : String) : Except KeyFailure ProfileKey :=
  match Base64.decode (trim s).toUTF8.data.toList with
  | .ok bytes => ofBytes (bytesOfList bytes)
  | .error cause => .error (.encoding cause)

/-- A key shows nothing of its bytes. -/
def describe (_ : ProfileKey) : String := "ProfileKey \x7b bytes: \"[REDACTED]\" \x7d"

end ProfileKey

end AvatarVault
