import AvatarVault.Environment
import AvatarVault.Key
/-!
Where an upload gets its key from: a key already held, or base64 text decoded on request.
-/
namespace AvatarVault

/-- A source of a profile key. -/
inductive KeyProvider where
  /-- A key held in memory. -/
  | held (key : ProfileKey)
  /-- Base64 text. -/
  | encoded (text : String)

namespace KeyProvider

/-- The key for an upload. -/
def encryptionKey : KeyProvider → Except UploadError ProfileKey
  | held key => .ok key
  | encoded text => (ProfileKey.ofBase64 text).mapError KeyFailure.toUploadError

/-- The key text in a variable of the environment. -/
def ofEnvironment (e : Environment) (name : String) : Except UploadError KeyProvider :=
  match e.text? name with
  | some text => .ok (.encoded text)
  | none => .error (.validation (name ++ " is not set"))

/-- A provider shows nothing of its key. -/
def describe : KeyProvider → String
  | held key => "StaticKeyProvider \x7b key: " ++ key.describe ++ " \x7d"
  | encoded _ => "EncodedProfileKey \x7b encoded: SecretBox<str>([REDACTED]) \x7d"

end KeyProvider

end AvatarVault
