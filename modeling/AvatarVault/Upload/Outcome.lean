import AvatarVault.Error
import AvatarVault.Upload.FileId
/-!
What is kept of an upload, and how an upload ends.
-/
namespace AvatarVault

/-- The record of a finished upload. -/
structure UploadMetadata where
  /-- Milliseconds since 1970 at which the upload was done. -/
  timestampMillis : UInt64
  url : String
  deriving DecidableEq, Repr, Inhabited

/-- The end of an upload as it is shown. -/
inductive UploadOutcome where
  | success (id : FileId) (url : String)
  | failure (error : UploadError)
  deriving DecidableEq, Repr

namespace UploadOutcome

/-- Whether the upload went through. -/
def isSuccess : UploadOutcome → Bool
  | success _ _ => true
  | failure _ => false

/-- The address of the avatar, when the upload went through. -/
def url? : UploadOutcome → Option String
  | success _ url => some url
  | failure _ => none

end UploadOutcome

end AvatarVault
