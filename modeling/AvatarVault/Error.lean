/-!
What can end an upload, and the words for it.
-/
namespace AvatarVault

/-- A failure that the file host reports.  A transient one may go away on another attempt. -/
structure TransportError where
  transient : Bool
  text : String
  deriving DecidableEq, Repr, Inhabited

/-- The failure in words. -/
def TransportError.message (e : TransportError) : String :=
  (if e.transient then "transient" else "fatal") ++ " transport error: " ++ e.text

/-- The ways in which an upload, or a step of it, can fail. -/
inductive UploadError where
  /-- The image, the key or a sealed text is not of the right form. -/
  | validation (text : String)
  /-- The key does not fit the cipher or the sealed text. -/
  | key (text : String)
  /-- A stream was used out of order. -/
  | state (text : String)
  /-- The host refused. -/
  | transport (cause : TransportError)
  /-- Every attempt met a transient failure. -/
  | exhaustedRetries (attempts : Nat) (last : TransportError)
  /-- The sealed text does not have its declared length. -/
  | internalEncoding (text : String)
  /-- The upload was cancelled before it was done. -/
  | cancelled
  /-- The task that ran the upload broke down. -/
  | worker (text : String)
  deriving DecidableEq, Repr, Inhabited

namespace UploadError

/-- The failure in words. -/
def message : UploadError → String
  | validation text => "validation error: " ++ text
  | key text => "key error: " ++ text
  | state text => "state error: " ++ text
  | transport cause => cause.message
  | exhaustedRetries attempts last =>
    s!"upload failed after {attempts} attempts: " ++ last.message
  | internalEncoding text => "internal encoding error: " ++ text
  | cancelled => "upload cancelled before completion"
  | worker text => "upload worker failed: " ++ text

/-- Only a transient failure of the host is worth another attempt. -/
def isRetryable : UploadError → Bool
  | transport cause => cause.transient
  | _ => false

end UploadError

end AvatarVault
