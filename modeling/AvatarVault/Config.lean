import AvatarVault.Text.Blank
/-!
The settings of the program, their defaults, and the rules they obey.
-/
namespace AvatarVault

/-- The file host. -/
structure StorageSettings where
  endpoint : String := "http://localhost:8333"
  region : String := "us-east-1"
  bucket : String := "avatars"
  /-- Whether an endpoint without encryption is refused. -/
  enforceTls : Bool := false
  deriving DecidableEq, Repr, Inhabited

/-- The attempts of an upload. -/
structure UploadSettings where
  maxAttempts : UInt32 := 4
  initialBackoffMs : UInt64 := 500
  maxBackoffMs : UInt64 := 8000
  deriving DecidableEq, Repr, Inhabited

/-- The address under which avatars are found. -/
structure ServerSettings where
  baseUrl : String := "http://localhost:8333/avatars"
  deriving DecidableEq, Repr, Inhabited

/-- The file that records the last upload. -/
structure MetadataSettings where
  path : String := "~/.local/share/avault/profile.json"
  deriving DecidableEq, Repr, Inhabited

/-- The log. -/
structure LogSettings where
  level : String := "info"
  format : String := "text"
  deriving DecidableEq, Repr, Inhabited

/-- All settings. -/
structure Config where
  storage : StorageSettings := {}
  upload : UploadSettings := {}
  server : ServerSettings := {}
  metadata : MetadataSettings := {}
  log : LogSettings := {}
  deriving DecidableEq, Repr, Inhabited

/-- A rule that settings break. -/
inductive ConfigFault where
  /-- No attempt is allowed. -/
  | noAttempts
  /-- More attempts than the limit are allowed. -/
  | tooManyAttempts (asked : UInt32)
  /-- The first wait is longer than the longest. -/
  | backoffOrder (initial longest : UInt64)
  /-- There is no base address. -/
  | blankBaseUrl
  deriving DecidableEq, Repr

namespace Config

/-- The largest number of attempts that settings may ask for. -/
def attemptLimit : UInt32 := 4

/-- The text without the slashes at its end. -/
def dropTrailingSlashes (s : String) : String :=
  String.ofList (s.toList.reverse.dropWhile (· == '/')).reverse

/-- The settings with no slash at the end of the base address. -/
def normalize (c : Config) : Config :=
  { c with server := { c.server with baseUrl := dropTrailingSlashes c.server.baseUrl } }

/-- The first rule that the settings break. -/
def fault? (c : Config) : Option ConfigFault :=
  if c.upload.maxAttempts = 0 then some .noAttempts
  else if attemptLimit < c.upload.maxAttempts then some (.tooManyAttempts c.upload.maxAttempts)
  else if c.upload.maxBackoffMs < c.upload.initialBackoffMs then
    some (.backoffOrder c.upload.initialBackoffMs c.upload.maxBackoffMs)
  else if isBlankText c.server.baseUrl then some .blankBaseUrl
  else none

end Config

/-- The broken rule in words. -/
def ConfigFault.message : ConfigFault → String
  | noAttempts => "upload.max_attempts must be at least 1"
  | tooManyAttempts asked =>
    s!"upload.max_attempts ({asked.toNat}) exceeds the limit of {Config.attemptLimit.toNat}"
  | backoffOrder initial longest =>
    s!"upload.initial_backoff_ms ({initial.toNat}) exceeds upload.max_backoff_ms ({longest.toNat})"
  | blankBaseUrl => "server.base_url must not be empty"

end AvatarVault
