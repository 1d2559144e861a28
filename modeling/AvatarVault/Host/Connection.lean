import AvatarVault.Config
import AvatarVault.Environment
import AvatarVault.Text.Quoted
/-!
Reaching the file host: credentials from the environment, the rule on unencrypted endpoints,
the bucket and the region.
-/
namespace AvatarVault

/-- Why the file host cannot be reached. -/
inductive ConnectionFault where
  /-- Neither of two variables holds a credential. -/
  | noCredential (first second : String)
  /-- The endpoint is not encrypted although encryption is asked for. -/
  | plaintextEndpoint (endpoint : String)
  /-- The bucket has no name. -/
  | noBucket (bucket : String)
  /-- There is no region for the bucket. -/
  | noRegion (bucket : String)
  deriving DecidableEq, Repr

/-- The fault in words. -/
def ConnectionFault.message : ConnectionFault → String
  | noCredential first second => "S3 credentials not set: export " ++ first ++ " or " ++ second
  | plaintextEndpoint endpoint =>
    "file host endpoint uses plaintext HTTP (" ++ endpoint ++ ") but storage.enforce_tls is set"
  | noBucket bucket | noRegion bucket => "creating S3 operator for bucket " ++ bucket

/-- The key pair for the file host. -/
structure StorageCredentials where
  accessKeyId : String
  secretAccessKey : String
  deriving DecidableEq

namespace StorageCredentials

/-- The value of the first variable, or else of the second. -/
def pick (e : Environment) (first second : String) : Except ConnectionFault String :=
  match (e.text? first).or (e.text? second) with
  | some value => .ok value
  | none => .error (.noCredential first second)

/-- The credentials in the environment. -/
def ofEnvironment (e : Environment) : Except ConnectionFault StorageCredentials := do
  let accessKeyId ← pick e "AWS_ACCESS_KEY_ID" "AVAULT_ACCESS_KEY_ID"
  let secretAccessKey ← pick e "AWS_SECRET_ACCESS_KEY" "AVAULT_SECRET_ACCESS_KEY"
  return { accessKeyId, secretAccessKey }

/-- Credentials show their name only. -/
def describe (c : StorageCredentials) : String :=
  "StorageCredentials \x7b access_key_id: " ++ Quoted.text c.accessKeyId
    ++ ", secret_access_key: \"[redacted]\" \x7d"

end StorageCredentials

/-- Refuses an endpoint without encryption where encryption is asked for. -/
def checkEndpoint (s : StorageSettings) : Except ConnectionFault Unit :=
  if "http://".toList.isPrefixOf s.endpoint.toList && s.enforceTls then
    .error (.plaintextEndpoint s.endpoint)
  else .ok ()

/-- Refuses settings that no region can mend. -/
def checkBucket (s : StorageSettings) : Except ConnectionFault Unit := do
  checkEndpoint s
  if s.bucket.isEmpty then throw (.noBucket s.bucket)

/-- A way to the file host; opening one sends nothing. -/
structure Connection where
  scheme : String := "s3"
  bucket : String
  region : String
  root : String := "/"
  deriving DecidableEq, Repr

/-- The way to the bucket that the settings name, in their region or else in the one given. -/
def connect (s : StorageSettings) (_ : StorageCredentials) (region : Option String) :
    Except ConnectionFault Connection := do
  checkBucket s
  if !s.region.isEmpty then return { bucket := s.bucket, region := s.region }
  match region with
  | some region => return { bucket := s.bucket, region }
  | none => throw (.noRegion s.bucket)

end AvatarVault
