import AvatarVault.Key.Provider
import AvatarVault.Sealed.Seal
import AvatarVault.Upload.Outcome
import AvatarVault.Upload.Retry
/-!
An upload from the image to its record: the key, one sealing, the calls of the host, and the
metadata of a success.
-/
namespace AvatarVault

/-- Everything known about an upload that went through. -/
structure UploadSuccess where
  id : FileId
  url : String
  /-- The digest of the bytes that the host got. -/
  digest : Digest
  ciphertextLength : UInt64
  attempts : Nat
  timestampMillis : UInt64

/-- The record of the upload. -/
def UploadSuccess.metadata (s : UploadSuccess) : UploadMetadata :=
  { timestampMillis := s.timestampMillis, url := s.url }

/-- A result as the end of an upload that is shown. -/
def UploadOutcome.ofResult : Except UploadError UploadSuccess → UploadOutcome
  | .ok s => .success s.id s.url
  | .error e => .failure e

/-- The settings that all uploads of one pipeline share. -/
structure Pipeline where
  /-- The base of all addresses, taken as it is. -/
  baseUrl : String
  policy : RetryPolicy := {}
  timer : Timer := .system

/-- The pipeline that settings ask for. -/
def Pipeline.ofConfig (c : Config) : Pipeline :=
  { baseUrl := c.server.baseUrl, policy := .ofSettings c.upload }

/-- What uploads use up: random headers and replies of the host. -/
structure Resources where
  ivs : Supply (Bytes 24)
  replies : Supply Reply

/-- One upload with all that it did. -/
structure UploadRun where
  ending : Ending UploadSuccess
  calls : List Call := []
  /-- The records handed to the metadata store, in order. -/
  recorded : List UploadMetadata := []
  /-- When the upload ended. -/
  finish : Nat
  cancellation : Cancellation
  resources : Resources

namespace Pipeline

/-- The text of the refusal of an empty image. -/
def emptyImage : UploadError := .validation "avatar image is empty"

/-- Checks the image and the key and seals the image with the next header.  A refused upload
draws no header. -/
def prepare (cipher : Aead) (plaintext : ByteArray) (key : Except UploadError ProfileKey)
    (ivs : Supply (Bytes 24)) : Except UploadError SealedAvatar × Supply (Bytes 24) :=
  if plaintext.isEmpty then (.error emptyImage, ivs)
  else match key with
    | .error e => (.error e, ivs)
    | .ok key =>
      ((sealAvatar cipher plaintext key ivs.head).mapError SealFailure.toUploadError, ivs.tail)

/-- What is known of a sealed avatar once the host has it. -/
def success (p : Pipeline) (avatar : SealedAvatar) (receipt : Receipt) (now : UInt64) :
    UploadSuccess :=
  { id := receipt.id
    url := fileUrl p.baseUrl receipt.id
    digest := avatar.digest
    ciphertextLength := avatar.ciphertext.size.toUInt64
    attempts := receipt.attempts
    timestampMillis := now }

/-- One upload.  `clock` tells the time of day at a moment; the record of a success is made at
the moment its last call ends. -/
def execute (cipher : Aead) (p : Pipeline) (clock : Nat → UInt64) (plaintext : ByteArray)
    (key : Except UploadError ProfileKey) (start : Nat) (cancellation : Cancellation)
    (resources : Resources) : UploadRun :=
  let (prepared, ivs) := prepare cipher plaintext key resources.ivs
  match prepared with
  | .error e =>
    { ending := .failed e, finish := start, cancellation, resources := { resources with ivs } }
  | .ok avatar =>
    let run := uploadWithRetries p.timer p.policy avatar.ciphertext start cancellation
      resources.replies
    let done (ending : Ending UploadSuccess) (recorded : List UploadMetadata) : UploadRun :=
      { ending, calls := run.calls, recorded, finish := run.finish
        cancellation := run.cancellation, resources := { ivs, replies := run.replies } }
    match run.ending with
    | .failed e => done (.failed e) []
    | .crashed => done .crashed []
    | .succeeded receipt =>
      let s := p.success avatar receipt (clock run.finish)
      done (.succeeded s) [s.metadata]

/-- An upload on the caller's own task, with a key given as bytes. -/
def run (cipher : Aead) (p : Pipeline) (clock : Nat → UInt64) (plaintext key : ByteArray)
    (start : Nat) (cancellation : Cancellation) (resources : Resources) : UploadRun :=
  p.execute cipher clock plaintext ((ProfileKey.ofBytes key).mapError KeyFailure.toUploadError)
    start cancellation resources

/-- An upload on a task of its own; a task that breaks down resolves to a worker failure. -/
def spawn (cipher : Aead) (p : Pipeline) (clock : Nat → UInt64) (plaintext : ByteArray)
    (key : Except UploadError ProfileKey) (start : Nat) (cancellation : Cancellation)
    (resources : Resources) : UploadRun :=
  let r := p.execute cipher clock plaintext key start cancellation resources
  { r with
    ending := match r.ending.settle with
      | .ok s => .succeeded s
      | .error e => .failed e }

/-- An upload on a task of its own, with a key given as bytes. -/
def upload (cipher : Aead) (p : Pipeline) (clock : Nat → UInt64) (plaintext key : ByteArray)
    (start : Nat) (cancellation : Cancellation) (resources : Resources) : UploadRun :=
  p.spawn cipher clock plaintext ((ProfileKey.ofBytes key).mapError KeyFailure.toUploadError)
    start cancellation resources

/-- An upload on a task of its own, which asks a provider for the key. -/
def uploadWithProvider (cipher : Aead) (p : Pipeline) (clock : Nat → UInt64)
    (plaintext : ByteArray) (provider : KeyProvider) (start : Nat) (cancellation : Cancellation)
    (resources : Resources) : UploadRun :=
  p.spawn cipher clock plaintext provider.encryptionKey start cancellation resources

end Pipeline

end AvatarVault
