import AvatarVault.CommandLine.Program
import AvatarVault.Config.Load
import AvatarVault.Host.Connection
import AvatarVault.Host.Profile
import AvatarVault.Record.Store
import AvatarVault.Sealed.Open
import AvatarVault.Upload.Pipeline
/-!
Carrying out a request: what is read and written, in which order, and what is said.  Nothing is
written before everything that can fail beforehand has gone well.
-/
namespace AvatarVault

/-- What the program says and how it ends. -/
structure Report where
  /-- Zero for success, one for a failed request, two for a faulty command line, 101 for a
  breakdown. -/
  exit : Nat := 0
  output : String := ""
  /-- The messages of a failure, the outermost first. -/
  errors : List String := []
  deriving DecidableEq, Repr, Inhabited

/-- What the program uses besides files: variables, the time of day, random headers and the
replies of the host. -/
structure Surroundings where
  environment : Environment
  clock : Nat → UInt64
  resources : Resources
  /-- What is wrong when the host is asked whether it answers; nothing where it does. -/
  health : Option (List String) := none

namespace Report

/-- A request that went well. -/
def success (output : String) : Report := { output }

/-- A failed request. -/
def failure (errors : List String) : Report := { exit := 1, errors }

/-- The end without a report. -/
def breakdown : Report := { exit := 101 }

/-- The messages of a failure as one text, each with the one that caused it below it. -/
def complaint (r : Report) : String :=
  match r.exit, r.errors with
  | 1, first :: causes =>
    let shown := match causes with
      | [] => []
      | [cause] => ["", "Caused by:", "    " ++ cause]
      | _ => "" :: "Caused by:" :: causes.zipIdx.map fun (cause, i) => s!"    {i}: {cause}"
    "\n".intercalate (("Error: " ++ first) :: shown)
  | _, errors => "\n".intercalate errors

/-- The end of a command line that is no request. -/
def ofStop (isColoured : Bool) : CommandLine.Stop → Report
  | .shown text => success (text ++ "\n")
  | .fault cause => { exit := 2, errors := [cause.message.render isColoured] }

end Report

/-- How a request fails. -/
inductive RequestFailure where
  /-- With messages, the outermost first. -/
  | told (messages : List String)
  /-- At once and without a word. -/
  | brokeDown (cause : Breakdown)
  deriving DecidableEq, Repr

/-- The report of a failed request. -/
def RequestFailure.report : RequestFailure → Report
  | told messages => .failure messages
  | brokeDown _ => .breakdown

/-- The result of a step of a request: a value, or how it failed. -/
abbrev Step (m : Type → Type) : Type → Type := ExceptT RequestFailure m

namespace CommandLine

variable {m : Type → Type} [Monad m] [FileAccess m]

/-- Takes the value of a step, or fails with messages made from its error. -/
def orFail {ε α : Type} (messages : ε → List String) (step : m (Except ε α)) : Step m α :=
  ExceptT.mk do
    match ← step with
    | .ok value => return .ok value
    | .error e => return .error (.told (messages e))

/-- Takes a value, or fails with messages made from the error. -/
def demand {ε α : Type} (messages : ε → List String) : Except ε α → Step m α
  | .ok value => pure value
  | .error e => throw (.told (messages e))

/-- The home directory. -/
def home (s : Surroundings) : Option RawText := s.environment.raw? "HOME"

/-- Opens the metadata file that the settings name. -/
def openStore (s : Surroundings) (c : Config) : Step m FileStore :=
  let path := (Path.ofString c.metadata.path).expandHome (home s)
  orFail (fun e => ["opening metadata store: " ++ path.display, e.message]) (FileStore.openAt path)

/-- The region to fall back on. -/
def ambientRegion (s : Surroundings) : Step m (Option String) :=
  ExceptT.mk do return (← findRegion s.environment).mapError .brokeDown

/-- The way to the file host.  The region is looked for even where the settings name one, so that
its faults count, but only for a bucket that is accepted. -/
def reachHost (s : Surroundings) (c : Config) : Step m Connection := do
  let credentials ← demand (fun e => [e.message])
    (StorageCredentials.ofEnvironment s.environment)
  let building (e : ConnectionFault) : List String := ["building storage operator", e.message]
  demand building (checkBucket c.storage)
  let region ← ambientRegion s
  demand building (connect c.storage credentials region)

/-- What is said of an upload that went through. -/
def describeSuccess (u : UploadSuccess) : String :=
  "url:      " ++ u.url ++ "\n" ++ "id:       " ++ u.id.text ++ "\n"
    ++ "digest:   " ++ u.digest.toHex ++ "\n"
    ++ s!"bytes:    {u.ciphertextLength.toNat}\n" ++ s!"attempts: {u.attempts}\n"

/-- Seals an image, uploads it and records the upload. -/
def upload (cipher : Aead) (s : Surroundings) (c : Config) (image : Path) (key : String) :
    Step m String := do
  let plaintext ← orFail (fun _ => ["reading avatar: " ++ image.display]) (FileAccess.read image)
  let _ ← reachHost s c
  let store ← openStore s c
  let run := (Pipeline.ofConfig c).uploadWithProvider cipher s.clock plaintext (.encoded key) 0
    none s.resources
  let _ ← (run.recorded.foldlM FileStore.record store : m FileStore)
  let success ← demand (fun (e : UploadError) => ["avatar upload failed", e.message])
    run.ending.settle
  return describeSuccess success

/-- Checks that a sealed text has the digest that a text names. -/
def checkDigest (content : ByteArray) (digest : String) : Step m Unit := do
  let expected ← demand (fun e => [(DigestFailure.toUploadError digest e).message])
    (Digest.ofHex digest)
  if !expected.verifies content then
    throw (.told ["digest mismatch: expected " ++ expected.toHex ++ ", file hashes to "
      ++ (Digest.of content).toHex])

/-- Opens a sealed avatar and writes the image. -/
def decrypt (cipher : Aead) (source output : Path) (key : String) (digest : Option String) :
    Step m String := do
  let content ← orFail (fun _ => ["reading sealed avatar: " ++ source.display])
    (FileAccess.read source)
  if let some digest := digest then checkDigest content digest
  let key ← demand (fun (e : KeyFailure) => [e.toUploadError.message]) (ProfileKey.ofBase64 key)
  let plaintext ← demand
    (fun (e : OpenFailure) =>
      ["opening sealed avatar: " ++ source.display, e.toUploadError.message])
    (openAvatar cipher content key)
  if let some parent := output.parent? then
    orFail (fun _ => ["creating output dir: " ++ parent.display])
      (FileAccess.makeDirectories parent)
  orFail (fun _ => ["writing avatar: " ++ output.display]) (FileAccess.write output plaintext)
  return s!"decrypted {plaintext.size} bytes → " ++ output.display ++ "\n"

/-- Shows the last record. -/
def last (s : Surroundings) (c : Config) : Step m String := do
  let store ← openStore s c
  match store.last? with
  | some record => return Record.describe record ++ "\n"
  | none => return "no avatar uploaded yet (" ++ store.path.display ++ ")\n"

/-- Checks that the file host answers. -/
def status (s : Surroundings) (c : Config) : Step m String := do
  let _ ← reachHost s c
  match s.health with
  | some errors => throw (.told errors)
  | none => return "storage: ok (" ++ c.storage.endpoint ++ " / " ++ c.storage.bucket ++ ")\n"

/-- Shows the settings. -/
def showConfig (c : Config) (path : Path) : Step m String :=
  match c.encode? with
  | some text => return "# config: " ++ path.display ++ "\n" ++ text ++ "\n"
  | none => throw (.told ["serializing config"])

/-- Loads the settings and carries out a request. -/
def perform (cipher : Aead) (s : Surroundings) (i : Invocation) : Step m String := do
  let path := i.config.expandHome (home s)
  let config ← orFail (fun e => [e.message]) (Config.load path)
  match i.request with
  | .upload image key => upload cipher s config image key
  | .decrypt source output key digest => decrypt cipher source output key digest
  | .last => last s config
  | .status => status s config
  | .showConfig => showConfig config path

/-- More worker threads than any memory has room for. -/
def workerLimit : Nat := 0x1000000000000000

/-- Refuses a number of worker threads that is of no use. -/
def checkWorkers (e : Environment) : Except Breakdown Unit :=
  match e.raw? "TOKIO_WORKER_THREADS" with
  | none => .ok ()
  | some value =>
    match value.toString?.bind Unsigned.read? with
    | some count => if 0 < count && count < workerLimit then .ok () else .error .workerCount
    | none => .error .workerCount

/-- Runs the program on the arguments of a command line. -/
def run (cipher : Aead) (s : Surroundings) (arguments : List RawText) : m Report := do
  match checkWorkers s.environment, invocation s.environment arguments with
  | .error _, _ => return .breakdown
  | .ok (), .error stop => return .ofStop (wantsColour s.environment) stop
  | .ok (), .ok i =>
    match ← (perform cipher s i).run with
    | .ok output => return .success output
    | .error failure => return failure.report

end CommandLine

end AvatarVault
