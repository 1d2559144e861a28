import AvatarVault.Cipher.XChaCha20Poly1305
import AvatarVault.CommandLine.Run
/-!
The program on a real machine: files, variables, random headers and the terminal.  There is no
way to a file host from here: every call is refused for good, so nothing is ever recorded.
-/
namespace AvatarVault.Main

/-- A failed file operation as the kind of its failure. -/
def failure : IO.Error → FileError
  | .noFileOrDirectory .. => .notFound
  | .alreadyExists .. => .alreadyExists
  | .inappropriateType .. => .notDirectory
  | .invalidArgument .. => .invalidPath
  | _ => .other

/-- The result of a file operation, where a failure is a value. -/
def attempt {α : Type} (operation : IO α) : IO (Except FileError α) := do
  match ← operation.toBaseIO with
  | .ok value => return .ok value
  | .error e => return .error (failure e)

/-- Whether a file operation goes well. -/
def succeeds {α : Type} (operation : IO α) : IO Bool := do
  return (← attempt operation).isOk

instance : FileAccess IO where
  pathExists p := succeeds (IO.FS.realPath p.display)
  isDirectory p := succeeds (IO.FS.realPath (p.display ++ "/."))
  read p := attempt (IO.FS.readBinFile p.display)
  write p content := attempt (IO.FS.writeBinFile p.display content)
  makeDirectory p := attempt (IO.FS.createDir p.display)
  rename source target := attempt (IO.FS.rename source.display target.display)

/-- The variables that the program reads. -/
def variableNames : List String :=
  ["HOME", "AVAULT_CONFIG", "AVAULT_LOG", "AVAULT_LOG_FORMAT", "AVAULT_PROFILE_KEY",
    "AWS_ACCESS_KEY_ID", "AVAULT_ACCESS_KEY_ID", "AWS_SECRET_ACCESS_KEY",
    "AVAULT_SECRET_ACCESS_KEY", "AWS_PROFILE", "AWS_CONFIG_FILE", "AWS_REGION",
    "TOKIO_WORKER_THREADS", "NO_COLOR", "CLICOLOR_FORCE"]

/-- The values of the variables that are set. -/
def environment : IO Environment := do
  let values ← variableNames.filterMapM fun name => do
    return (← IO.getEnv name).map fun value => (name, RawText.ofString value)
  return ⟨values⟩

/-- Random headers for sealed avatars. -/
def headers : IO (Supply (Bytes 24)) := do
  let drawn ← IO.getRandomBytes 24
  match Bytes.ofByteArray? 24 drawn with
  | some header => return .ofList [] header
  | none => throw (IO.userError "no random bytes")

/-- The refusal of every call. -/
def refusal : Reply :=
  { answer := .refused { transient := false, text := "no way to the file host" } }

/-- Runs the program on arguments. -/
def start (arguments : List String) : IO UInt32 := do
  let surroundings : Surroundings := {
    environment := ← environment
    clock := fun _ => 0
    resources := { ivs := ← headers, replies := .ofList [] refusal }
    health := some ["file host health check failed listing files/", "no way to the file host"] }
  let report ← CommandLine.run XChaCha20Poly1305.aead surroundings (arguments.map .ofString)
  IO.print report.output
  if !report.errors.isEmpty then IO.eprintln report.complaint
  return report.exit.toUInt32

end AvatarVault.Main

/-- The program. -/
def main (arguments : List String) : IO UInt32 := AvatarVault.Main.start arguments
