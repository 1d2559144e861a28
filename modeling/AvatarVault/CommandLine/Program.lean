import AvatarVault.CommandLine.Reader
import AvatarVault.File.Path
/-!
The command line of the program: its commands, and what each of them is asked to do.
-/
namespace AvatarVault

/-- How log lines are written. -/
inductive LogFormat where
  | json
  | text
  deriving DecidableEq, Repr

/-- What the program is asked to do. -/
inductive Request where
  /-- Seal an image and upload it. -/
  | upload (image : Path) (key : String)
  /-- Open a sealed avatar, after checking its digest if one is given. -/
  | decrypt (source output : Path) (key : String) (digest : Option String)
  /-- Show the record of the last upload. -/
  | last
  /-- Check that the file host answers. -/
  | status
  /-- Show the settings. -/
  | showConfig
  deriving DecidableEq, Repr

/-- A request with the settings file that it names. -/
structure Invocation where
  config : Path
  log : Option String := none
  logFormat : Option LogFormat := none
  request : Request
  deriving DecidableEq, Repr

namespace CommandLine

/-- The option for a profile key. -/
def keyOption : Argument :=
  { name := "key", label := "--key <KEY>", kind := .text, long? := some "key"
    envName? := some "AVAULT_PROFILE_KEY", isRequired := true }

/-- Uploading. -/
def uploadCommand : Command :=
  .mk "upload" "Seal an avatar image and upload it" [keyOption]
    [{ name := "image", label := "<IMAGE>", kind := .path, isRequired := true }] none []

/-- Opening a sealed avatar. -/
def decryptCommand : Command :=
  .mk "decrypt" "Decrypt a sealed avatar previously downloaded from the file host"
    [{ name := "output", label := "--output <OUTPUT>", kind := .path, long? := some "output"
       short? := some 'o', isRequired := true },
      keyOption,
      { name := "digest", label := "--digest <DIGEST>", kind := .text, long? := some "digest" }]
    [{ name := "sealed", label := "<SEALED>", kind := .path, isRequired := true }] none []

/-- Showing the last record. -/
def lastCommand : Command := .mk "last" "Show the last recorded avatar upload" [] [] none []

/-- Checking the host. -/
def statusCommand : Command := .mk "status" "Check that the file host is reachable" [] [] none []

/-- Showing the settings. -/
def configCommand : Command :=
  .mk "config" "Configuration management" [] [] none
    [.mk "show" "Print the active configuration (merged defaults + config file)" [] [] none []]

/-- The program. -/
def program : Command :=
  .mk "avault" "Encrypted avatar upload client"
    [{ name := "config", label := "--config <CONFIG>", kind := .path, long? := some "config"
       short? := some 'c', envName? := some "AVAULT_CONFIG"
       default? := some "~/.config/avault/avault.toml" },
      { name := "log", label := "--log <LOG>", kind := .text, long? := some "log"
        envName? := some "AVAULT_LOG" },
      { name := "log_format", label := "--log-format <LOG_FORMAT>"
        kind := .choice ["json", "text"], long? := some "log-format"
        envName? := some "AVAULT_LOG_FORMAT" }]
    [] (some "avault 0.1.0")
    [uploadCommand, decryptCommand, lastCommand, statusCommand, configCommand]

/-- The request in a command line that says what it may. -/
def request? (p : Parsed) : Option Request :=
  match p.path with
  | [_, "upload"] => do
    return .upload (.ofRaw (← p.value? "image")) (← p.text? "key")
  | [_, "decrypt"] => do
    return .decrypt (.ofRaw (← p.value? "sealed")) (.ofRaw (← p.value? "output"))
      (← p.text? "key") (p.text? "digest")
  | [_, "last"] => some .last
  | [_, "status"] => some .status
  | [_, "config", "show"] => some .showConfig
  | _ => none

/-- The log format that a word names. -/
def logFormat? (p : Parsed) : Option LogFormat :=
  match p.text? "log_format" with
  | some "json" => some .json
  | some "text" => some .text
  | _ => none

/-- Whether a variable holds anything. -/
def holdsAnything (e : Environment) (name : String) : Bool :=
  (e.raw? name).any fun value => !value.bytes.isEmpty

/-- Whether messages about the command line are coloured: they go to no terminal, so only where
that is asked for. -/
def wantsColour (e : Environment) : Bool :=
  !holdsAnything e "NO_COLOR" && holdsAnything e "CLICOLOR_FORCE"

/-- The invocation that arguments and variables make. -/
def invocation (e : Environment) (arguments : List RawText) : Except Stop Invocation := do
  let p ← read e program arguments
  match p.value? "config", request? p with
  | some config, some request =>
    return { config := .ofRaw config, log := p.text? "log", logFormat := logFormat? p, request }
  | _, _ => throw (.fault .incomplete)

end CommandLine

end AvatarVault
