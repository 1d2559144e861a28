import AvatarVault.Config
import AvatarVault.Toml.Reader
import AvatarVault.Toml.Writer
/-!
Settings as TOML.  What a document leaves out has its default; keys without a meaning do not
count.  A section may also be an array of its values in order.
-/
namespace AvatarVault.Config

/-- A section of a document: the values of its fields, by name or by place. -/
structure Section where
  value : Toml

namespace Section

/-- A section in which nothing is set. -/
def empty : Section := ⟨.table []⟩

/-- The value of a field, if it is set. -/
def field? (s : Section) (name : String) (place : Nat) : Option Toml :=
  match s.value with
  | .table entries => (entries.find? fun entry => entry.1 == name).map (·.2)
  | .array items => items[place]?
  | _ => none

/-- Whether the value can be a section. -/
def isSection : Toml → Bool
  | .table _ => true
  | .array _ => true
  | .moment => true
  | _ => false

/-- A text field. -/
def text? (s : Section) (name : String) (place : Nat) (otherwise : String) : Option String :=
  match s.field? name place with
  | none => some otherwise
  | some (.text content) => some content
  | some _ => none

/-- A truth value. -/
def bool? (s : Section) (name : String) (place : Nat) (otherwise : Bool) : Option Bool :=
  match s.field? name place with
  | none => some otherwise
  | some (.bool value) => some value
  | some _ => none

/-- A natural number below a bound. -/
def natural? (s : Section) (name : String) (place bound : Nat) (otherwise : Nat) : Option Nat :=
  match s.field? name place with
  | none => some otherwise
  | some (.integer i) => if 0 ≤ i && i < bound then some i.toNat else none
  | some _ => none

end Section

/-- The section of a document, which must be one if it is there. -/
def sectionOf? (document : List (String × Toml)) (name : String) : Option Section :=
  match document.find? fun entry => entry.1 == name with
  | none => some .empty
  | some (_, value) => if Section.isSection value then some ⟨value⟩ else none

/-- The file host settings in a section. -/
def storage? (s : Section) : Option StorageSettings := do
  let given : StorageSettings := {}
  return {
    endpoint := ← s.text? "endpoint" 0 given.endpoint
    region := ← s.text? "region" 1 given.region
    bucket := ← s.text? "bucket" 2 given.bucket
    enforceTls := ← s.bool? "enforce_tls" 3 given.enforceTls }

/-- The upload settings in a section. -/
def upload? (s : Section) : Option UploadSettings := do
  let given : UploadSettings := {}
  let attempts ← s.natural? "max_attempts" 0 UInt32.size given.maxAttempts.toNat
  let initial ← s.natural? "initial_backoff_ms" 1 UInt64.size given.initialBackoffMs.toNat
  let longest ← s.natural? "max_backoff_ms" 2 UInt64.size given.maxBackoffMs.toNat
  return {
    maxAttempts := attempts.toUInt32
    initialBackoffMs := initial.toUInt64
    maxBackoffMs := longest.toUInt64 }

/-- The server settings in a section. -/
def server? (s : Section) : Option ServerSettings := do
  let given : ServerSettings := {}
  return { baseUrl := ← s.text? "base_url" 0 given.baseUrl }

/-- The metadata settings in a section. -/
def metadata? (s : Section) : Option MetadataSettings := do
  let given : MetadataSettings := {}
  return { path := ← s.text? "path" 0 given.path }

/-- The log settings in a section. -/
def log? (s : Section) : Option LogSettings := do
  let given : LogSettings := {}
  return {
    level := ← s.text? "level" 0 given.level
    format := ← s.text? "format" 1 given.format }

/-- The settings in a document. -/
def ofToml? : Toml → Option Config
  | .table document => do
    return {
      storage := ← storage? (← sectionOf? document "storage")
      upload := ← upload? (← sectionOf? document "upload")
      server := ← server? (← sectionOf? document "server")
      metadata := ← metadata? (← sectionOf? document "metadata")
      log := ← log? (← sectionOf? document "log") }
  | _ => none

/-- The settings that a text writes. -/
def decode? (s : String) : Option Config := (Toml.parse s).bind ofToml?

/-- All settings by section and name, in their order. -/
def tables (c : Config) : List (String × List (String × Toml.Scalar)) :=
  [("storage",
      [("endpoint", .text c.storage.endpoint), ("region", .text c.storage.region),
        ("bucket", .text c.storage.bucket), ("enforce_tls", .bool c.storage.enforceTls)]),
    ("upload",
      [("max_attempts", .natural c.upload.maxAttempts.toNat),
        ("initial_backoff_ms", .natural c.upload.initialBackoffMs.toNat),
        ("max_backoff_ms", .natural c.upload.maxBackoffMs.toNat)]),
    ("server", [("base_url", .text c.server.baseUrl)]),
    ("metadata", [("path", .text c.metadata.path)]),
    ("log", [("level", .text c.log.level), ("format", .text c.log.format)])]

/-- The text of all settings; there is none where a wait has more than 63 bits. -/
def encode? (c : Config) : Option String := (Toml.renderTables? c.tables).map String.ofList

end AvatarVault.Config
