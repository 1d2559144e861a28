import AvatarVault.File.Access
import AvatarVault.Record.Codec
/-!
Stores of upload records: a list in memory, and a file that holds the last record and is
replaced as a whole.
-/
namespace AvatarVault

/-- All records, in the order in which they came. -/
structure MemoryStore where
  records : List UploadMetadata := []

namespace MemoryStore

/-- Adds a record. -/
def record (s : MemoryStore) (m : UploadMetadata) : MemoryStore := { records := s.records ++ [m] }

/-- The last record. -/
def last? (s : MemoryStore) : Option UploadMetadata := s.records.getLast?

end MemoryStore

/-- Why a metadata file cannot be opened. -/
inductive StoreFault where
  /-- The file cannot be read as text. -/
  | reading (path : Path)
  /-- The content is no record. -/
  | parsing (path : Path)
  deriving DecidableEq, Repr

/-- The fault in words. -/
def StoreFault.message : StoreFault → String
  | reading path => "reading metadata: " ++ path.display
  | parsing path => "parsing metadata: " ++ path.display

/-- A metadata file and the record in it. -/
structure FileStore where
  path : Path
  last? : Option UploadMetadata

namespace FileStore

variable {m : Type → Type} [Monad m] [FileAccess m]

/-- Opens the metadata file at a path; where there is none, there is no record yet. -/
def openAt (path : Path) : m (Except StoreFault FileStore) := do
  if ← FileAccess.pathExists path then
    match ← FileAccess.readText path with
    | .error _ => return .error (.reading path)
    | .ok content =>
      match Record.decode? content with
      | some record => return .ok { path, last? := some record }
      | none => return .error (.parsing path)
  else return .ok { path, last? := none }

/-- The extension of the file that a new record is written to first. -/
def temporary : FileName := [116, 109, 112]

/-- The file that a new record is written to first. -/
def temporaryPath (path : Path) : Path := path.withExtension temporary

/-- Makes the directory of the metadata file. -/
def makeParent (path : Path) : m (Except FileError Unit) :=
  match path.parent? with
  | some parent => FileAccess.makeDirectories parent
  | none => return .ok ()

/-- Writes a record beside the metadata file, then puts it in the place of that file. -/
def persist (path : Path) (record : UploadMetadata) : m (Except FileError Unit) := do
  match ← makeParent path with
  | .error e => return .error e
  | .ok () =>
    match ← FileAccess.write (temporaryPath path) (Record.encode record).toUTF8 with
    | .error e => return .error e
    | .ok () => FileAccess.rename (temporaryPath path) path

/-- Takes in a record.  Where the file cannot be written the store keeps the record before. -/
def record (s : FileStore) (record : UploadMetadata) : m FileStore := do
  match ← persist s.path record with
  | .ok () => return { s with last? := some record }
  | .error _ => return s

end FileStore

end AvatarVault
