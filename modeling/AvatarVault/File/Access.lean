import AvatarVault.File.Path
/-!
What the program does with files, whatever holds them.
-/
namespace AvatarVault

/-- Why a file operation fails. -/
inductive FileError where
  /-- There is nothing at the path, or the directory of the path is missing. -/
  | notFound
  /-- Something on the way is no directory. -/
  | notDirectory
  /-- The path is that of a directory. -/
  | isDirectory
  /-- There is something at the path already. -/
  | alreadyExists
  /-- No file can have this path. -/
  | invalidPath
  /-- The content is no text. -/
  | notText
  /-- Any other failure. -/
  | other
  deriving DecidableEq, Repr

/-- File operations in a monad. -/
class FileAccess (m : Type → Type) where
  /-- Whether there is anything at the path. -/
  pathExists : Path → m Bool
  /-- Whether there is a directory at the path. -/
  isDirectory : Path → m Bool
  /-- The content of the file at the path. -/
  read : Path → m (Except FileError ByteArray)
  /-- Makes the content of the file at the path the given one; the file need not exist. -/
  write : Path → ByteArray → m (Except FileError Unit)
  /-- Makes the directory at the path, inside an existing one. -/
  makeDirectory : Path → m (Except FileError Unit)
  /-- Moves a file to a path, in place of a file there. -/
  rename : Path → Path → m (Except FileError Unit)

namespace FileAccess

variable {m : Type → Type} [Monad m] [FileAccess m]

/-- The content of the file at the path as text. -/
def readText (p : Path) : m (Except FileError String) := do
  match ← read p with
  | .error e => return .error e
  | .ok content =>
    match String.fromUTF8? content with
    | some text => return .ok text
    | none => return .error .notText

/-- The answer of a failed attempt to make a directory: none where one is there already. -/
def unlessDirectory (p : Path) (e : FileError) : m (Except FileError Unit) := do
  if ← isDirectory p then return .ok () else return .error e

/-- Makes the directory at the path and those above it, the missing ones only.  `depth` is the
number of parts of the path. -/
def makeDirectoriesUpTo (depth : Nat) (p : Path) : m (Except FileError Unit) := do
  if p.bytes.isEmpty then return .ok ()
  match ← makeDirectory p with
  | .ok () => return .ok ()
  | .error .notFound =>
    match depth, p.parent? with
    | depth + 1, some parent =>
      match ← makeDirectoriesUpTo depth parent with
      | .error e => return .error e
      | .ok () =>
        match ← makeDirectory p with
        | .ok () => return .ok ()
        | .error e => unlessDirectory p e
    | _, _ => return .error .other
  | .error e => unlessDirectory p e

/-- Makes the directory at the path and those above it, the missing ones only. -/
def makeDirectories (p : Path) : m (Except FileError Unit) :=
  makeDirectoriesUpTo p.parts.length p

end FileAccess

end AvatarVault
