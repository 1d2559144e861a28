import AvatarVault.Bytes
import AvatarVault.File.Access
/-!
A tree of files and directories, and the file operations on it.  A failed operation leaves the
tree as it was.
-/
namespace AvatarVault

/-- A place in the tree: the names from the root on. -/
abbrev Location : Type := List FileName

/-- What stands at a place. -/
inductive Node where
  | directory
  | file (content : ByteArray)
  deriving DecidableEq

/-- Files and directories by place; the root is always a directory. -/
structure FileSystem where
  entries : List (Location × Node) := []
  /-- Where relative paths start. -/
  current : Location := []

namespace FileSystem

/-- What stands at a place. -/
def node? (fs : FileSystem) (l : Location) : Option Node :=
  if l.isEmpty then some .directory else (fs.entries.find? fun entry => entry.1 == l).map (·.2)

/-- Whether a directory stands at a place. -/
def isDirectoryAt (fs : FileSystem) (l : Location) : Bool :=
  match fs.node? l with
  | some .directory => true
  | _ => false

/-- The tree with something at a place, in place of what was there. -/
def insert (fs : FileSystem) (l : Location) (n : Node) : FileSystem :=
  { fs with entries := (l, n) :: fs.entries.filter fun entry => entry.1 != l }

/-- The tree without what stands at a place. -/
def erase (fs : FileSystem) (l : Location) : FileSystem :=
  { fs with entries := fs.entries.filter fun entry => entry.1 != l }

/-- The tree without a place and all below it. -/
def eraseTree (fs : FileSystem) (l : Location) : FileSystem :=
  { fs with entries := fs.entries.filter fun entry => !l.isPrefixOf entry.1 }

/-- The most bytes that a name may have. -/
def maxName : Nat := 255

/-- The number of bytes from which on a path is too long. -/
def maxPath : Nat := 4096

/-- One part further from a place, which must be a directory. -/
def enter (fs : FileSystem) (l : Location) (part : FileName) : Except FileError Location :=
  match fs.node? l with
  | none => .error .notFound
  | some (.file _) => .error .notDirectory
  | some .directory =>
    if Path.isIdle part then .ok l
    else if part == Path.above then .ok l.dropLast
    else if maxName < part.length then .error .invalidPath
    else .ok (l ++ [part])

/-- The place that parts lead to; all but the last must be there. -/
def walk (fs : FileSystem) (l : Location) (parts : List FileName) : Except FileError Location :=
  parts.foldlM fs.enter l

/-- The place of a path.  The directory around it is there, the place itself need not be. -/
def resolve (fs : FileSystem) (p : Path) : Except FileError Location :=
  if p.bytes.isEmpty then .error .notFound
  else if p.bytes.contains 0 || maxPath ≤ p.bytes.length then .error .invalidPath
  else fs.walk (if p.isAbsolute then [] else fs.current) p.parts

/-- Whether there is anything at the path. -/
def pathExists (fs : FileSystem) (p : Path) : Bool :=
  match fs.resolve p with
  | .ok l => (fs.node? l).isSome
  | .error _ => false

/-- Whether there is a directory at the path. -/
def isDirectory (fs : FileSystem) (p : Path) : Bool :=
  match fs.resolve p with
  | .ok l => fs.isDirectoryAt l
  | .error _ => false

/-- The content of the file at the path. -/
def read (fs : FileSystem) (p : Path) : Except FileError ByteArray := do
  match fs.node? (← fs.resolve p) with
  | none => .error .notFound
  | some .directory => .error .isDirectory
  | some (.file content) => .ok content

/-- Makes the content of the file at the path the given one. -/
def write (fs : FileSystem) (p : Path) (content : ByteArray) : Except FileError FileSystem := do
  let l ← fs.resolve p
  if fs.isDirectoryAt l then .error .isDirectory else .ok (fs.insert l (.file content))

/-- The path without slashes at its end. -/
def dropEndSlashes (p : Path) : Path :=
  if p.bytes.all (· == Path.slash) then p
  else ⟨(p.bytes.reverse.dropWhile (· == Path.slash)).reverse⟩

/-- Makes the directory at the path. -/
def makeDirectory (fs : FileSystem) (p : Path) : Except FileError FileSystem := do
  let l ← fs.resolve (dropEndSlashes p)
  if (fs.node? l).isSome then .error .alreadyExists else .ok (fs.insert l .directory)

/-- Moves a file to a path, in place of a file there. -/
def rename (fs : FileSystem) (source target : Path) : Except FileError FileSystem := do
  let s ← fs.resolve source
  let t ← fs.resolve target
  match fs.node? s with
  | none => .error .notFound
  | some .directory => .error .isDirectory
  | some (.file content) =>
    if fs.isDirectoryAt t then .error .isDirectory
    else .ok ((fs.erase s).insert t (.file content))

/-- An operation that may change the tree, as a step of a program. -/
def attempt (operation : FileSystem → Except FileError FileSystem) :
    StateM FileSystem (Except FileError Unit) := fun fs =>
  match operation fs with
  | .ok changed => (.ok (), changed)
  | .error e => (.error e, fs)

instance : FileAccess (StateM FileSystem) where
  pathExists p := fun fs => (fs.pathExists p, fs)
  isDirectory p := fun fs => (fs.isDirectory p, fs)
  read p := fun fs => (fs.read p, fs)
  write p content := attempt (·.write p content)
  makeDirectory p := attempt (·.makeDirectory p)
  rename source target := attempt (·.rename source target)

end FileSystem

end AvatarVault
