import AvatarVault.Bytes
import AvatarVault.Host.Failure
import AvatarVault.Text.Blank
import AvatarVault.Text.Hex
import AvatarVault.Upload.FileId
/-!
A file host that keeps its objects in memory, and names drawn for uploaded files.
-/
namespace AvatarVault

/-- The random name of a file: 32 digits that mark it as random, made from sixteen bytes. -/
def FileId.ofRandom (b : Bytes 16) : FileId :=
  let version := b.val.set! 6 (b.val.get! 6 &&& 0x0f ||| 0x40)
  ⟨Hex.encode (version.set! 8 (version.get! 8 &&& 0x3f ||| 0x80))⟩

/-- A file host: its objects by path, and whether it lets anyone list or write. -/
structure FileHost where
  isOpen : Bool := true
  objects : List (String × ByteArray) := []

namespace FileHost

/-- The object at a path. -/
def read? (h : FileHost) (path : String) : Option ByteArray :=
  (h.objects.find? fun entry => entry.1 == path).map (·.2)

/-- The host with an object at a path, in place of an earlier one. -/
def insert (h : FileHost) (path : String) (payload : ByteArray) : FileHost :=
  { h with objects := (path, payload) :: h.objects.filter fun entry => entry.1 != path }

/-- The failure of an operation that a closed host does not offer. -/
def unsupported (operation : String) : StorageFailure :=
  { kind := .unsupported, operation, text := "operation is not supported" }

/-- Stores a payload under a drawn name. -/
def upload (h : FileHost) (name : FileId) (payload : ByteArray) :
    Except TransportError FileId × FileHost :=
  if h.isOpen then (.ok name, h.insert (objectPath name) payload)
  else (.error (unsupported "write").classify, h)

/-- The parts of a path between slashes. -/
def splitPath : List Char → List (List Char)
  | [] => [[]]
  | '/' :: rest => [] :: splitPath rest
  | c :: rest =>
    match splitPath rest with
    | [] => [[c]]
    | part :: parts => (c :: part) :: parts

/-- The path of an object without blanks around it and without needless slashes; `none` for
the path of a directory. -/
def objectPath? (path : String) : Option String :=
  let cs := trimChars path.toList
  let parts := (splitPath cs).filter fun part => !part.isEmpty
  if parts.isEmpty || cs.getLast? == some '/' then none
  else some ("/".intercalate (parts.map String.ofList))

/-- Stores a payload at a path from outside; says whether the path is that of an object. -/
def put (h : FileHost) (path : String) (payload : ByteArray) : Bool × FileHost :=
  match objectPath? path with
  | some path => if h.isOpen then (true, h.insert path payload) else (false, h)
  | none => (false, h)

/-- The directory of uploaded files as a start of paths. -/
def filesStart : String := filesDirectory ++ "/"

/-- Whether a path is that of an object right in the directory of uploaded files, and not further
below. -/
def isUploaded (path : String) : Bool :=
  filesStart.toList.isPrefixOf path.toList
    && !(path.toList.drop filesStart.toList.length).contains '/'

/-- The number of uploaded files. -/
def count (h : FileHost) : Nat := (h.objects.filter fun entry => isUploaded entry.1).length

/-- Lists the uploaded files to see whether the host answers. -/
def checkHealth (h : FileHost) : Except String Unit :=
  if h.isOpen then .ok ()
  else .error ("file host health check failed listing " ++ filesStart)

end FileHost

end AvatarVault
