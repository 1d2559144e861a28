import AvatarVault.Text.Utf8
/-!
Paths of files: names between slashes.  Empty parts and parts that are a lone dot do not
count, except for a dot at the start of a relative path.
-/
namespace AvatarVault

/-- A name of a file or directory: any bytes but the slash. -/
abbrev FileName : Type := List UInt8

/-- A path as it is written. -/
structure Path where
  bytes : List UInt8
  deriving DecidableEq, Repr, Inhabited

namespace Path

/-- The slash. -/
def slash : UInt8 := 47

/-- The dot. -/
def dot : UInt8 := 46

/-- The name of the directory itself. -/
def here : FileName := [dot]

/-- The name of the directory above. -/
def above : FileName := [dot, dot]

/-- The path that a text writes. -/
def ofString (s : String) : Path := ⟨s.toUTF8.data.toList⟩

/-- The path given as raw text. -/
def ofRaw (t : RawText) : Path := ⟨t.bytes⟩

/-- The path for showing. -/
def display (p : Path) : String := RawText.display ⟨p.bytes⟩

/-- Whether the path starts at the root. -/
def isAbsolute (p : Path) : Bool := p.bytes.head? == some slash

/-- The parts between slashes; one part more than there are slashes. -/
def splitParts : List UInt8 → List FileName
  | [] => [[]]
  | c :: rest =>
    if c = slash then [] :: splitParts rest
    else match splitParts rest with
      | [] => [[c]]
      | part :: parts => (c :: part) :: parts

/-- Parts with slashes between them. -/
def joinParts : List FileName → List UInt8
  | [] => []
  | [part] => part
  | part :: parts => part ++ slash :: joinParts parts

/-- The parts of a path; those of an absolute path are the parts after its first slash. -/
def parts (p : Path) : List FileName :=
  splitParts (if p.isAbsolute then p.bytes.tail else p.bytes)

/-- The path with these parts. -/
def ofParts (isAbsolute : Bool) (parts : List FileName) : Path :=
  ⟨if isAbsolute then slash :: joinParts parts else joinParts parts⟩

/-- Whether a part does not count. -/
def isIdle (part : FileName) : Bool := part.isEmpty || part == here

/-- Parts without the idle ones at the end. -/
def dropIdleEnd (parts : List FileName) : List FileName :=
  (parts.reverse.dropWhile isIdle).reverse

/-- Parts without the idle ones at the end; the dot at the start of a relative path stays. -/
def trimParts (isAbsolute : Bool) : List FileName → List FileName
  | [] => []
  | first :: rest =>
    if isAbsolute || first.isEmpty then dropIdleEnd (first :: rest)
    else first :: dropIdleEnd rest

/-- The parts that count, and idle ones before them. -/
def solidParts (p : Path) : List FileName := trimParts p.isAbsolute p.parts

/-- The path without its last part; the root and the empty path have none. -/
def parent? (p : Path) : Option Path :=
  if p.solidParts.isEmpty then none
  else some (ofParts p.isAbsolute (trimParts p.isAbsolute p.solidParts.dropLast))

/-- The last part, when it is a name. -/
def fileName? (p : Path) : Option FileName :=
  p.solidParts.getLast?.filter fun part => !isIdle part && part != above

/-- The bytes of a name before its last dot, if there is a dot and it is not the first byte. -/
def stem (name : FileName) : FileName :=
  let reversed := name.reverse
  match reversed.dropWhile (· != dot) with
  | [] => name
  | _ :: before => if before.isEmpty then name else before.reverse

/-- The path with the part of its name after the last dot replaced, or one added.  A path without
a name stays as it is, and so does what is left of one that ends in a name such as `..x`: without
the part after its last dot it names the directory above, which takes none. -/
def withExtension (p : Path) (extension : FileName) : Path :=
  match p.fileName? with
  | none => p
  | some name =>
    if stem name == here && p.parts.getLast? == some name then
      ofParts p.isAbsolute (p.parts.dropLast ++ [above])
    else ofParts p.isAbsolute (p.solidParts.dropLast ++ [stem name ++ dot :: extension])

/-- The second path taken from the first one; an absolute path stands for itself. -/
def join (p q : Path) : Path :=
  if q.isAbsolute then q
  else if p.bytes.isEmpty || p.bytes.getLast? == some slash then ⟨p.bytes ++ q.bytes⟩
  else ⟨p.bytes ++ slash :: q.bytes⟩

/-- The sign for the home directory. -/
def homeSign : FileName := [126]

/-- What follows a first part that is the sign for the home directory. -/
def belowHome? (p : Path) : Option Path :=
  match p.isAbsolute, p.parts with
  | false, first :: rest =>
    if first == homeSign then some ⟨joinParts (dropIdleEnd (rest.dropWhile isIdle))⟩ else none
  | _, _ => none

/-- The path with the sign for the home directory replaced by that directory, if it is known. -/
def expandHome (p : Path) (home : Option RawText) : Path :=
  match p.belowHome?, home with
  | some rest, some home => (ofRaw home).join rest
  | _, _ => p

end Path

end AvatarVault
