/-!
Identifiers of uploaded files and where a file is found.
-/
namespace AvatarVault

/-- The name that the file host gives to an uploaded file. -/
structure FileId where
  text : String
  deriving DecidableEq, Repr, Inhabited

/-- The identifier that a number stands for. -/
def FileId.ofNat (n : Nat) : FileId := ⟨toString n⟩

/-- The directory of the host that holds uploaded files. -/
def filesDirectory : String := "files"

/-- The place of a file on the host. -/
def objectPath (id : FileId) : String := filesDirectory ++ "/" ++ id.text

/-- The address of a file under a base address, which is taken as it is. -/
def fileUrl (base : String) (id : FileId) : String := base ++ "/files/" ++ id.text

end AvatarVault
