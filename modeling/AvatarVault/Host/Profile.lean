import AvatarVault.Breakdown
import AvatarVault.Environment
import AvatarVault.File.Access
import AvatarVault.Ini.Reader
import AvatarVault.Text.Unsigned
/-!
The region of the file host where the settings name none: the one that a variable names, or else
that of the profile in use.  A profile file that is missing or faulty counts as empty.
-/
namespace AvatarVault

/-- What a profile says of the file host. -/
structure HostProfile where
  region : Option String := none
  deriving DecidableEq, Repr

namespace HostProfile

/-- The name of the profile in use. -/
def nameIn (e : Environment) : String := (e.text? "AWS_PROFILE").getD "default"

/-- The heading above a profile of that name. -/
def heading (name : String) : String := if name == "default" then name else "profile " ++ name

/-- The text with the home directory in place of every sign for it, if it starts with that sign
and a slash of either kind. -/
def expandSigns (home : Option String) (path : String) : Option String :=
  match path.toList with
  | '~' :: '/' :: _ | '~' :: '\\' :: _ =>
    home.map fun home => String.ofList
      (path.toList.flatMap fun c => if c = '~' then home.toList else [c])
  | _ => some path

/-- The path of the profile file; none where it is at home and there is no home. -/
def fileIn (e : Environment) : Option Path :=
  (expandSigns (e.text? "HOME") ((e.text? "AWS_CONFIG_FILE").getD "~/.aws/config")).map
    Path.ofString

/-- The profile that entries make. -/
def ofEntries (entries : List (String × String)) : Except Breakdown HostProfile :=
  match Ini.value? "duration_seconds" entries with
  | some length =>
    if (Unsigned.read? length).isSome then .ok { region := Ini.value? "region" entries }
    else .error (.sessionLength length)
  | none => .ok { region := Ini.value? "region" entries }

/-- The text of a file that may start with a byte order mark. -/
def textOf (content : ByteArray) : Option String :=
  match content.data.toList with
  | 0xef :: 0xbb :: 0xbf :: rest => String.fromUTF8? ⟨rest.toArray⟩
  | _ => String.fromUTF8? content

/-- The profile of a name in a file. -/
def ofFile (content : ByteArray) (name : String) : Except Breakdown HostProfile :=
  match ((textOf content).bind Ini.Document.read?).bind (Ini.entriesBelow? (heading name)) with
  | some entries => ofEntries entries
  | none => .ok {}

variable {m : Type → Type} [Monad m] [FileAccess m]

/-- Reads the profile in use. -/
def load (e : Environment) : m (Except Breakdown HostProfile) := do
  match fileIn e with
  | none => return .ok {}
  | some path =>
    match ← FileAccess.read path with
    | .error _ => return .ok {}
    | .ok content => return ofFile content (nameIn e)

end HostProfile

variable {m : Type → Type} [Monad m] [FileAccess m]

/-- Finds the region where the settings name none.  All variables have to be text, whatever they
are for. -/
def findRegion (e : Environment) : m (Except Breakdown (Option String)) := do
  match e.entries.find? fun entry => entry.2.toString?.isNone with
  | some (name, _) => return .error (.variableNotText name)
  | none => return (← HostProfile.load e).map fun p => (e.text? "AWS_REGION").or p.region

end AvatarVault
