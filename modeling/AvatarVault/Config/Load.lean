import AvatarVault.Config.Codec
import AvatarVault.File.Access
/-!
Loading settings from a file.  A missing file stands for the defaults.
-/
namespace AvatarVault

/-- Why settings cannot be loaded. -/
inductive ConfigError where
  /-- The file cannot be read as text. -/
  | reading (path : Path)
  /-- The text is no settings. -/
  | parsing (path : Path)
  /-- The settings break a rule. -/
  | invalid (fault : ConfigFault)
  deriving DecidableEq, Repr

/-- The failure in words. -/
def ConfigError.message : ConfigError → String
  | reading path => "reading config " ++ path.display
  | parsing path => "parsing config " ++ path.display
  | invalid fault => fault.message

namespace Config

/-- The settings, when they obey the rules. -/
def checked (c : Config) : Except ConfigError Config :=
  match c.fault? with
  | some fault => .error (.invalid fault)
  | none => .ok c

variable {m : Type → Type} [Monad m] [FileAccess m]

/-- The settings in the file at a path, normalized and checked. -/
def load (path : Path) : m (Except ConfigError Config) := do
  if ← FileAccess.pathExists path then
    match ← FileAccess.readText path with
    | .error _ => return .error (.reading path)
    | .ok text =>
      match decode? text with
      | none => return .error (.parsing path)
      | some c => return c.normalize.checked
  else return .ok {}

end Config

end AvatarVault
