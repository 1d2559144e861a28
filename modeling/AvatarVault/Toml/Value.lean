/-!
TOML values as far as a reader of settings needs them.
-/
namespace AvatarVault

/-- A TOML value.  Floats and points in time keep no content. -/
inductive Toml where
  | text (content : String)
  | integer (value : Int)
  | float
  | bool (value : Bool)
  /-- A date, a time or both. -/
  | moment
  | array (items : List Toml)
  | table (entries : List (String × Toml))
  deriving Inhabited

end AvatarVault
