import AvatarVault.Text.Utf8
/-!
The variables that a program is started with.
-/
namespace AvatarVault

/-- Variables by name; the values are any bytes. -/
structure Environment where
  entries : List (String × RawText)

namespace Environment

/-- The value of a variable. -/
def raw? (e : Environment) (name : String) : Option RawText :=
  (e.entries.find? fun entry => entry.1 == name).map (·.2)

/-- The value of a variable, when it is text. -/
def text? (e : Environment) (name : String) : Option String :=
  (e.raw? name).bind RawText.toString?

end Environment

end AvatarVault
