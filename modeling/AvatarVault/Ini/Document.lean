/-!
Files of named sections: headings, and entries of a key and a value below them.
-/
namespace AvatarVault.Ini

/-- A heading or an entry. -/
inductive Item where
  | heading (name : String)
  | entry (key value : String)
  deriving DecidableEq, Repr

/-- Headings and entries in the order of the file. -/
abbrev Document : Type := List Item

/-- The entries before the next heading. -/
def leadingEntries : Document → List (String × String)
  | .entry key value :: rest => (key, value) :: leadingEntries rest
  | _ => []

/-- The entries below the first heading of that name. -/
def entriesBelow? (name : String) : Document → Option (List (String × String))
  | [] => none
  | .heading other :: rest =>
    if other == name then some (leadingEntries rest) else entriesBelow? name rest
  | .entry _ _ :: rest => entriesBelow? name rest

/-- The value of the first entry of that key. -/
def value? (key : String) (entries : List (String × String)) : Option String :=
  (entries.find? fun entry => entry.1 == key).map (·.2)

end AvatarVault.Ini
