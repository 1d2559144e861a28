/-!
JSON values as far as a reader of records needs them.
-/
namespace AvatarVault

/-- A JSON value.  Text that names half of a character by an escape has no content; of numbers
only the natural ones without fraction and exponent keep their value. -/
inductive Json where
  | null
  | bool (value : Bool)
  | natural (value : Nat)
  | otherNumber
  | text (content : Option String)
  | array (items : List Json)
  | object (fields : List (Option String × Json))
  deriving Inhabited

namespace Json

/-- The value of a natural number. -/
def natural? : Json → Option Nat
  | natural value => some value
  | _ => none

/-- The content of a text. -/
def text? : Json → Option String
  | text content => content
  | _ => none

end Json

end AvatarVault
