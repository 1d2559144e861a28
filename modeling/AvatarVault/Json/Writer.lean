import AvatarVault.Text.Hex
/-!
Writing flat JSON objects: one field a line, two blanks before it.
-/
namespace AvatarVault.Json

/-- The value of a field. -/
inductive Scalar where
  | natural (value : Nat)
  | text (content : String)

/-- One character inside quotes: the quote, the backslash and control characters are escaped. -/
def escape (c : Char) : List Char :=
  match c with
  | '"' => ['\\', '"']
  | '\\' => ['\\', '\\']
  | '\n' => ['\\', 'n']
  | '\r' => ['\\', 'r']
  | '\t' => ['\\', 't']
  | '\x08' => ['\\', 'b']
  | '\x0c' => ['\\', 'f']
  | c =>
    if c.toNat < 0x20 then
      ['\\', 'u', '0', '0', Hex.digit (c.toNat / 16), Hex.digit (c.toNat % 16)]
    else [c]

/-- A text in quotes. -/
def quote (s : List Char) : List Char := '"' :: s.flatMap escape ++ ['"']

/-- The value as it is written. -/
def Scalar.render : Scalar → List Char
  | natural value => Nat.toDigits 10 value
  | text content => quote content.toList

/-- A field on a line of its own. -/
def renderField (name : String) (value : Scalar) : List Char :=
  [' ', ' '] ++ quote name.toList ++ [':', ' '] ++ value.render

/-- The lines of the fields, a comma after all but the last. -/
def renderFields : List (String × Scalar) → List Char
  | [] => []
  | [(name, value)] => renderField name value ++ ['\n']
  | (name, value) :: rest => renderField name value ++ [',', '\n'] ++ renderFields rest

/-- An object with these fields, in this order. -/
def renderObject (fields : List (String × Scalar)) : String :=
  String.ofList (['\x7b', '\n'] ++ renderFields fields ++ ['\x7d'])

end AvatarVault.Json
