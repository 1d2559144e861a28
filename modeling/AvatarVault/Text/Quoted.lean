import AvatarVault.Text.Hex
import AvatarVault.Text.Hidden
/-!
Text between quotes for a reader: control characters, the quote, the backslash and hidden
characters are written as escapes.
-/
namespace AvatarVault.Quoted

/-- The escape of a code point by its number. -/
def codeEscape (n : Nat) : List Char := ("\\u\x7b" ++ Hex.ofNat n ++ "\x7d").toList

/-- One character inside the quotes `quote`. -/
def escape (quote c : Char) : List Char :=
  match c with
  | '\x00' => ['\\', '0']
  | '\t' => ['\\', 't']
  | '\r' => ['\\', 'r']
  | '\n' => ['\\', 'n']
  | '\\' => ['\\', '\\']
  | c => if c = quote then ['\\', c] else if isHidden c then codeEscape c.toNat else [c]

/-- A text in double quotes. -/
def text (s : String) : String :=
  String.ofList ('"' :: s.toList.flatMap (escape '"') ++ ['"'])

/-- A character in single quotes. -/
def char (c : Char) : String := String.ofList ('\'' :: escape '\'' c ++ ['\''])

end AvatarVault.Quoted
