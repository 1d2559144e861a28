import AvatarVault.Json.Value
/-!
Reading JSON.  A reader takes what it needs from the start of the characters and gives back the
rest.  Values nest to any depth.
-/
namespace AvatarVault.Json

/-- Whether the character may stand between tokens. -/
def isSpace (c : Char) : Bool := c == ' ' || c == '\t' || c == '\n' || c == '\r'

/-- The characters from the next token on. -/
def skipSpace (cs : List Char) : List Char := cs.dropWhile isSpace

/-- A piece of a text: a character, or a 16-bit unit named by an escape. -/
inductive Piece where
  | char (c : Char)
  | unit (n : Nat)

/-- The value of a hexadecimal digit of either case. -/
def hexDigit? (c : Char) : Option Nat :=
  if '0' ≤ c && c ≤ '9' then some (c.toNat - 48)
  else if 'a' ≤ c && c ≤ 'f' then some (c.toNat - 87)
  else if 'A' ≤ c && c ≤ 'F' then some (c.toNat - 55)
  else none

/-- The unit that four digits name. -/
def unit? (a b c d : Char) : Option Nat := do
  return (((← hexDigit? a) * 16 + (← hexDigit? b)) * 16 + (← hexDigit? c)) * 16 + (← hexDigit? d)

/-- The character that a one-letter escape stands for. -/
def escaped? : Char → Option Char
  | '"' => some '"'
  | '\\' => some '\\'
  | '/' => some '/'
  | 'b' => some '\x08'
  | 'f' => some '\x0c'
  | 'n' => some '\n'
  | 'r' => some '\r'
  | 't' => some '\t'
  | _ => none

/-- The pieces up to the closing quote, and the rest after it. -/
def pieces : List Char → Option (List Piece × List Char)
  | [] => none
  | '"' :: rest => some ([], rest)
  | '\\' :: 'u' :: a :: b :: c :: d :: rest => do
    let n ← unit? a b c d
    let (more, rest) ← pieces rest
    return (.unit n :: more, rest)
  | '\\' :: e :: rest => do
    let c ← escaped? e
    let (more, rest) ← pieces rest
    return (.char c :: more, rest)
  | c :: rest =>
    if c.toNat < 0x20 || c == '\\' then none
    else do
      let (more, rest) ← pieces rest
      return (.char c :: more, rest)

/-- The characters of the pieces.  Two units that are the halves of one character must stand
side by side. -/
def joinPieces : List Piece → Option (List Char)
  | [] => some []
  | .char c :: rest => (joinPieces rest).map (c :: ·)
  | .unit n :: .unit m :: rest =>
    if 0xd800 ≤ n && n < 0xdc00 then
      if 0xdc00 ≤ m && m < 0xe000 then
        (joinPieces rest).map (Char.ofNat (0x10000 + (n - 0xd800) * 0x400 + (m - 0xdc00)) :: ·)
      else none
    else if 0xdc00 ≤ n && n < 0xe000 then none
    else (joinPieces (.unit m :: rest)).map (Char.ofNat n :: ·)
  | .unit n :: rest =>
    if 0xd800 ≤ n && n < 0xe000 then none else (joinPieces rest).map (Char.ofNat n :: ·)

/-- The content of a text after its opening quote. -/
def readText (cs : List Char) : Option (Option String × List Char) := do
  let (found, rest) ← pieces cs
  return ((joinPieces found).map String.ofList, rest)

/-- The decimal digits at the start. -/
def digits (cs : List Char) : List Char × List Char := cs.span Char.isDigit

/-- The number that decimal digits write. -/
def ofDigits (ds : List Char) : Nat := ds.foldl (fun n c => n * 10 + (c.toNat - 48)) 0

/-- The characters after a fraction, if there is one; `none` where it has no digits. -/
def skipFraction : List Char → Option (List Char)
  | '.' :: rest =>
    let (ds, rest) := digits rest
    if ds.isEmpty then none else some rest
  | cs => some cs

/-- The characters after a sign, if there is one. -/
def skipSign : List Char → List Char
  | '+' :: rest => rest
  | '-' :: rest => rest
  | cs => cs

/-- The characters after an exponent, if there is one; `none` where it has no digits. -/
def skipExponent (cs : List Char) : Option (List Char) :=
  match cs with
  | c :: rest =>
    if c == 'e' || c == 'E' then
      let (ds, rest) := digits (skipSign rest)
      if ds.isEmpty then none else some rest
    else some cs
  | [] => some []

/-- A number: digits without a needless zero at the start, a fraction, an exponent. -/
def readNumber (isNegative : Bool) (cs : List Char) : Option (Json × List Char) := do
  let (ds, rest) := digits cs
  if ds.isEmpty || (ds.length > 1 && ds.head? == some '0') then none
  else
    let after ← skipExponent (← skipFraction rest)
    if isNegative || after.length < rest.length then return (.otherNumber, after)
    else return (.natural (ofDigits ds), after)

/-- The characters after a word that must stand at the start. -/
def expect (word cs : List Char) : Option (List Char) :=
  if word.isPrefixOf cs then some (cs.drop word.length) else none

mutual

/-- The value at the start; `fuel` bounds the number of characters read. -/
def readValue : (fuel : Nat) → List Char → Option (Json × List Char)
  | 0, _ => none
  | fuel + 1, cs =>
    match skipSpace cs with
    | '"' :: rest => (readText rest).map fun (content, rest) => (.text content, rest)
    | '[' :: rest =>
      match skipSpace rest with
      | ']' :: rest => some (.array [], rest)
      | rest => (readItems fuel rest).map fun (found, rest) => (.array found, rest)
    | '\x7b' :: rest =>
      match skipSpace rest with
      | '\x7d' :: rest => some (.object [], rest)
      | rest => (readFields fuel rest).map fun (found, rest) => (.object found, rest)
    | 'n' :: rest => (expect ['u', 'l', 'l'] rest).map fun rest => (.null, rest)
    | 't' :: rest => (expect ['r', 'u', 'e'] rest).map fun rest => (.bool true, rest)
    | 'f' :: rest => (expect ['a', 'l', 's', 'e'] rest).map fun rest => (.bool false, rest)
    | '-' :: rest => readNumber true rest
    | cs => readNumber false cs

/-- The values of an array from one value on, up to its closing bracket. -/
def readItems : (fuel : Nat) → List Char → Option (List Json × List Char)
  | 0, _ => none
  | fuel + 1, cs => do
    let (first, rest) ← readValue fuel cs
    match skipSpace rest with
    | ',' :: rest =>
      let (more, rest) ← readItems fuel rest
      return (first :: more, rest)
    | ']' :: rest => return ([first], rest)
    | _ => none

/-- The fields of an object from one name on, up to its closing bracket. -/
def readFields : (fuel : Nat) → List Char → Option (List (Option String × Json) × List Char)
  | 0, _ => none
  | fuel + 1, cs =>
    match skipSpace cs with
    | '"' :: rest => do
      let (name, rest) ← readText rest
      match skipSpace rest with
      | ':' :: rest =>
        let (first, rest) ← readValue fuel rest
        match skipSpace rest with
        | ',' :: rest =>
          let (more, rest) ← readFields fuel rest
          return ((name, first) :: more, rest)
        | '\x7d' :: rest => return ([(name, first)], rest)
        | _ => none
      | _ => none
    | _ => none

end

/-- The value that a text writes, with nothing but space around it. -/
def parse (s : String) : Option Json := do
  let cs := s.toList
  let (found, rest) ← readValue (2 * cs.length + 1) cs
  if (skipSpace rest).isEmpty then return found else none

end AvatarVault.Json
