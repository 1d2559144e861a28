import AvatarVault.Toml.Moment
import AvatarVault.Toml.Table
/-!
Reading TOML documents.  A reader takes what it needs from the start of the characters and gives
back the rest.
-/
namespace AvatarVault.Toml

/-- Whether the character may stand between tokens of a line. -/
def isSpace (c : Char) : Bool := c == ' ' || c == '\t'

/-- The characters from the next token of the line on. -/
def skipSpace (cs : List Char) : List Char := cs.dropWhile isSpace

/-- Whether the character may stand in comments and texts as it is. -/
def isPlain (c : Char) : Bool := c == '\t' || (0x20 ≤ c.toNat && c.toNat != 0x7f)

/-- The characters after the end of a line, if one stands at the start. -/
def afterNewline? : List Char → Option (List Char)
  | '\n' :: rest => some rest
  | '\r' :: '\n' :: rest => some rest
  | _ => none

/-- The characters after the end of a line; blanks and a comment may stand before it. -/
def afterLine? (cs : List Char) : Option (List Char) :=
  let cs := skipSpace cs
  let cs := match cs with
    | '#' :: rest => rest.dropWhile isPlain
    | _ => cs
  if cs.isEmpty then some [] else afterNewline? cs

/-- The characters from the next token on, over lines and comments. -/
def skipLines (inComment : Bool) : List Char → List Char
  | [] => []
  | '\n' :: rest => skipLines false rest
  | '\r' :: '\n' :: rest => skipLines false rest
  | c :: rest =>
    if inComment then if isPlain c then skipLines true rest else c :: rest
    else if isSpace c then skipLines false rest
    else if c == '#' then skipLines true rest
    else c :: rest

/-! ## Texts -/

/-- The character with a code point given by hexadecimal digits. -/
def charOfHex? (ds : List Char) : Option Char :=
  if ds.all (isDigitOf 16) then
    let n := ofDigits 16 ds
    if n.isValidChar then some (Char.ofNat n) else none
  else none

/-- The character that a one-letter escape stands for. -/
def escaped? : Char → Option Char
  | '"' => some '"'
  | '\\' => some '\\'
  | 'b' => some '\x08'
  | 'f' => some '\x0c'
  | 'n' => some '\n'
  | 'r' => some '\r'
  | 't' => some '\t'
  | _ => none

/-- A character put before what was read after it. -/
def cons (c : Char) (read : Option (List Char × List Char)) : Option (List Char × List Char) :=
  read.map fun (content, rest) => (c :: content, rest)

/-- The content of a text in double quotes, after the opening quote. -/
def basicText : List Char → Option (List Char × List Char)
  | [] => none
  | '"' :: rest => some ([], rest)
  | '\\' :: 'u' :: a :: b :: c :: d :: rest => do
    cons (← charOfHex? [a, b, c, d]) (basicText rest)
  | '\\' :: 'U' :: a :: b :: c :: d :: e :: f :: g :: h :: rest => do
    cons (← charOfHex? [a, b, c, d, e, f, g, h]) (basicText rest)
  | '\\' :: e :: rest => do cons (← escaped? e) (basicText rest)
  | c :: rest => if isPlain c && c != '\\' then cons c (basicText rest) else none

/-- The content of a text in single quotes, after the opening quote. -/
def literalText : List Char → Option (List Char × List Char)
  | [] => none
  | '\'' :: rest => some ([], rest)
  | c :: rest => if isPlain c then cons c (literalText rest) else none

/-- Whether only blanks stand before the end of the line. -/
def endsLine (cs : List Char) : Bool := (afterNewline? (skipSpace cs)).isSome

/-- The content of a text in three double quotes.  `skipping`: after a backslash at the end of
a line, where blanks and line ends do not count. -/
def basicLines (skipping : Bool) : List Char → Option (List Char × List Char)
  | [] => none
  | '"' :: '"' :: '"' :: '"' :: '"' :: rest => some (['"', '"'], rest)
  | '"' :: '"' :: '"' :: '"' :: rest => some (['"'], rest)
  | '"' :: '"' :: '"' :: rest => some ([], rest)
  | '\r' :: '\n' :: rest =>
    if skipping then basicLines true rest else cons '\n' (basicLines false rest)
  | '\n' :: rest => if skipping then basicLines true rest else cons '\n' (basicLines false rest)
  | '\\' :: 'u' :: a :: b :: c :: d :: rest => do
    cons (← charOfHex? [a, b, c, d]) (basicLines false rest)
  | '\\' :: 'U' :: a :: b :: c :: d :: e :: f :: g :: h :: rest => do
    cons (← charOfHex? [a, b, c, d, e, f, g, h]) (basicLines false rest)
  | '\\' :: e :: rest =>
    if endsLine (e :: rest) then
      match e, rest with
      | '\r', '\n' :: rest => basicLines true rest
      | _, rest => basicLines true rest
    else do cons (← escaped? e) (basicLines false rest)
  | c :: rest =>
    if skipping && isSpace c then basicLines true rest
    else if isPlain c && c != '\\' then cons c (basicLines false rest)
    else none

/-- The content of a text in three single quotes. -/
def literalLines : List Char → Option (List Char × List Char)
  | [] => none
  | '\'' :: '\'' :: '\'' :: '\'' :: '\'' :: rest => some (['\'', '\''], rest)
  | '\'' :: '\'' :: '\'' :: '\'' :: rest => some (['\''], rest)
  | '\'' :: '\'' :: '\'' :: rest => some ([], rest)
  | '\r' :: '\n' :: rest => cons '\n' (literalLines rest)
  | '\n' :: rest => cons '\n' (literalLines rest)
  | c :: rest => if isPlain c then cons c (literalLines rest) else none

/-- The characters without a line end at the start. -/
def dropNewline (cs : List Char) : List Char := (afterNewline? cs).getD cs

/-- A text with its quotes, if one stands at the start. -/
def readText : List Char → Option (String × List Char)
  | '"' :: '"' :: '"' :: rest => finish (basicLines false (dropNewline rest))
  | '"' :: rest => finish (basicText rest)
  | '\'' :: '\'' :: '\'' :: rest => finish (literalLines (dropNewline rest))
  | '\'' :: rest => finish (literalText rest)
  | _ => none
where
  /-- The content as a text. -/
  finish (read : Option (List Char × List Char)) : Option (String × List Char) :=
    read.map fun (content, rest) => (String.ofList content, rest)

/-! ## Keys -/

/-- Whether the character may stand in a key without quotes. -/
def isBareKey (c : Char) : Bool := c.isAlphanum || c == '_' || c == '-'

/-- One part of a key. -/
def readKeyPart (cs : List Char) : Option (String × List Char) :=
  match cs with
  | '"' :: rest => (basicText rest).map fun (content, rest) => (String.ofList content, rest)
  | '\'' :: rest => (literalText rest).map fun (content, rest) => (String.ofList content, rest)
  | _ =>
    let name := cs.takeWhile isBareKey
    if name.isEmpty then none else some (String.ofList name, cs.dropWhile isBareKey)

/-- The parts of a key with points and blanks between them; `fuel` bounds their number. -/
def readKeyParts : (fuel : Nat) → List Char → Option (List String × List Char)
  | 0, _ => none
  | fuel + 1, cs => do
    let (part, rest) ← readKeyPart (skipSpace cs)
    match skipSpace rest with
    | '.' :: rest =>
      let (parts, rest) ← readKeyParts fuel rest
      return (part :: parts, rest)
    | rest => return ([part], rest)

/-- The number of parts that a key cannot reach, and of arrays and inline tables around a
value. -/
def depthLimit : Nat := 80

/-- A key. -/
def readKey (cs : List Char) : Option (List String × List Char) :=
  readKeyParts (depthLimit - 1) cs

/-! ## Values -/

/-- Whether the character ends a value without quotes and brackets. -/
def isDelimiter (c : Char) : Bool :=
  isSpace c || c == '\n' || c == '\r' || c == '#' || c == ',' || c == ']' || c == '\x7d'

/-- The value of a token. -/
def ofToken? (token : List Char) : Option Toml :=
  if token == ['t', 'r', 'u', 'e'] then some (.bool true)
  else if token == ['f', 'a', 'l', 's', 'e'] then some (.bool false)
  else if isMoment token then some .moment
  else match integer? token with
    | some i => some (.integer i)
    | none => if isFloat token then some .float else none

/-- A value without quotes and brackets.  A time may follow a date after a single blank. -/
def readToken (cs : List Char) : Option (Toml × List Char) := do
  let token := cs.takeWhile fun c => !isDelimiter c
  let rest := cs.dropWhile fun c => !isDelimiter c
  let found ← ofToken? token
  match isDate token, rest with
  | true, ' ' :: more =>
    if isTimeWithOffset (more.takeWhile fun c => !isDelimiter c) then
      return (found, more.dropWhile fun c => !isDelimiter c)
    else return (found, rest)
  | _, _ => return (found, rest)

mutual

/-- The value at the start; `fuel` bounds the number of characters read, `depth` the arrays and
inline tables still to be opened. -/
def readValue (depth : Nat) : (fuel : Nat) → List Char → Option (Toml × List Char)
  | 0, _ => none
  | fuel + 1, cs =>
    match cs, depth with
    | '"' :: _, _ => (readText cs).map fun (content, rest) => (.text content, rest)
    | '\'' :: _, _ => (readText cs).map fun (content, rest) => (.text content, rest)
    | '[' :: _, 0 => none
    | '[' :: rest, depth + 1 =>
      (readItems depth fuel rest).map fun (items, rest) => (.array items, rest)
    | '\x7b' :: _, 0 => none
    | '\x7b' :: rest, depth + 1 =>
      match skipSpace rest with
      | '\x7d' :: rest => some (.table [], rest)
      | rest => do
        let (entries, rest) ← readEntries depth fuel rest
        let made ← entries.foldlM (fun (t : Table) (key, value) => t.insert key value) Table.empty
        return (made.toValue, rest)
    | _, _ => readToken cs

/-- The values of an array up to its closing bracket; a comma may stand after the last. -/
def readItems (depth : Nat) : (fuel : Nat) → List Char → Option (List Toml × List Char)
  | 0, _ => none
  | fuel + 1, cs =>
    match skipLines false cs with
    | ']' :: rest => some ([], rest)
    | cs => do
      let (first, rest) ← readValue depth fuel cs
      match skipLines false rest with
      | ',' :: rest =>
        let (more, rest) ← readItems depth fuel rest
        return (first :: more, rest)
      | ']' :: rest => return ([first], rest)
      | _ => none

/-- The entries of an inline table, at least one, up to its closing bracket. -/
def readEntries (depth : Nat) :
    (fuel : Nat) → List Char → Option (List (List String × Toml) × List Char)
  | 0, _ => none
  | fuel + 1, cs => do
    let (key, rest) ← readKey cs
    match rest with
    | '=' :: rest =>
      let (first, rest) ← readValue depth fuel (skipSpace rest)
      match skipSpace rest with
      | ',' :: rest =>
        let (more, rest) ← readEntries depth fuel rest
        return ((key, first) :: more, rest)
      | '\x7d' :: rest => return ([(key, first)], rest)
      | _ => none
    | _ => none

end

/-! ## Documents -/

/-- A line that says something. -/
inductive Statement where
  /-- The header of a table. -/
  | table (key : List String)
  /-- The header of a table in an array. -/
  | tables (key : List String)
  | entry (key : List String) (value : Toml)

/-- The statement at the start of a line. -/
def readStatement (fuel : Nat) (cs : List Char) : Option (Statement × List Char) :=
  match cs with
  | '[' :: '[' :: rest => do
    let (key, rest) ← readKey rest
    match rest with
    | ']' :: ']' :: rest => return (.tables key, ← afterLine? rest)
    | _ => none
  | '[' :: rest => do
    let (key, rest) ← readKey rest
    match rest with
    | ']' :: rest => return (.table key, ← afterLine? rest)
    | _ => none
  | _ => do
    let (key, rest) ← readKey cs
    match rest with
    | '=' :: rest =>
      let (value, rest) ← readValue (depthLimit - 1) fuel (skipSpace rest)
      return (.entry key value, ← afterLine? rest)
    | _ => none

/-- All statements; `fuel` bounds the number of characters read. -/
def readStatements : (fuel : Nat) → List Char → Option (List Statement)
  | 0, _ => none
  | fuel + 1, cs =>
    match skipLines false cs with
    | [] => some []
    | cs => do
      let (first, rest) ← readStatement (2 * fuel) cs
      let more ← readStatements fuel rest
      return first :: more

/-- Adds the entries at the start of the statements to a table. -/
def fill : List Statement → Table → Option Table
  | .entry key value :: rest, t => (t.insert key value).bind (fill rest)
  | _, t => some t

/-- Adds all statements to the root table: each header with the entries after it. -/
def build : List Statement → Table → Option Table
  | [], t => some t
  | .table key :: rest, t => (t.openTable key (fill rest)).bind (build rest)
  | .tables key :: rest, t => (t.appendTable key (fill rest)).bind (build rest)
  | .entry _ _ :: rest, t => build rest t

/-- The root table of a document, with or without a byte order mark at its start. -/
def parse (s : String) : Option Toml := do
  let cs := match s.toList with
    | '\ufeff' :: rest => rest
    | cs => cs
  let statements ← readStatements (cs.length + 1) cs
  return (← build statements (← fill statements Table.empty)).toValue

end AvatarVault.Toml
