import AvatarVault.Text.Hex
/-!
Writing TOML text: which of the four kinds of quotes a text gets, and what is escaped in it.
-/
namespace AvatarVault.Toml

/-- The kinds of quotes around a text. -/
inductive Quotes where
  /-- Double quotes on one line, with escapes. -/
  | basic
  /-- Single quotes on one line, without escapes. -/
  | literal
  /-- Three double quotes, with escapes. -/
  | basicLines
  /-- Three single quotes, without escapes. -/
  | literalLines
  deriving DecidableEq, Repr

/-- The length of the longest run of a character. -/
def longestRun (c : Char) : List Char → (current : Nat) → Nat
  | [], current => current
  | d :: rest, current =>
    if d == c then longestRun c rest (current + 1)
    else max current (longestRun c rest 0)

/-- Whether only an escape can write the character: a control character other than the tab and
the line end. -/
def needsEscape (c : Char) : Bool :=
  (c.toNat < 0x20 && c != '\t' && c != '\n') || c.toNat = 0x7f

/-- The quotes for a text: the plainest kind that needs no escape, or else double quotes. -/
def quotesFor (cs : List Char) : Quotes :=
  let hasCodes := cs.any needsEscape
  let hasBackslash := cs.contains '\\'
  let hasLines := cs.contains '\n'
  let doubles := longestRun '"' cs 0
  let singles := longestRun '\'' cs 0
  if !hasCodes && !hasBackslash && !hasLines && doubles = 0 then .basic
  else if !hasCodes && !hasLines && singles = 0 then .literal
  else if !hasCodes && !hasBackslash && doubles ≤ 2 then .basicLines
  else if !hasCodes && singles ≤ 2 then .literalLines
  else if hasLines then .basicLines
  else .basic

/-- A control character by the number of its code. -/
def codeEscape (c : Char) : List Char :=
  let upper (n : Nat) : Char := (Hex.digit n).toUpper
  ['\\', 'u', '0', '0', upper (c.toNat / 16), upper (c.toNat % 16)]

/-- A text between double quotes.  `inLines`: line ends stand as they are, and of quotes in a row
only each third is escaped.  `run`: the number of quotes just written as they are. -/
def escapeText (inLines : Bool) (run : Nat) : List Char → List Char
  | [] => []
  | c :: rest =>
    match c with
    | '"' =>
      if inLines && run < 2 then '"' :: escapeText inLines (run + 1) rest
      else '\\' :: '"' :: escapeText inLines 0 rest
    | '\\' => '\\' :: '\\' :: escapeText inLines 0 rest
    | '\x08' => '\\' :: 'b' :: escapeText inLines 0 rest
    | '\t' => '\\' :: 't' :: escapeText inLines 0 rest
    | '\x0c' => '\\' :: 'f' :: escapeText inLines 0 rest
    | '\r' => '\\' :: 'r' :: escapeText inLines 0 rest
    | '\n' =>
      if inLines then '\n' :: escapeText inLines 0 rest
      else '\\' :: 'n' :: escapeText inLines 0 rest
    | c =>
      if needsEscape c then codeEscape c ++ escapeText inLines 0 rest
      else c :: escapeText inLines 0 rest

/-- The line end after opening quotes of three, which does not count when read. -/
def openingLine (cs : List Char) : List Char := if cs.contains '\n' then ['\n'] else []

/-- A text in its quotes. -/
def renderText (s : String) : List Char :=
  let cs := s.toList
  match quotesFor cs with
  | .basic => ['"'] ++ escapeText false 0 cs ++ ['"']
  | .literal => ['\''] ++ cs ++ ['\'']
  | .basicLines => ['"', '"', '"'] ++ openingLine cs ++ escapeText true 0 cs ++ ['"', '"', '"']
  | .literalLines => ['\'', '\'', '\''] ++ openingLine cs ++ cs ++ ['\'', '\'', '\'']

/-- The value of an entry. -/
inductive Scalar where
  | text (content : String)
  | natural (value : Nat)
  | bool (value : Bool)

/-- The value as it is written.  A number beyond 63 bits cannot be written. -/
def Scalar.render? : Scalar → Option (List Char)
  | text content => some (renderText content)
  | natural value => if value < 0x8000000000000000 then some (Nat.toDigits 10 value) else none
  | bool value => some (if value then ['t', 'r', 'u', 'e'] else ['f', 'a', 'l', 's', 'e'])

/-- Entries, one a line. -/
def renderEntries? : List (String × Scalar) → Option (List Char)
  | [] => some []
  | (key, value) :: rest => do
    return key.toList ++ [' ', '=', ' '] ++ (← value.render?) ++ ['\n'] ++ (← renderEntries? rest)

/-- A table with its header. -/
def renderTable? (name : String) (entries : List (String × Scalar)) : Option (List Char) := do
  return ['['] ++ name.toList ++ [']', '\n'] ++ (← renderEntries? entries)

/-- Tables with an empty line between them. -/
def renderTables? : List (String × List (String × Scalar)) → Option (List Char)
  | [] => some []
  | [(name, entries)] => renderTable? name entries
  | (name, entries) :: rest => do
    return (← renderTable? name entries) ++ ['\n'] ++ (← renderTables? rest)

end AvatarVault.Toml
