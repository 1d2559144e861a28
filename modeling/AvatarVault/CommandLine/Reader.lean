import AvatarVault.CommandLine.Grammar
import AvatarVault.Environment
/-!
Reading a command line.  A value that stands apart from its option is taken in only when the
next option or argument comes, or at the end; faults are found in that order.
-/
namespace AvatarVault.CommandLine

/-- How far the arguments of one command are read. -/
structure Progress where
  values : List (String × RawText) := []
  /-- The argument whose value is not yet taken in, and the value if it is there. -/
  pending : Option (Argument × Option RawText) := none
  /-- Whether the pending option still waits for its value. -/
  isAwaiting : Bool := false
  /-- The number of arguments known by their place. -/
  placed : Nat := 0
  /-- Whether only arguments known by their place may follow. -/
  isTrailing : Bool := false

/-- Refuses a value that the argument does not take. -/
def checkValue (a : Argument) (value : RawText) : Except UsageFault Unit :=
  match a.kind with
  | .path => if value.bytes.isEmpty then .error (.noValue a.label) else .ok ()
  | .text => if value.toString?.isSome then .ok () else .error .notText
  | .choice words =>
    if value.bytes.isEmpty then .error (.noValue a.label)
    else if value.toString?.any words.contains then .ok ()
    else .error (.invalidValue value.display a.label)

namespace Progress

/-- Takes in a value from the command line. -/
def take (p : Progress) (a : Argument) (value : Option RawText) : Except UsageFault Progress :=
  match value with
  | none => .error (.noValue a.label)
  | some value => do
    if p.values.any fun entry => entry.1 == a.name then throw (.repeated a.label)
    checkValue a value
    return { p with values := p.values ++ [(a.name, value)] }

/-- Takes in the pending value. -/
def settle (p : Progress) : Except UsageFault Progress :=
  match p.pending with
  | none => .ok p
  | some (a, value) => { p with pending := none }.take a value

/-- An option with a value joined to it, or one that waits for its value. -/
def option (p : Progress) (a : Argument) (joined : Option RawText) :
    Except UsageFault Progress := do
  let p ← p.settle
  match joined with
  | some value => return { ← p.take a (some value) with isAwaiting := false }
  | none => return { p with pending := some (a, none), isAwaiting := true }

/-- The answer to a switch. -/
def switch (p : Progress) (text : String) : Stop :=
  match p.settle with
  | .ok _ => .shown text
  | .error e => .fault e

end Progress

/-- The help of a command; of its text only the first line is fixed. -/
def helpText (c : Command) : String := c.about

/-- What a switch shows, by its long name. -/
def longSwitch? (c : Command) (name : String) : Option String :=
  if name == "help" then some (helpText c)
  else if name == "version" then c.version?
  else none

/-- What a switch shows, by its letter. -/
def shortSwitch? (c : Command) (letter : Char) : Option String :=
  if letter == 'h' then some (helpText c)
  else if letter == 'V' then c.version?
  else none

/-- Reads an argument that starts with two dashes, given what follows them. -/
def readLong (c : Command) (p : Progress) (rest : List UInt8) : Except Stop Progress :=
  let name : RawText := ⟨rest.takeWhile (· != 61)⟩
  let joined : Option RawText := match rest.dropWhile (· != 61) with
    | [] => none
    | _ :: value => some ⟨value⟩
  let unknown : Stop := .fault (.unexpected ("--" ++ name.display))
  match name.toString? with
  | none => .error unknown
  | some s =>
    match c.options.find? fun a => a.long? == some s with
    | some a => (p.option a joined).mapError .fault
    | none =>
      match longSwitch? c s, joined with
      | some text, none => .error (p.switch text)
      | some _, some value => .error (.fault (.unneededValue value.display ("--" ++ s)))
      | none, _ => .error unknown

/-- Reads an argument that starts with one dash, given what follows it. -/
def readShort (c : Command) (p : Progress) (rest : List UInt8) : Except Stop Progress :=
  match rest with
  | [] => .ok p
  | first :: more =>
    match Utf8.character first more with
    | (_, none) => .error (.fault (.unexpected ("-" ++ RawText.display ⟨rest⟩)))
    | (length, some code) =>
      let letter := Char.ofNat code
      match c.options.find? fun a => a.short? == some letter with
      | some a =>
        let joined : Option RawText := match more.drop length with
          | [] => none
          | 61 :: value => some ⟨value⟩
          | value => some ⟨value⟩
        (p.option a joined).mapError .fault
      | none =>
        match shortSwitch? c letter with
        | some text => .error (p.switch text)
        | none => .error (.fault (.unexpected ("-" ++ String.ofList [letter])))

/-- Reads an argument known by its place. -/
def readPlaced (c : Command) (p : Progress) (argument : RawText) : Except Stop Progress :=
  match c.places[p.placed]? with
  | some a => do
    let p ← p.settle.mapError .fault
    return { p with
      pending := some (a, some argument)
      isAwaiting := false
      placed := p.placed + 1 }
  | none =>
    let isCommand := match argument.toString? with
      | some s => s == "help" || c.commands.any fun sub => sub.name == s
      | none => false
    if c.commands.isEmpty || (p.isTrailing && isCommand) then
      .error (.fault (.unexpected argument.display))
    else .error (.fault (.unknownCommand argument.display))

/-- Where one of the command's own commands starts. -/
inductive Branch where
  | command (c : Command) (rest : List RawText)
  | help (rest : List RawText)

/-- The command that an argument names. -/
def branch? (c : Command) (argument : RawText) (rest : List RawText) : Option Branch :=
  match argument.toString? with
  | none => none
  | some s =>
    match c.commands.find? fun sub => sub.name == s with
    | some sub => some (.command sub rest)
    | none => if s == "help" && !c.commands.isEmpty then some (.help rest) else none

/-- Reads the arguments of a command up to the name of one of its own commands. -/
def readArguments (c : Command) (p : Progress) :
    List RawText → Except Stop (Progress × Option Branch)
  | [] => .ok (p, none)
  | argument :: rest =>
    let branch := if p.isTrailing || p.isAwaiting then none else branch? c argument rest
    match branch with
    | some b => .ok (p, some b)
    | none =>
      if p.isTrailing then do readArguments c (← readPlaced c p argument) rest
      else match argument.bytes with
        | [45, 45] => readArguments c { p with isTrailing := true } rest
        | 45 :: 45 :: long => do readArguments c (← readLong c p long) rest
        | 45 :: first :: short => do readArguments c (← readShort c p (first :: short)) rest
        | _ =>
          match p.isAwaiting, p.pending with
          | true, some (a, _) =>
            readArguments c { p with pending := some (a, some argument), isAwaiting := false } rest
          | _, _ => do readArguments c (← readPlaced c p argument) rest

/-- Adds the values that variables give. -/
def addVariables (e : Environment) (options : List Argument) (values : List (String × RawText)) :
    Except UsageFault (List (String × RawText)) :=
  options.foldlM (fun values a =>
    match a.envName?.bind e.raw? with
    | none => .ok values
    | some value => do
      if values.any fun entry => entry.1 == a.name then return values
      checkValue a value
      return values ++ [(a.name, value)]) values

/-- Adds the values of arguments that have one without being given. -/
def addDefaults (options : List Argument) (values : List (String × RawText)) :
    List (String × RawText) :=
  options.foldl (fun values a =>
    match a.default? with
    | none => values
    | some value =>
      if values.any fun entry => entry.1 == a.name then values
      else values ++ [(a.name, .ofString value)]) values

/-- Refuses a command line that leaves out what it must say. -/
def checkComplete (c : Command) (hasCommand : Bool) (given all : List (String × RawText)) :
    Except UsageFault Unit :=
  let isMissing (a : Argument) : Bool := a.isRequired && !all.any fun entry => entry.1 == a.name
  if !hasCommand && !c.commands.isEmpty then
    if given.isEmpty then .error (.nothingSaid c.about) else .error (.noCommand c.name)
  else if (c.options ++ c.places).any isMissing then .error .incomplete
  else .ok ()

/-- The help of the command that names lead to. -/
def helpFor (c : Command) : List RawText → Stop
  | [] => .shown (helpText c)
  | argument :: rest =>
    match branch? c argument rest with
    | some (.command sub _) => helpFor sub rest
    | some (.help []) => .shown (helpText c)
    | some (.help (next :: _)) => .fault (.unknownCommand next.display)
    | none => .fault (.unknownCommand argument.display)

/-- Reads the arguments of a command.  `fuel` bounds the depth of commands within commands.
Their arguments are read in full before the command's own ones are completed. -/
def readCommand (e : Environment) : (fuel : Nat) → Command → List RawText → Except Stop Parsed
  | 0, c, _ => .error (.fault (.noCommand c.name))
  | fuel + 1, c, arguments => do
    let (p, branch) ← readArguments c {} arguments
    let inner : Option Parsed ← match branch with
      | none => pure none
      | some (.help rest) => throw (helpFor c rest)
      | some (.command sub rest) => pure (some (← readCommand e fuel sub rest))
    let p ← p.settle.mapError .fault
    let given ← (addVariables e c.options p.values).mapError .fault
    let all := addDefaults c.options given
    (checkComplete c inner.isSome given all).mapError .fault
    match inner with
    | none => return { path := [c.name], values := all }
    | some inner => return { path := c.name :: inner.path, values := all ++ inner.values }

/-- Reads a command line; each command within a command takes one argument at least. -/
def read (e : Environment) (c : Command) (arguments : List RawText) : Except Stop Parsed :=
  readCommand e (arguments.length + 1) c arguments

end AvatarVault.CommandLine
