import AvatarVault.Text.Utf8
/-!
What a command line may say: commands, their options and arguments, and what is wrong with a
command line that says something else.
-/
namespace AvatarVault.CommandLine

/-- What values an argument takes. -/
inductive ValueKind where
  /-- Any bytes but none at all. -/
  | path
  /-- Any text. -/
  | text
  /-- One of some words. -/
  | choice (words : List String)
  deriving DecidableEq, Repr

/-- A named value: an option, or an argument known by its place. -/
structure Argument where
  name : String
  /-- The argument in messages. -/
  label : String
  kind : ValueKind
  /-- The option after two dashes. -/
  long? : Option String := none
  /-- The option after one dash. -/
  short? : Option Char := none
  /-- The variable that gives the value where the command line does not. -/
  envName? : Option String := none
  /-- The value where neither the command line nor a variable gives one. -/
  default? : Option String := none
  isRequired : Bool := false
  deriving DecidableEq, Repr

/-- A command with its options, the arguments known by their place, and its own commands. -/
inductive Command where
  | mk (name about : String) (options places : List Argument) (version : Option String)
      (commands : List Command)

namespace Command

def name : Command → String
  | mk n _ _ _ _ _ => n

/-- The first line of the command's help. -/
def about : Command → String
  | mk _ a _ _ _ _ => a

def options : Command → List Argument
  | mk _ _ os _ _ _ => os

def places : Command → List Argument
  | mk _ _ _ ps _ _ => ps

/-- What the command answers when asked for its version. -/
def version? : Command → Option String
  | mk _ _ _ _ v _ => v

def commands : Command → List Command
  | mk _ _ _ _ _ cs => cs

end Command

/-- What is wrong with a command line. -/
inductive UsageFault where
  /-- An argument that nothing takes. -/
  | unexpected (argument : String)
  /-- There is no such command. -/
  | unknownCommand (argument : String)
  /-- An argument has no value. -/
  | noValue (label : String)
  /-- A value is none of the words. -/
  | invalidValue (value label : String)
  /-- An argument has two values. -/
  | repeated (label : String)
  /-- A switch has a value. -/
  | unneededValue (value label : String)
  /-- A value that must be text is none. -/
  | notText
  /-- A required argument is not given. -/
  | incomplete
  /-- The command needs one of its own commands. -/
  | noCommand (name : String)
  /-- Nothing is said at all: the help is shown instead. -/
  | nothingSaid (about : String)
  deriving DecidableEq, Repr

/-- How a piece of a message stands out on a terminal with colours. -/
inductive Emphasis where
  | plain
  /-- The word that says that there is a fault. -/
  | fault
  /-- What is at fault. -/
  | bad
  /-- What is written as it stands. -/
  | literal
  deriving DecidableEq, Repr

namespace Emphasis

/-- The sign that starts a command to the terminal. -/
def commandStart : String := "\x1b["

/-- The command that ends all emphasis. -/
def ending : String := commandStart ++ "0m"

/-- The commands that start an emphasis: bold and red, yellow, or bold. -/
def start : Emphasis → String
  | plain => ""
  | fault => commandStart ++ "1m" ++ commandStart ++ "31m"
  | bad => commandStart ++ "33m"
  | literal => commandStart ++ "1m"

/-- A piece of text with its emphasis. -/
def render (e : Emphasis) (text : String) : String :=
  match e with
  | plain => text
  | _ => e.start ++ text ++ ending

end Emphasis

/-- A message in pieces. -/
abbrev Message : Type := List (Emphasis × String)

/-- The message, on a terminal with colours or elsewhere. -/
def Message.render (isColoured : Bool) (m : Message) : String :=
  String.join (m.map fun (e, text) => if isColoured then e.render text else text)

namespace UsageFault

/-- A message that says that there is a fault. -/
def faultMessage (m : Message) : Message := (.fault, "error:") :: (.plain, " ") :: m

/-- The first line of what is said about the fault. -/
def message : UsageFault → Message
  | unexpected argument =>
    faultMessage [(.plain, "unexpected argument '"), (.bad, argument), (.plain, "' found")]
  | unknownCommand argument =>
    faultMessage [(.plain, "unrecognized subcommand '"), (.bad, argument), (.plain, "'")]
  | noValue label =>
    faultMessage [(.plain, "a value is required for '"), (.bad, label),
      (.plain, "' but none was supplied")]
  | invalidValue value label =>
    faultMessage [(.plain, "invalid value '"), (.bad, value), (.plain, "' for '"),
      (.literal, label), (.plain, "'")]
  | repeated label =>
    faultMessage [(.plain, "the argument '"), (.bad, label),
      (.plain, "' cannot be used multiple times")]
  | unneededValue value label =>
    faultMessage [(.plain, "unexpected value '"), (.bad, value), (.plain, "' for '"),
      (.literal, label), (.plain, "' found; no more were expected")]
  | notText => faultMessage [(.plain, "invalid UTF-8 was detected in one or more arguments")]
  | incomplete => faultMessage [(.plain, "the following required arguments were not provided:")]
  | noCommand name =>
    faultMessage [(.plain, "'"), (.bad, name),
      (.plain, "' requires a subcommand but one was not provided")]
  | nothingSaid about => [(.plain, about)]

end UsageFault

/-- Why reading a command line ends early. -/
inductive Stop where
  /-- Something was asked for and is shown. -/
  | shown (text : String)
  | fault (cause : UsageFault)
  deriving DecidableEq, Repr

/-- A command line that says what it may: the commands from the outermost on, and the values. -/
structure Parsed where
  path : List String := []
  values : List (String × RawText) := []
  deriving DecidableEq, Repr, Inhabited

namespace Parsed

/-- The value of an argument. -/
def value? (p : Parsed) (name : String) : Option RawText :=
  (p.values.find? fun entry => entry.1 == name).map (·.2)

/-- The value of an argument as text. -/
def text? (p : Parsed) (name : String) : Option String :=
  (p.value? name).bind RawText.toString?

end Parsed

end AvatarVault.CommandLine
