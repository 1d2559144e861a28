import AvatarVault.Error
/-!
Failures as the storage layer words them, and which of them are worth another attempt.
-/
namespace AvatarVault

/-- How long a storage failure lasts. -/
inductive FailureStatus where
  | permanent
  | temporary
  | persistent
  deriving DecidableEq, Repr

/-- The status in words. -/
def FailureStatus.word : FailureStatus → String
  | permanent => "permanent"
  | temporary => "temporary"
  | persistent => "persistent"

/-- What kind of failure it is. -/
inductive FailureKind where
  | unexpected
  | unsupported
  | configInvalid
  | notFound
  | permissionDenied
  | isADirectory
  | notADirectory
  | alreadyExists
  /-- The host asks for fewer calls. -/
  | rateLimited
  | isSameFile
  | conditionNotMatch
  | rangeNotSatisfied
  deriving DecidableEq, Repr

namespace FailureKind

/-- The kind as one word. -/
def word : FailureKind → String
  | unexpected => "Unexpected"
  | unsupported => "Unsupported"
  | configInvalid => "ConfigInvalid"
  | notFound => "NotFound"
  | permissionDenied => "PermissionDenied"
  | isADirectory => "IsADirectory"
  | notADirectory => "NotADirectory"
  | alreadyExists => "AlreadyExists"
  | rateLimited => "RateLimited"
  | isSameFile => "IsSameFile"
  | conditionNotMatch => "ConditionNotMatch"
  | rangeNotSatisfied => "RangeNotSatisfied"

/-- All kinds. -/
def all : List FailureKind :=
  [unexpected, unsupported, configInvalid, notFound, permissionDenied, isADirectory,
    notADirectory, alreadyExists, rateLimited, isSameFile, conditionNotMatch, rangeNotSatisfied]

/-- The kind that a word names. -/
def ofWord? (w : String) : Option FailureKind := all.find? fun k => k.word == w

end FailureKind

/-- A failure of the storage layer. -/
structure StorageFailure where
  kind : FailureKind
  status : FailureStatus := .permanent
  /-- What was attempted; empty where it is not known. -/
  operation : String := ""
  /-- Named facts about the attempt, in order. -/
  context : List (String × String) := []
  text : String
  deriving DecidableEq, Repr

namespace StorageFailure

/-- The failure in words: kind, status and operation, then the facts and the text if any. -/
def message (f : StorageFailure) : String :=
  let facts := f.context.map fun (name, value) => name ++ ": " ++ value
  f.kind.word ++ " (" ++ f.status.word ++ ") at " ++ f.operation
    ++ (if facts.isEmpty then "" else ", context: \x7b " ++ ", ".intercalate facts ++ " \x7d")
    ++ (if f.text.isEmpty then "" else " => " ++ f.text)

/-- A temporary failure and a host that asks for fewer calls are transient; all else is final. -/
def classify (f : StorageFailure) : TransportError :=
  { transient := f.status = .temporary || f.kind = .rateLimited, text := f.message }

end StorageFailure

end AvatarVault
