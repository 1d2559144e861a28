/-!
Faults in what surrounds the program that it does not report: it ends at once.
-/
namespace AvatarVault

/-- Why the program ends without a report. -/
inductive Breakdown where
  /-- A variable that is no text, where all variables are read. -/
  | variableNotText (name : String)
  /-- The profile gives a session a length that is no number of seconds. -/
  | sessionLength (value : String)
  /-- The variable for the number of worker threads holds no number that is of use. -/
  | workerCount
  deriving DecidableEq, Repr

end AvatarVault
