/-!
Whole numbers in decimal digits, as variables and profile files write them.
-/
namespace AvatarVault.Unsigned

/-- The number that decimal digits write. -/
def value (digits : List Char) : Nat :=
  digits.foldl (fun n c => n * 10 + (c.toNat - '0'.toNat)) 0

/-- The number below `2 ^ 64` that some digits write, one at least. -/
def readDigits? (digits : List Char) : Option Nat :=
  if digits.isEmpty || !digits.all Char.isDigit || UInt64.size ≤ value digits then none
  else some (value digits)

/-- The number below `2 ^ 64` that a text writes, with or without a plus sign. -/
def read? (s : String) : Option Nat :=
  match s.toList with
  | '+' :: digits => readDigits? digits
  | digits => readDigits? digits

example : readDigits? ['0', '1', '2'] = some 12 ∧ readDigits? [] = none := by decide

example : readDigits? ['-', '1'] = none ∧ readDigits? [' ', '1'] = none := by decide

end AvatarVault.Unsigned
