import AvatarVault.Toml.Number
/-!
Dates and times as they are written in settings: which tokens are one.
-/
namespace AvatarVault.Toml

/-- The number that two digits write. -/
def twoDigits? (a b : Char) : Option Nat :=
  if a.isDigit && b.isDigit then some ((a.toNat - 48) * 10 + (b.toNat - 48)) else none

/-- Whether a year has a 29th of February. -/
def isLeapYear (year : Nat) : Bool := year % 4 = 0 && (year % 100 != 0 || year % 400 = 0)

/-- The number of days of a month. -/
def daysIn (year month : Nat) : Nat :=
  if month = 2 then if isLeapYear year then 29 else 28
  else if month = 4 || month = 6 || month = 9 || month = 11 then 30
  else 31

/-- The characters after a date, if one stands at the start. -/
def afterDate? : List Char → Option (List Char)
  | y₁ :: y₂ :: y₃ :: y₄ :: '-' :: m₁ :: m₂ :: '-' :: d₁ :: d₂ :: rest => do
    let year := (← twoDigits? y₁ y₂) * 100 + (← twoDigits? y₃ y₄)
    let month ← twoDigits? m₁ m₂
    let day ← twoDigits? d₁ d₂
    if 1 ≤ month && month ≤ 12 && 1 ≤ day && day ≤ daysIn year month then return rest else none
  | _ => none

/-- The characters after a fraction of a second, if there is one. -/
def skipSecondFraction (cs : List Char) : List Char :=
  match cs with
  | '.' :: rest => if (rest.takeWhile Char.isDigit).isEmpty then cs else rest.dropWhile Char.isDigit
  | _ => cs

/-- The characters after a time of day, if one stands at the start. -/
def afterTime? : List Char → Option (List Char)
  | h₁ :: h₂ :: ':' :: m₁ :: m₂ :: ':' :: s₁ :: s₂ :: rest => do
    let hour ← twoDigits? h₁ h₂
    let minute ← twoDigits? m₁ m₂
    let second ← twoDigits? s₁ s₂
    if hour ≤ 23 && minute ≤ 59 && second ≤ 60 then return skipSecondFraction rest else none
  | _ => none

/-- Whether the characters are a distance from universal time, or nothing. -/
def isOffset : List Char → Bool
  | [] => true
  | ['Z'] => true
  | ['z'] => true
  | [sign, h₁, h₂, ':', m₁, m₂] =>
    match twoDigits? h₁ h₂, twoDigits? m₁ m₂ with
    | some hour, some minute => (sign == '+' || sign == '-') && hour ≤ 23 && minute ≤ 59
    | _, _ => false
  | _ => false

/-- Whether the characters are a time of day with or without a distance. -/
def isTimeWithOffset (cs : List Char) : Bool :=
  match afterTime? cs with
  | some rest => isOffset rest
  | none => false

/-- Whether a token is a date. -/
def isDate (token : List Char) : Bool := afterDate? token == some []

/-- Whether a token is a date, a time of day, or both with a letter between them. -/
def isMoment (token : List Char) : Bool :=
  match afterDate? token with
  | some [] => true
  | some (c :: rest) => (c == 'T' || c == 't') && isTimeWithOffset rest
  | none => afterTime? token == some []

end AvatarVault.Toml
