import AvatarVault.Toml.Value
/-!
Values that are written without quotes and brackets: truth values, integers, floats.
-/
namespace AvatarVault.Toml

/-- The value of a digit of any base up to sixteen. -/
def digitValue (c : Char) : Nat :=
  if '0' ≤ c && c ≤ '9' then c.toNat - 48
  else if 'a' ≤ c && c ≤ 'f' then c.toNat - 87
  else if 'A' ≤ c && c ≤ 'F' then c.toNat - 55
  else 16

/-- Whether the character is a digit of a base. -/
def isDigitOf (base : Nat) (c : Char) : Bool := digitValue c < base

/-- The digits of a token that may hold single underscores between digits. -/
def digits? (base : Nat) : List Char → Option (List Char)
  | [] => none
  | [c] => if isDigitOf base c then some [c] else none
  | c :: '_' :: rest => if isDigitOf base c then (digits? base rest).map (c :: ·) else none
  | c :: rest => if isDigitOf base c then (digits? base rest).map (c :: ·) else none

/-- The number that digits write. -/
def ofDigits (base : Nat) (ds : List Char) : Nat :=
  ds.foldl (fun n c => n * base + digitValue c) 0

/-- Decimal digits without a needless zero at the start. -/
def plainDigits? (cs : List Char) : Option (List Char) :=
  (digits? 10 cs).filter fun ds => ds.length = 1 || ds.head? != some '0'

/-- Whether a token starts with a minus, and the token without its sign. -/
def splitSign : List Char → Bool × List Char
  | '-' :: rest => (true, rest)
  | '+' :: rest => (false, rest)
  | cs => (false, cs)

/-- Whether an integer fits in 64 bits with sign. -/
def fits (i : Int) : Bool := -0x8000000000000000 ≤ i && i < 0x8000000000000000

/-- The integer that a token writes, in base ten with a sign or in base 2, 8 or 16 without. -/
def integer? (token : List Char) : Option Int :=
  let found : Option Int := match token with
    | '0' :: 'x' :: rest => (digits? 16 rest).map fun ds => (ofDigits 16 ds : Int)
    | '0' :: 'o' :: rest => (digits? 8 rest).map fun ds => (ofDigits 8 ds : Int)
    | '0' :: 'b' :: rest => (digits? 2 rest).map fun ds => (ofDigits 2 ds : Int)
    | _ =>
      let (isNegative, rest) := splitSign token
      (plainDigits? rest).map fun ds =>
        if isNegative then -(ofDigits 10 ds : Int) else (ofDigits 10 ds : Int)
  found.filter fits

/-- From this number on a float rounds to infinity. -/
def infinityBound : Nat := 0x3fffffffffffff <<< 970

/-- Whether `m` times ten to the `e` rounds to infinity. -/
def isInfinite (m : Nat) (e : Int) : Bool :=
  let size : Int := (Nat.toDigits 10 m).length + e
  if m = 0 || size ≤ 308 then false
  else if 310 ≤ size then true
  else if 0 ≤ e then infinityBound ≤ m * Nat.pow 10 e.toNat
  else infinityBound * Nat.pow 10 (-e).toNat ≤ m

/-- The exponent that a token after the letter writes. -/
def exponent? (token : List Char) : Option Int :=
  let (isNegative, rest) := splitSign token
  (digits? 10 rest).map fun ds =>
    if isNegative then -(ofDigits 10 ds : Int) else (ofDigits 10 ds : Int)

/-- Splits a token before its first exponent letter. -/
def splitExponent (token : List Char) : List Char × Option (List Char) :=
  let isLetter (c : Char) : Bool := c == 'e' || c == 'E'
  match token.dropWhile fun c => !isLetter c with
  | [] => (token, none)
  | _ :: rest => (token.takeWhile fun c => !isLetter c, some rest)

/-- Splits a token before its first point. -/
def splitPoint (token : List Char) : List Char × Option (List Char) :=
  match token.dropWhile (· != '.') with
  | [] => (token, none)
  | _ :: rest => (token.takeWhile (· != '.'), some rest)

/-- Whether a token writes a float: digits with a fraction, an exponent or both, or one of the
words for no number and infinity.  Digits that are too large without a minus are refused. -/
def isFloat (token : List Char) : Bool :=
  let (isNegative, unsigned) := splitSign token
  if unsigned == ['i', 'n', 'f'] || unsigned == ['n', 'a', 'n'] then true
  else
    let (mantissa, exponent) := splitExponent unsigned
    let (whole, fraction) := splitPoint mantissa
    if exponent.isNone && fraction.isNone then false
    else
      let read : Option (Nat × Int) := do
        let ds ← plainDigits? whole
        let fs ← match fraction with
          | some cs => digits? 10 cs
          | none => some []
        let e ← match exponent with
          | some cs => exponent? cs
          | none => some 0
        return (ofDigits 10 (ds ++ fs), e - fs.length)
      match read with
      | some (m, e) => isNegative || !isInfinite m e
      | none => false

end AvatarVault.Toml
