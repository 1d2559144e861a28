import AvatarVault.Bytes
/-!
Base64 with the standard alphabet and exact padding.  Reading refuses every text that writing
does not produce and says what is wrong with it, by offset.
-/
namespace AvatarVault.Base64

/-- The code of the sign that fills the last group. -/
def pad : UInt8 := 61

/-- The code of the symbol for a value below sixty-four. -/
def symbol (v : UInt8) : UInt8 :=
  if v < 26 then v + 65
  else if v < 52 then v + 71
  else if v < 62 then v - 4
  else if v = 62 then 43
  else 47

/-- The value of a symbol. -/
def value? (c : UInt8) : Option UInt8 :=
  if 65 ≤ c && c ≤ 90 then some (c - 65)
  else if 97 ≤ c && c ≤ 122 then some (c - 71)
  else if 48 ≤ c && c ≤ 57 then some (c + 4)
  else if c = 43 then some 62
  else if c = 47 then some 63
  else none

/-- What is wrong with a text that is no base64. -/
inductive Failure where
  /-- A code at an offset where no such symbol can stand. -/
  | symbol (code : UInt8) (offset : Nat)
  /-- The last group holds fewer than two symbols; the number of symbols in all. -/
  | length (symbols : Nat)
  /-- The last group is not filled up. -/
  | padding
  /-- The last symbol carries bits that belong to no byte. -/
  | lastSymbol (code : UInt8) (offset : Nat)
  deriving DecidableEq, Repr

/-- The failure in words. -/
def Failure.message : Failure → String
  | .symbol code offset => s!"Invalid symbol {code.toNat}, offset {offset}."
  | .length symbols => s!"Invalid input length: {symbols}"
  | .padding => "Invalid padding"
  | .lastSymbol code offset => s!"Invalid last symbol {code.toNat}, offset {offset}."

/-- The codes of a byte string: groups of four symbols, the last one filled with `pad`. -/
def encode : List UInt8 → List UInt8
  | a :: b :: c :: rest =>
    symbol (a >>> 2) :: symbol ((a &&& 3) <<< 4 ||| b >>> 4)
      :: symbol ((b &&& 15) <<< 2 ||| c >>> 6) :: symbol (c &&& 63) :: encode rest
  | [a, b] =>
    [symbol (a >>> 2), symbol ((a &&& 3) <<< 4 ||| b >>> 4), symbol ((b &&& 15) <<< 2), pad]
  | [a] => [symbol (a >>> 2), symbol ((a &&& 3) <<< 4), pad, pad]
  | [] => []

/-- The bytes as base64 text. -/
def encodeText (b : List UInt8) : String :=
  String.ofList ((encode b).map fun c => Char.ofNat c.toNat)

/-- The value of the symbol at an offset. -/
def valueAt (offset : Nat) (c : UInt8) : Except Failure UInt8 :=
  match value? c with
  | some v => .ok v
  | none => .error (.symbol c offset)

/-- The three bytes of four values. -/
def joinFour (p q r s : UInt8) : List UInt8 :=
  [p <<< 2 ||| q >>> 4, q <<< 4 ||| r >>> 2, r <<< 6 ||| s]

/-- The bytes of full groups; none of them may hold `pad`. -/
def decodeGroups (offset : Nat) : List UInt8 → Except Failure (List UInt8)
  | a :: b :: c :: d :: rest => do
    let p ← valueAt offset a
    let q ← valueAt (offset + 1) b
    let r ← valueAt (offset + 2) c
    let s ← valueAt (offset + 3) d
    let more ← decodeGroups (offset + 4) rest
    return joinFour p q r s ++ more
  | _ => .ok []

/-- The values before the first `pad` of the last group and the number of pads.  A pad may
stand only third or fourth and nothing but pads may follow it. -/
def splitLast (offset : Nat) : (index : Nat) → List UInt8 → Except Failure (List UInt8 × Nat)
  | _, [] => .ok ([], 0)
  | index, c :: rest =>
    if c = pad then
      if index < 2 then .error (.symbol pad (offset + index))
      else if rest.all (· == pad) then .ok ([], rest.length + 1)
      else .error (.symbol pad (offset + index))
    else do
      let v ← valueAt (offset + index) c
      let (values, pads) ← splitLast offset (index + 1) rest
      return (v :: values, pads)

/-- The bytes of the last group. -/
def decodeLast (offset : Nat) (group : List UInt8) : Except Failure (List UInt8) := do
  let (values, pads) ← splitLast offset 0 group
  let last := group.getD (values.length - 1) 0
  match values with
  | [p, q, r, s] => return joinFour p q r s
  | [p, q, r] =>
    if pads ≠ 1 then .error .padding
    else if r &&& 3 ≠ 0 then .error (.lastSymbol last (offset + 2))
    else return [p <<< 2 ||| q >>> 4, q <<< 4 ||| r >>> 2]
  | [p, q] =>
    if pads ≠ 2 then .error .padding
    else if q &&& 15 ≠ 0 then .error (.lastSymbol last (offset + 1))
    else return [p <<< 2 ||| q >>> 4]
  | _ => .error (.length (offset + values.length))

/-- The offset at which the last group starts. -/
def lastGroup (length : Nat) : Nat := (length - 1) / 4 * 4

/-- The bytes that a text given by its codes stands for.  A stray code after full groups is
reported first. -/
def decode (text : List UInt8) : Except Failure (List UInt8) := do
  if text.length % 4 = 1 then
    match text.getLast? with
    | some c => if c ≠ pad then let _ ← valueAt (text.length - 1) c
    | none => pure ()
  if text.isEmpty then return []
  let start := lastGroup text.length
  let bytes ← decodeGroups 0 (text.take start)
  let lastBytes ← decodeLast start (text.drop start)
  return bytes ++ lastBytes

end AvatarVault.Base64
