import AvatarVault.Bytes
/-!
Hexadecimal text: two lower-case digits a byte when written, digits of either case when read.
-/
namespace AvatarVault.Hex

/-- The lower-case digit for a value below sixteen. -/
def digit (n : Nat) : Char := if n < 10 then Char.ofNat (48 + n) else Char.ofNat (87 + n)

/-- The two digits of a byte, the high one first. -/
def digits (b : UInt8) : List Char := [digit (b.toNat / 16), digit (b.toNat % 16)]

/-- Bytes as hexadecimal digits. -/
def encode (b : ByteArray) : String := String.ofList (b.data.toList.flatMap digits)

/-- The digits of a number, without leading zeros. -/
def ofNat (n : Nat) : String := String.ofList (Nat.toDigits 16 n)

/-- The value of a digit given as an ASCII code. -/
def value? (c : UInt8) : Option UInt8 :=
  if 48 ≤ c && c ≤ 57 then some (c - 48)
  else if 97 ≤ c && c ≤ 102 then some (c - 87)
  else if 65 ≤ c && c ≤ 70 then some (c - 55)
  else none

/-- The bytes that pairs of digits stand for, or the first code that is no digit.  A digit
without a partner is left out. -/
def decode : List UInt8 → Except UInt8 (List UInt8)
  | a :: b :: rest =>
    match value? a, value? b with
    | none, _ => .error a
    | _, none => .error b
    | some x, some y => (decode rest).map ((x <<< 4 ||| y) :: ·)
  | _ => .ok []

/-- Pairs of digits give one byte each. -/
theorem length_decode {l d : List UInt8} (h : decode l = .ok d) : d.length = l.length / 2 := by
  fun_induction decode l generalizing d with
  | case1 => simp at h
  | case2 => simp at h
  | case3 a b rest x hx y hy ih =>
    cases hr : decode rest with
    | error e => simp [hr, Except.map] at h
    | ok r =>
      simp only [hr, Except.map, Except.ok.injEq] at h
      rw [← h, List.length_cons, ih hr, List.length_cons, List.length_cons]
      omega
  | case4 l hl =>
    simp only [Except.ok.injEq] at h
    subst h
    match l, hl with
    | [], _ => simp
    | [_], _ => simp
    | a :: b :: rest, hl => exact absurd rfl (hl a b rest)

end AvatarVault.Hex
