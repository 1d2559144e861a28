/-!
Text handed over by the system as bytes that need not be UTF-8, and its reading: strict, or
with the replacement character for what cannot be read.
-/
namespace AvatarVault

/-- Text of the command line, of the environment or of a path: any bytes. -/
structure RawText where
  bytes : List UInt8
  deriving DecidableEq, Repr, Inhabited

namespace RawText

/-- The raw form of a text. -/
def ofString (s : String) : RawText := ⟨s.toUTF8.data.toList⟩

/-- The text, when the bytes are UTF-8. -/
def toString? (t : RawText) : Option String := String.fromUTF8? ⟨t.bytes.toArray⟩

end RawText

namespace Utf8

/-- Whether the byte continues a character. -/
def isTail (b : UInt8) : Bool := 0x80 ≤ b && b ≤ 0xbf

/-- The second bytes that may follow a first byte, and the number of bytes after the second;
`none` for a byte that starts no longer character. -/
def afterFirst (b : UInt8) : Option ((UInt8 × UInt8) × Nat) :=
  if 0xc2 ≤ b && b ≤ 0xdf then some ((0x80, 0xbf), 0)
  else if b = 0xe0 then some ((0xa0, 0xbf), 1)
  else if b = 0xed then some ((0x80, 0x9f), 1)
  else if 0xe1 ≤ b && b ≤ 0xef then some ((0x80, 0xbf), 1)
  else if b = 0xf0 then some ((0x90, 0xbf), 2)
  else if 0xf1 ≤ b && b ≤ 0xf3 then some ((0x80, 0xbf), 2)
  else if b = 0xf4 then some ((0x80, 0x8f), 2)
  else none

/-- The payload bits of the first byte of a character. -/
def firstBits (b : UInt8) : Nat :=
  if b < 0xe0 then b.toNat % 32 else if b < 0xf0 then b.toNat % 16 else b.toNat % 8

/-- The number of bytes after the first that belong to its character, and the code point when
the character is whole. -/
def character (first : UInt8) (rest : List UInt8) : Nat × Option Nat :=
  if first < 0x80 then (0, some first.toNat)
  else match afterFirst first, rest with
    | some ((low, high), more), second :: rest =>
      if low ≤ second && second ≤ high then
        let tail := (rest.take more).takeWhile isTail
        let code := (second :: tail).foldl (fun n b => n * 64 + b.toNat % 64) (firstBits first)
        (tail.length + 1, if tail.length = more then some code else none)
      else (0, none)
    | _, _ => (0, none)

/-- The characters of a byte string; the longest start of a character that breaks off becomes
one replacement character. -/
def readLossy : List UInt8 → List Char
  | [] => []
  | first :: rest =>
    let (length, code) := character first rest
    let char := match code with
      | some n => Char.ofNat n
      | none => '\ufffd'
    char :: readLossy (rest.drop length)
termination_by l => l.length

end Utf8

/-- The text for showing: bytes that are no UTF-8 are replaced. -/
def RawText.display (t : RawText) : String := String.ofList (Utf8.readLossy t.bytes)

end AvatarVault
