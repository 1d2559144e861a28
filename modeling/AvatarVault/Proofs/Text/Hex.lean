import Mathlib.Data.List.Basic
import AvatarVault.Text.Hex
/-!
Hexadecimal text, both ways.  Bytes are written as lower-case digits, two a byte (`mem_encode`,
`length_flatMap_digits`, `getElem?_flatMap_digits`).  A text of an even number of codes is read
exactly if they are digits of either case, and then the bytes are those whose digits it has but for
the case (`decode_eq_ok_iff`).
-/
namespace AvatarVault

/-- The digits that bytes are written with. -/
def hexDigits : List Char := "0123456789abcdef".toList

/-- The digits that are read, of either case. -/
def hexSymbols : List Char := "0123456789abcdefABCDEF".toList

namespace Hex

/-- The number that a digit of either case stands for. -/
def valueOf (c : Char) : Nat := hexDigits.idxOf c.toLower

/-- The code of a character, where it is a single byte. -/
def code (c : Char) : UInt8 := c.toNat.toUInt8

/-! ## Writing -/

theorem digit_mem {n : Nat} (h : n < 16) : digit n ∈ hexDigits := by
  have all : ∀ n < 16, digit n ∈ hexDigits := by decide
  exact all n h

theorem valueOf_digit {n : Nat} (h : n < 16) : valueOf (digit n) = n := by
  have all : ∀ n < 16, valueOf (digit n) = n := by decide
  exact all n h

theorem toList_encode (b : ByteArray) : (encode b).toList = b.data.toList.flatMap digits := by
  rw [encode, String.toList_ofList]

theorem length_flatMap_digits (l : List UInt8) : (l.flatMap digits).length = 2 * l.length := by
  induction l with
  | nil => rfl
  | cons b l ih =>
    rw [List.flatMap_cons, List.length_append, ih, List.length_cons]
    simp only [digits, List.length_cons, List.length_nil]
    omega

theorem mem_flatMap_digits {l : List UInt8} {c : Char} (h : c ∈ l.flatMap digits) :
    c ∈ hexDigits := by
  obtain ⟨byte, -, mem⟩ := List.mem_flatMap.mp h
  have small := byte.toNat_lt
  rcases List.mem_cons.mp mem with rfl | mem
  · exact digit_mem (by omega)
  · rw [List.mem_singleton.mp mem]
    exact digit_mem (by omega)

theorem mem_encode {b : ByteArray} {c : Char} (h : c ∈ (encode b).toList) : c ∈ hexDigits := by
  rw [toList_encode] at h
  exact mem_flatMap_digits h

/-- A byte is known by its two digits. -/
theorem digits_inj {a b : UInt8} (h : digits a = digits b) : a = b := by
  have smallA := a.toNat_lt
  have smallB := b.toNat_lt
  obtain ⟨high, low⟩ : digit (a.toNat / 16) = digit (b.toNat / 16) ∧
      digit (a.toNat % 16) = digit (b.toNat % 16) := by simpa [digits] using h
  have quotient := congrArg valueOf high
  have remainder := congrArg valueOf low
  rw [valueOf_digit (by omega), valueOf_digit (by omega)] at quotient remainder
  exact UInt8.toNat_inj.mp (by omega)

theorem flatMap_digits_inj {l k : List UInt8} (h : l.flatMap digits = k.flatMap digits) : l = k := by
  induction l generalizing k with
  | nil =>
    cases k with
    | nil => rfl
    | cons b k => cases h
  | cons a l ih =>
    cases k with
    | nil => cases h
    | cons b k =>
      rw [List.flatMap_cons, List.flatMap_cons] at h
      obtain ⟨first, rest⟩ := List.append_inj h rfl
      rw [digits_inj first, ih rest]

/-- The digits of byte `i` stand at the places `2 * i` and `2 * i + 1`, the high one first. -/
theorem getElem?_flatMap_digits {l : List UInt8} {i : Nat} (h : i < l.length) :
    (l.flatMap digits)[2 * i]? = some (digit (l[i].toNat / 16)) ∧
      (l.flatMap digits)[2 * i + 1]? = some (digit (l[i].toNat % 16)) := by
  induction l generalizing i with
  | nil => exact absurd h (Nat.not_lt_zero i)
  | cons b l ih =>
    cases i with
    | zero => exact ⟨rfl, rfl⟩
    | succ i => exact ih (Nat.lt_of_succ_lt_succ h)

/-! ## Single digits -/

/-- What is written can be read. -/
theorem symbol_of_digit {c : Char} (h : c ∈ hexDigits) : c ∈ hexSymbols ∧ c.toLower = c := by
  have all : ∀ c ∈ hexDigits, (hexSymbols.contains c && c.toLower == c) = true :=
    List.all_eq_true.mp (by decide)
  simpa using all c h

/-- Whether a digit is written in lower case for this value. -/
def isFor (c : Char) (v : UInt8) : Bool := v.toNat < 16 && digit v.toNat == c.toLower

theorem isFor_iff {c : Char} {v : UInt8} :
    isFor c v = true ↔ v.toNat < 16 ∧ digit v.toNat = c.toLower := by
  simp [isFor]

/-- A digit is one byte of text, and the value that is read is that of the digit that is written
for it. -/
theorem value?_code {c : Char} (h : c ∈ hexSymbols) :
    String.utf8EncodeChar c = [code c] ∧
      ∃ v, value? (code c) = some v ∧ v.toNat < 16 ∧ digit v.toNat = c.toLower := by
  have all : ∀ c ∈ hexSymbols,
      (String.utf8EncodeChar c == [code c] && (value? (code c)).any (isFor c)) = true :=
    List.all_eq_true.mp (by decide)
  have known := all c h
  rw [Bool.and_eq_true, beq_iff_eq, Option.any_eq_true] at known
  obtain ⟨bytes, v, read, own⟩ := known
  exact ⟨bytes, v, read, isFor_iff.mp own⟩

/-- Only the code of a digit has a value. -/
theorem exists_symbol {b v : UInt8} (h : value? b = some v) :
    ∃ c ∈ hexSymbols, code c = b ∧ v.toNat < 16 ∧ digit v.toNat = c.toLower := by
  have all : ∀ n < 256, ((value? (UInt8.ofNat n)).all fun v =>
      hexSymbols.any fun c => code c == UInt8.ofNat n && isFor c v) = true := by
    decide +kernel
  have known := all b.toNat b.toNat_lt
  rw [UInt8.ofNat_toNat, h, Option.all_some, List.any_eq_true] at known
  obtain ⟨c, mem, own⟩ := known
  rw [Bool.and_eq_true, beq_iff_eq, isFor_iff] at own
  exact ⟨c, mem, own⟩

/-- The value of a digit that is written in lower case for a number. -/
theorem valueOf_eq {c : Char} {n : Nat} (h : c.toLower = digit n) (small : n < 16) :
    valueOf c = n := by
  have lower := (symbol_of_digit (digit_mem small)).2
  have same : valueOf c = valueOf (digit n) := by rw [valueOf, valueOf, h, lower]
  rw [same, valueOf_digit small]

/-- A character that is a digit in lower case is one in either. -/
theorem mem_hexSymbols_of_toLower {c : Char} (h : c.toLower ∈ hexDigits) : c ∈ hexSymbols := by
  by_cases upper : c.val ≥ 'A'.val ∧ c.val ≤ 'Z'.val
  · have all : ∀ n < 91, (Char.ofNat n).toLower ∈ hexDigits → Char.ofNat n ∈ hexSymbols := by
      decide +kernel
    have small : c.toNat < 91 := Nat.lt_succ_of_le (UInt32.le_iff_toNat_le.mp upper.2)
    have known := all c.toNat small
    rw [Char.ofNat_toNat] at known
    exact known h
  · have kept : c.toLower = c := dif_neg upper
    rw [kept] at h
    exact (symbol_of_digit h).1

theorem digits_of_values {x y : UInt8} (hx : x.toNat < 16) (hy : y.toNat < 16) :
    digits (x <<< 4 ||| y) = [digit x.toNat, digit y.toNat] := by
  have all : ∀ m < 16, ∀ n < 16, digits (UInt8.ofNat m <<< 4 ||| UInt8.ofNat n)
      = [digit m, digit n] := by decide +kernel
  have known := all x.toNat hx y.toNat hy
  rwa [UInt8.ofNat_toNat, UInt8.ofNat_toNat] at known

/-! ## Reading -/

/-- Pairs of digits are read as the bytes that have these digits. -/
theorem decode_map_code {n : Nat} {cs : List Char} (even : cs.length = 2 * n)
    (all : ∀ c ∈ cs, c ∈ hexSymbols) :
    ∃ bytes, decode (cs.map code) = .ok bytes ∧ bytes.flatMap digits = cs.map Char.toLower := by
  induction n generalizing cs with
  | zero =>
    obtain rfl := List.length_eq_zero_iff.mp even
    exact ⟨[], rfl, rfl⟩
  | succ n ih =>
    obtain ⟨a, b, rest, rfl⟩ : ∃ a b rest, cs = a :: b :: rest := by
      rcases cs with - | ⟨a, - | ⟨b, rest⟩⟩
      · simp at even
      · simp at even
        omega
      · exact ⟨a, b, rest, rfl⟩
    simp only [List.length_cons] at even
    simp only [List.forall_mem_cons] at all
    obtain ⟨high, low, further⟩ := all
    obtain ⟨-, x, hx, smallx, dx⟩ := value?_code high
    obtain ⟨-, y, hy, smally, dy⟩ := value?_code low
    obtain ⟨bytes, made, written⟩ := ih (by omega) further
    refine ⟨(x <<< 4 ||| y) :: bytes, ?_, ?_⟩
    · simp only [List.map_cons, decode, hx, hy, made, Except.map]
    · rw [List.flatMap_cons, digits_of_values smallx smally, written, dx, dy]
      rfl

/-- Codes that are read are those of digits. -/
theorem exists_symbols {codes bytes : List UInt8} (h : decode codes = .ok bytes)
    (even : codes.length % 2 = 0) :
    ∃ cs : List Char, codes = cs.map code ∧ (∀ c ∈ cs, c ∈ hexSymbols) ∧
      bytes.flatMap digits = cs.map Char.toLower := by
  fun_induction decode codes generalizing bytes with
  | case1 => cases h
  | case2 => cases h
  | case3 a b rest x y hy hx ih =>
    cases read : decode rest with
    | error e =>
      rw [read] at h
      cases h
    | ok further =>
      rw [read] at h
      obtain rfl := Except.ok.inj h
      obtain ⟨cs, rfl, all, written⟩ := ih read (by simp only [List.length_cons] at even; omega)
      obtain ⟨high, memHigh, rfl, smallx, dx⟩ := exists_symbol hx
      obtain ⟨low, memLow, rfl, smally, dy⟩ := exists_symbol hy
      refine ⟨high :: low :: cs, rfl, ?_, ?_⟩
      · simp only [List.forall_mem_cons]
        exact ⟨memHigh, memLow, all⟩
      · rw [List.flatMap_cons, digits_of_values smallx smally, written, dx, dy]
        rfl
  | case4 codes few =>
    obtain rfl := Except.ok.inj h
    rcases codes with - | ⟨a, - | ⟨b, rest⟩⟩
    · exact ⟨[], rfl, fun c mem => absurd mem List.not_mem_nil, rfl⟩
    · simp at even
    · exact absurd rfl (few a b rest)

/-- The bytes of a text of digits are the codes of the digits. -/
theorem toUTF8_of_symbols {s : String} (all : ∀ c ∈ s.toList, c ∈ hexSymbols) :
    s.toUTF8.data.toList = s.toList.map code := by
  have single : s.toList.flatMap String.utf8EncodeChar = s.toList.map code := by
    rw [List.map_eq_flatMap]
    exact List.flatMap_congr fun c mem => (value?_code (all c mem)).1
  rw [String.toUTF8_eq_toByteArray, ← String.ofList_toList (s := s), String.toByteArray_ofList,
    List.utf8Encode, String.ofList_toList, single, List.toList_data_toByteArray]

/-- **A text of an even number of bytes is read exactly if it consists of digits**, and but for the
case it is what is written for the bytes that it is read as. -/
theorem decode_eq_ok_iff {s : String} {bytes : List UInt8}
    (even : s.toUTF8.data.toList.length % 2 = 0) :
    decode s.toUTF8.data.toList = .ok bytes ↔
      s.toList.map Char.toLower = bytes.flatMap digits := by
  constructor
  · intro read
    obtain ⟨cs, codes, all, written⟩ := exists_symbols read even
    have bytesOf : (String.ofList cs).toUTF8.data.toList = (String.ofList cs).toList.map code :=
      toUTF8_of_symbols (by rwa [String.toList_ofList])
    rw [String.toList_ofList, ← codes] at bytesOf
    obtain rfl : s = String.ofList cs :=
      String.toByteArray_inj.mp (ByteArray.ext (Array.toList_inj.mp bytesOf.symm))
    rw [String.toList_ofList, written]
  · intro written
    have all : ∀ c ∈ s.toList, c ∈ hexSymbols := by
      intro c mem
      have lower : c.toLower ∈ bytes.flatMap digits := written ▸ List.mem_map_of_mem mem
      exact mem_hexSymbols_of_toLower (mem_flatMap_digits lower)
    have size : s.toList.length = 2 * bytes.length := by
      rw [← length_flatMap_digits, ← written, List.length_map]
    obtain ⟨bytes', read, written'⟩ := decode_map_code size all
    rw [toUTF8_of_symbols all, read, flatMap_digits_inj (written'.trans written)]

end Hex

end AvatarVault
