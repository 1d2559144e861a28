import Mathlib.Data.List.Basic
import Mathlib.Tactic.IntervalCases
import AvatarVault.Key
import AvatarVault.Proofs.Text.Blank
/-!
Base64 text.  What is written for some bytes reads back as those bytes (`decode_encode`): the last
group of up to three bytes is read by itself, the groups before it one like the other.  The text
has no blanks and only single bytes, so it is a key text as it stands (`ofBase64_encodeText`).
-/
namespace AvatarVault.Base64

/-! ## Bits -/

/-- Bytes with the same eight bits are the same. -/
theorem eq_of_bits {a b : UInt8}
    (h : ∀ i < 8, a.toBitVec.getLsbD i = b.toBitVec.getLsbD i) : a = b :=
  UInt8.toBitVec_inj.mp (BitVec.eq_of_getLsbD_eq h)

/-- A byte without its two highest bits is a value that has a symbol. -/
theorem lt_of_bits {v : UInt8} (six : v.toBitVec[6] = false)
    (seven : v.toBitVec[7] = false) : v < 64 := by
  have cut : v &&& 63 = v := by
    apply eq_of_bits
    intro i hi
    interval_cases i <;> simp [six, seven]
  rw [← cut, UInt8.lt_iff_toNat_lt, UInt8.toNat_and]
  exact Nat.lt_succ_of_le Nat.and_le_right

theorem first_lt (a : UInt8) : a >>> 2 < 64 := lt_of_bits (by simp) (by simp)

theorem second_lt (a b : UInt8) : (a &&& 3) <<< 4 ||| b >>> 4 < 64 :=
  lt_of_bits (by simp) (by simp)

theorem third_lt (b c : UInt8) : (b &&& 15) <<< 2 ||| c >>> 6 < 64 :=
  lt_of_bits (by simp) (by simp)

theorem fourth_lt (c : UInt8) : c &&& 63 < 64 := lt_of_bits (by simp) (by simp)

theorem second_lt_alone (a : UInt8) : (a &&& 3) <<< 4 < 64 := lt_of_bits (by simp) (by simp)

theorem third_lt_alone (b : UInt8) : (b &&& 15) <<< 2 < 64 := lt_of_bits (by simp) (by simp)

/-- Four values of six bits, cut out of three bytes, make up those bytes. -/
theorem joinFour_cut (a b c : UInt8) :
    joinFour (a >>> 2) ((a &&& 3) <<< 4 ||| b >>> 4) ((b &&& 15) <<< 2 ||| c >>> 6) (c &&& 63)
      = [a, b, c] := by
  have first : (a >>> 2) <<< 2 ||| ((a &&& 3) <<< 4 ||| b >>> 4) >>> 4 = a := by
    apply eq_of_bits
    intro i hi
    interval_cases i <;> simp
  have second : ((a &&& 3) <<< 4 ||| b >>> 4) <<< 4 ||| ((b &&& 15) <<< 2 ||| c >>> 6) >>> 2
      = b := by
    apply eq_of_bits
    intro i hi
    interval_cases i <;> simp
  have third : ((b &&& 15) <<< 2 ||| c >>> 6) <<< 6 ||| (c &&& 63) = c := by
    apply eq_of_bits
    intro i hi
    interval_cases i <;> simp
  rw [joinFour, first, second, third]

/-! ## Symbols -/

theorem value?_symbol {v : UInt8} (small : v < 64) : value? (symbol v) = some v := by
  have all : ∀ n < 64, value? (symbol (UInt8.ofNat n)) = some (UInt8.ofNat n) := by decide
  have known := all v.toNat (UInt8.lt_iff_toNat_lt.mp small)
  rwa [UInt8.ofNat_toNat] at known

theorem symbol_ne_pad {v : UInt8} (small : v < 64) : symbol v ≠ pad := by
  intro same
  have known := value?_symbol small
  have unknown : value? pad = none := by decide
  rw [same, unknown] at known
  cases known

theorem valueAt_symbol {v : UInt8} (small : v < 64) (offset : Nat) :
    valueAt offset (symbol v) = .ok v := by
  rw [valueAt, value?_symbol small]

/-! ## Groups -/

theorem decodeGroups_encode (a b c : UInt8) (rest : List UInt8) (offset : Nat) :
    decodeGroups offset (encode (a :: b :: c :: rest))
      = (decodeGroups (offset + 4) (encode rest)).map ([a, b, c] ++ ·) := by
  rw [encode, decodeGroups, valueAt_symbol (first_lt a), valueAt_symbol (second_lt a b),
    valueAt_symbol (third_lt b c), valueAt_symbol (fourth_lt c)]
  simp only [bind, Except.bind, joinFour_cut]
  cases decodeGroups (offset + 4) (encode rest) <;> rfl

theorem splitLast_symbol {v : UInt8} (small : v < 64) (offset index : Nat) (rest : List UInt8) :
    splitLast offset index (symbol v :: rest)
      = (splitLast offset (index + 1) rest).map fun found => (v :: found.1, found.2) := by
  rw [splitLast, if_neg (symbol_ne_pad small), valueAt_symbol small]
  simp only [bind, Except.bind]
  cases splitLast offset (index + 1) rest <;> rfl

/-- A last group reads back, whether it is filled up or not.  One that is not filled up is cut as
if zeros came after it. -/
theorem decodeLast_encode {last : List UInt8} (filled : last ≠ []) (short : last.length ≤ 3)
    (offset : Nat) : decodeLast offset (encode last) = .ok last := by
  match last with
  | [] => contradiction
  | [a] =>
    have zeros : (a &&& 3) <<< 4 ||| (0 : UInt8) >>> 4 = (a &&& 3) <<< 4 := by simp
    have join := joinFour_cut a 0 0
    have small := second_lt a 0
    rw [zeros] at join small
    rw [joinFour, List.cons.injEq] at join
    have spare : (a &&& 3) <<< 4 &&& 15 = 0 := by
      apply eq_of_bits
      intro i hi
      interval_cases i <;> simp
    rw [decodeLast, encode, splitLast_symbol (first_lt a), splitLast_symbol small]
    simp [splitLast, bind, Except.bind, Except.map, spare, join.1, pure, Except.pure]
  | [a, b] =>
    have zeros : (b &&& 15) <<< 2 ||| (0 : UInt8) >>> 6 = (b &&& 15) <<< 2 := by simp
    have join := joinFour_cut a b 0
    have small := third_lt b 0
    rw [zeros] at join small
    rw [joinFour, List.cons.injEq, List.cons.injEq] at join
    have spare : (b &&& 15) <<< 2 &&& 3 = 0 := by
      apply eq_of_bits
      intro i hi
      interval_cases i <;> simp
    rw [decodeLast, encode, splitLast_symbol (first_lt a), splitLast_symbol (second_lt a b),
      splitLast_symbol small]
    simp [splitLast, bind, Except.bind, Except.map, spare, join.1, join.2.1, pure, Except.pure]
  | [a, b, c] =>
    rw [decodeLast, encode, splitLast_symbol (first_lt a), splitLast_symbol (second_lt a b),
      splitLast_symbol (third_lt b c), splitLast_symbol (fourth_lt c)]
    simp [encode, splitLast, bind, Except.bind, Except.map, joinFour_cut, pure, Except.pure]
  | a :: b :: c :: d :: rest =>
    simp only [List.length_cons] at short
    omega

theorem length_encode_last {last : List UInt8} (filled : last ≠ []) (short : last.length ≤ 3) :
    (encode last).length = 4 := by
  match last with
  | [] => contradiction
  | [a] => rfl
  | [a, b] => rfl
  | [a, b, c] => rfl
  | a :: b :: c :: d :: rest =>
    simp only [List.length_cons] at short
    omega

/-- Bytes are full groups and a last one, and both are written by themselves. -/
theorem exists_groups {l : List UInt8} (filled : l ≠ []) :
    ∃ front last, l = front ++ last ∧ last ≠ [] ∧ last.length ≤ 3 ∧
      encode l = encode front ++ encode last ∧ (encode front).length % 4 = 0 ∧
      ∀ offset, decodeGroups offset (encode front) = .ok front := by
  fun_induction encode l with
  | case1 a b c rest ih =>
    by_cases done : rest = []
    · subst done
      exact ⟨[], [a, b, c], rfl, by simp, by simp, by simp [encode], rfl, fun _ => rfl⟩
    · obtain ⟨front, last, whole, some_byte, short, written, length, read⟩ := ih done
      refine ⟨a :: b :: c :: front, last, by simp [whole], some_byte, short, ?_, ?_, ?_⟩
      · rw [written, encode]
        rfl
      · rw [encode]
        simp only [List.length_cons]
        omega
      · intro offset
        rw [decodeGroups_encode, read]
        rfl
  | case2 a b => exact ⟨[], [a, b], rfl, by simp, by simp, rfl, rfl, fun _ => rfl⟩
  | case3 a => exact ⟨[], [a], rfl, by simp, by simp, rfl, rfl, fun _ => rfl⟩
  | case4 => contradiction

/-- **Bytes read back from what is written for them.** -/
theorem decode_encode (l : List UInt8) : decode (encode l) = .ok l := by
  by_cases empty : l = []
  · subst empty
    rfl
  · obtain ⟨front, last, whole, some_byte, short, written, length, read⟩ := exists_groups empty
    have size : (encode l).length = (encode front).length + 4 := by
      rw [written, List.length_append, length_encode_last some_byte short]
    have noStray : ¬ (encode l).length % 4 = 1 := by omega
    have some_code : ¬ (encode l).isEmpty = true := by
      rw [List.isEmpty_iff, ← List.length_eq_zero_iff]
      omega
    have start : lastGroup (encode l).length = (encode front).length := by
      rw [lastGroup, size]
      omega
    have early : (encode l).take (encode front).length = encode front := by
      rw [written, List.take_left]
    have late : (encode l).drop (encode front).length = encode last := by
      rw [written, List.drop_left]
    unfold decode
    rw [if_neg noStray]
    simp only [start, early, late, read, decodeLast_encode some_byte short, bind, Except.bind,
      pure, Except.pure]
    rw [if_neg some_code, whole]

/-! ## Text -/

/-- A symbol as a character: one byte of text, and no blank. -/
theorem character_symbol {v : UInt8} (small : v < 64) :
    isBlank (Char.ofNat (symbol v).toNat) = false ∧
      String.utf8EncodeChar (Char.ofNat (symbol v).toNat) = [symbol v] := by
  have all : ∀ n < 64, isBlank (Char.ofNat (symbol (UInt8.ofNat n)).toNat) = false ∧
      String.utf8EncodeChar (Char.ofNat (symbol (UInt8.ofNat n)).toNat)
        = [symbol (UInt8.ofNat n)] := by decide
  have known := all v.toNat (UInt8.lt_iff_toNat_lt.mp small)
  rwa [UInt8.ofNat_toNat] at known

/-- Only symbols and fillers are written. -/
theorem mem_encode {l : List UInt8} {c : UInt8} (mem : c ∈ encode l) :
    c = pad ∨ ∃ v < 64, c = symbol v := by
  fun_induction encode l with
  | case1 a b c' rest ih =>
    simp only [List.mem_cons] at mem
    rcases mem with rfl | rfl | rfl | rfl | mem
    · exact .inr ⟨_, first_lt a, rfl⟩
    · exact .inr ⟨_, second_lt a b, rfl⟩
    · exact .inr ⟨_, third_lt b c', rfl⟩
    · exact .inr ⟨_, fourth_lt c', rfl⟩
    · exact ih mem
  | case2 a b =>
    simp only [List.mem_cons, List.not_mem_nil, or_false] at mem
    rcases mem with rfl | rfl | rfl | rfl
    · exact .inr ⟨_, first_lt a, rfl⟩
    · exact .inr ⟨_, second_lt a b, rfl⟩
    · exact .inr ⟨_, third_lt_alone b, rfl⟩
    · exact .inl rfl
  | case3 a =>
    simp only [List.mem_cons, List.not_mem_nil, or_false] at mem
    rcases mem with rfl | rfl | rfl | rfl
    · exact .inr ⟨_, first_lt a, rfl⟩
    · exact .inr ⟨_, second_lt_alone a, rfl⟩
    · exact .inl rfl
    · exact .inl rfl
  | case4 => exact absurd mem List.not_mem_nil

/-- A code that is written is one byte of text, and no blank. -/
theorem character_of_mem_encode {l : List UInt8} {c : UInt8} (mem : c ∈ encode l) :
    isBlank (Char.ofNat c.toNat) = false ∧ String.utf8EncodeChar (Char.ofNat c.toNat) = [c] := by
  rcases mem_encode mem with rfl | ⟨v, small, rfl⟩
  · decide
  · exact character_symbol small

theorem toList_encodeText (bytes : List UInt8) :
    (encodeText bytes).toList = (encode bytes).map fun c => Char.ofNat c.toNat :=
  String.toList_ofList

theorem isBlank_of_mem_encodeText {bytes : List UInt8} {c : Char}
    (mem : c ∈ (encodeText bytes).toList) : isBlank c = false := by
  rw [toList_encodeText] at mem
  obtain ⟨code, written, rfl⟩ := List.mem_map.mp mem
  exact (character_of_mem_encode written).1

theorem trim_encodeText (l : List UInt8) : trim (encodeText l) = encodeText l := by
  have solid : ∀ c ∈ (encodeText l).toList, isBlank c = false :=
    fun c mem => isBlank_of_mem_encodeText mem
  have kept := @trimChars_append [] (encodeText l).toList [] (by simp) solid
  rw [List.nil_append, List.append_nil] at kept
  rw [trim, kept, String.ofList_toList]

theorem toUTF8_encodeText (l : List UInt8) : (encodeText l).toUTF8.data.toList = encode l := by
  have single : ((encode l).map fun c => Char.ofNat c.toNat).flatMap String.utf8EncodeChar
      = encode l := by
    rw [List.flatMap_map]
    calc (encode l).flatMap (fun c => String.utf8EncodeChar (Char.ofNat c.toNat))
        = (encode l).flatMap (fun c => [c]) :=
          List.flatMap_congr fun c mem => (character_of_mem_encode mem).2
      _ = encode l := List.flatMap_singleton' _
  rw [encodeText, String.toUTF8_eq_toByteArray, String.toByteArray_ofList, List.utf8Encode, single,
    List.toList_data_toByteArray]

end AvatarVault.Base64

namespace AvatarVault.ProfileKey

/-- The text of some bytes is the key that the bytes are, and no key where they are none. -/
theorem ofBase64_encodeText (b : ByteArray) :
    ofBase64 (Base64.encodeText b.data.toList) = ofBytes b := by
  rw [ofBase64, Base64.trim_encodeText, Base64.toUTF8_encodeText, Base64.decode_encode]
  rfl

end AvatarVault.ProfileKey
