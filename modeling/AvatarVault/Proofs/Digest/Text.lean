import AvatarVault.Digest
import AvatarVault.Proofs.Text.Hex
/-!
Digest texts.  A text names a digest exactly if it is, but for the case of its letters, the text
that is written for that digest (`ofHex_eq_ok_iff`).  So the texts of digests are those of
sixty-four digits, and two of them name one digest exactly if they differ in the case of letters
only (`digest_text_by_digits`).
-/
namespace AvatarVault.Digest

/-- The bytes of a digest, in order. -/
def octets (d : Digest) : List UInt8 := d.bytes.val.data.toList

section Texts

variable {s t : String} {d : Digest}

@[simp] theorem length_octets (d : Digest) : d.octets.length = 32 := by
  rw [octets, Array.length_toList, ByteArray.size_data, d.bytes.property]

theorem toList_toHex (d : Digest) : d.toHex.toList = d.octets.flatMap Hex.digits :=
  Hex.toList_encode _

theorem length_toHex (d : Digest) : d.toHex.length = 64 := by
  rw [← String.length_toList, toList_toHex, Hex.length_flatMap_digits, length_octets]

theorem toList_toLower (s : String) : s.toLower.toList = s.toList.map Char.toLower :=
  String.toList_map

theorem toLower_eq_toHex_iff :
    s.toLower = d.toHex ↔ s.toList.map Char.toLower = d.octets.flatMap Hex.digits := by
  rw [← String.toList_inj, toList_toLower, toList_toHex]

theorem ofHex_eq_ok_iff_decode :
    ofHex s = .ok d ↔
      s.toUTF8.data.toList.length = 64 ∧ Hex.decode s.toUTF8.data.toList = .ok d.octets := by
  unfold ofHex
  dsimp only
  constructor
  · intro named
    split at named
    · rename_i size
      split at named
      · rename_i bytes read
        obtain rfl := Except.ok.inj named
        exact ⟨size, read⟩
      · cases named
    · cases named
  · rintro ⟨size, read⟩
    rw [dif_pos size]
    split
    · rename_i bytes read'
      obtain rfl := Except.ok.inj (read'.symm.trans read)
      rfl
    · rename_i code failed
      cases failed.symm.trans read

/-- A text that is that of a digest, but for the case, consists of digits. -/
theorem symbols_of_toLower (same : s.toLower = d.toHex) :
    s.length = 64 ∧ ∀ c ∈ s.toList, c ∈ hexSymbols := by
  have lower := toLower_eq_toHex_iff.mp same
  constructor
  · rw [← String.length_toList, ← List.length_map Char.toLower, lower, ← toList_toHex,
      String.length_toList, length_toHex]
  · intro c mem
    have written : c.toLower ∈ d.octets.flatMap Hex.digits := lower ▸ List.mem_map_of_mem mem
    exact Hex.mem_hexSymbols_of_toLower (Hex.mem_flatMap_digits written)

/-- **A text names a digest exactly if it is the text of the digest but for the case.** -/
theorem ofHex_eq_ok_iff : ofHex s = .ok d ↔ s.toLower = d.toHex := by
  rw [ofHex_eq_ok_iff_decode, toLower_eq_toHex_iff]
  constructor
  · rintro ⟨size, read⟩
    exact (Hex.decode_eq_ok_iff (by rw [size])).mp read
  · intro written
    obtain ⟨length, all⟩ := symbols_of_toLower (toLower_eq_toHex_iff.mpr written)
    have size : s.toUTF8.data.toList.length = 64 := by
      rw [Hex.toUTF8_of_symbols all, List.length_map, String.length_toList, length]
    exact ⟨size, (Hex.decode_eq_ok_iff (by rw [size])).mpr written⟩

theorem ofHex_toHex (d : Digest) : ofHex d.toHex = .ok d := by
  have lower : d.toHex.toList.map Char.toLower = d.toHex.toList.map id :=
    List.map_congr_left fun c mem => (Hex.symbol_of_digit (Hex.mem_encode mem)).2
  rw [ofHex_eq_ok_iff, toLower_eq_toHex_iff, lower, List.map_id, toList_toHex]

/-- Sixty-four digits name a digest. -/
theorem exists_ofHex (length : s.length = 64) (all : ∀ c ∈ s.toList, c ∈ hexSymbols) :
    ∃ d, ofHex s = .ok d := by
  obtain ⟨bytes, -, written⟩ := Hex.decode_map_code (n := 32)
    (by rw [String.length_toList, length]) all
  have size : bytes.length = 32 := by
    have count := congrArg List.length written
    rw [Hex.length_flatMap_digits, List.length_map, String.length_toList, length] at count
    omega
  exact ⟨⟨⟨bytesOfList bytes, size⟩⟩, ofHex_eq_ok_iff.mpr (toLower_eq_toHex_iff.mpr written.symm)⟩

theorem exists_ofHex_iff :
    (∃ d, ofHex s = .ok d) ↔ s.length = 64 ∧ ∀ c ∈ s.toList, c ∈ hexSymbols := by
  constructor
  · rintro ⟨d, named⟩
    exact symbols_of_toLower (ofHex_eq_ok_iff.mp named)
  · rintro ⟨length, all⟩
    exact exists_ofHex length all

/-- Byte `i` of a digest is sixteen times the value of digit `2 * i` of its text and the value of
the next digit. -/
theorem get_of_ofHex (named : ofHex s = .ok d) {i : Nat} (hi : i < 32) :
    ∃ high low, s.toList[2 * i]? = some high ∧ s.toList[2 * i + 1]? = some low ∧
      (d.bytes.get i hi).toNat = 16 * Hex.valueOf high + Hex.valueOf low := by
  have lower := toLower_eq_toHex_iff.mp (ofHex_eq_ok_iff.mp named)
  have inside : i < d.octets.length := by rwa [length_octets]
  obtain ⟨high, low⟩ := Hex.getElem?_flatMap_digits inside
  rw [← lower, List.getElem?_map, Option.map_eq_some_iff] at high low
  obtain ⟨high, atHigh, digitHigh⟩ := high
  obtain ⟨low, atLow, digitLow⟩ := low
  have small := d.octets[i].toNat_lt
  have byte : (d.bytes.get i hi).toNat = d.octets[i].toNat := rfl
  refine ⟨high, low, atHigh, atLow, ?_⟩
  rw [byte, Hex.valueOf_eq digitHigh (by omega), Hex.valueOf_eq digitLow (by omega)]
  omega

end Texts

/-- **Digests and their texts.**  What is written for a digest is sixty-four lower-case digits, and
gives the digest back.  Exactly the texts of sixty-four digits of either case name a digest, the one
whose bytes the digits spell, high digit first, and whose text they are in lower case.  Two texts
name the same digest exactly if they differ in the case of letters only, and every other text is
refused as invalid. -/
theorem digest_text_by_digits :
    (∀ d : Digest, d.toHex.length = 64 ∧ (∀ c ∈ d.toHex.toList, c ∈ hexDigits) ∧
      ofHex d.toHex = .ok d) ∧
    (∀ s : String, (∃ d, ofHex s = .ok d) ↔
      s.length = 64 ∧ ∀ c ∈ s.toList, c ∈ hexSymbols) ∧
    (∀ (s : String) (d : Digest), ofHex s = .ok d → d.toHex = s.toLower ∧
      ∀ (i : Nat) (hi : i < 32), ∃ high low,
        s.toList[2 * i]? = some high ∧ s.toList[2 * i + 1]? = some low ∧
          (d.bytes.get i hi).toNat = 16 * Hex.valueOf high + Hex.valueOf low) ∧
    (∀ (s t : String) (d : Digest), ofHex s = .ok d →
      (ofHex t = .ok d ↔ t.toLower = s.toLower)) ∧
    ∀ s : String, ¬ (s.length = 64 ∧ ∀ c ∈ s.toList, c ∈ hexSymbols) →
      ∃ told, (ofHex s).mapError (DigestFailure.toUploadError s)
        = .error (.validation told) := by
  refine ⟨fun d => ⟨length_toHex d, fun c => Hex.mem_encode, ofHex_toHex d⟩,
    fun s => exists_ofHex_iff, ?_, ?_, ?_⟩
  · intro s d named
    exact ⟨(ofHex_eq_ok_iff.mp named).symm, fun i hi => get_of_ofHex named hi⟩
  · intro s t d named
    rw [ofHex_eq_ok_iff, ofHex_eq_ok_iff.mp named]
  · intro s other
    cases answer : ofHex s with
    | ok d => exact absurd (exists_ofHex_iff.mp ⟨d, answer⟩) other
    | error e => exact ⟨_, rfl⟩

/-- Digits of both cases, and no byte whose two digits are equal. -/
def exampleDigits : List Char := (List.replicate 16 ['F', '0', 'e', '1']).flatten

/-- The digest that these digits name. -/
def exampleDigest : Digest := ⟨⟨bytesOfList (List.replicate 16 [0xf0, 0xe1]).flatten, rfl⟩⟩

/-- The text is written back in lower case, its first two digits are those of the first byte, high
digit first, and with one digit less it names no digest. -/
theorem digest_text_by_digits_mixed_case :
    ofHex (String.ofList exampleDigits) = .ok exampleDigest ∧
      exampleDigest.toHex = (String.ofList exampleDigits).toLower ∧
      (∃ high low, (String.ofList exampleDigits).toList[0]? = some high ∧
        (String.ofList exampleDigits).toList[1]? = some low ∧
        (exampleDigest.bytes.get 0 (by decide)).toNat
          = 16 * Hex.valueOf high + Hex.valueOf low) ∧
      ofHex (String.ofList (exampleDigits.map Char.toLower)) = .ok exampleDigest ∧
      ¬ ((String.ofList exampleDigits.tail).length = 64 ∧
        ∀ c ∈ (String.ofList exampleDigits.tail).toList, c ∈ hexSymbols) ∧
      ∃ told, (ofHex (String.ofList exampleDigits.tail)).mapError
        (DigestFailure.toUploadError (String.ofList exampleDigits.tail))
          = .error (.validation told) := by
  obtain ⟨-, -, spelled, same, refused⟩ := digest_text_by_digits
  have named : ofHex (String.ofList exampleDigits) = .ok exampleDigest := by
    rw [ofHex_eq_ok_iff, toLower_eq_toHex_iff, String.toList_ofList]
    decide
  have lower : (String.ofList (exampleDigits.map Char.toLower)).toLower
      = (String.ofList exampleDigits).toLower := by
    rw [← String.toList_inj, toList_toLower, toList_toLower, String.toList_ofList,
      String.toList_ofList]
    decide
  have short : ¬ ((String.ofList exampleDigits.tail).length = 64 ∧
      ∀ c ∈ (String.ofList exampleDigits.tail).toList, c ∈ hexSymbols) := by
    rintro ⟨length, -⟩
    rw [String.length_ofList] at length
    exact absurd length (by decide)
  obtain ⟨written, bytes⟩ := spelled _ _ named
  exact ⟨named, written, bytes 0 (by decide), (same _ _ _ named).mpr lower, short,
    refused _ short⟩

end AvatarVault.Digest
