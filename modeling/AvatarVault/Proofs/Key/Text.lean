import AvatarVault.Key.Provider
import AvatarVault.Proofs.Text.Canonical
/-!
Key texts.  Between the blanks around it, a text that gives a key is the padded standard encoding of
the bytes of that key (`key_text_canonical`): forty-three letters and one filler, with two spare
bits that are zero.  Of all other texts it is told why they are refused, and no key is made of them.
-/
namespace AvatarVault

/-! ## Keys -/

/-- The bytes of a key, in order. -/
def ProfileKey.octets (k : ProfileKey) : List UInt8 := k.bytes.val.data.toList

namespace ProfileKey

@[simp] theorem length_octets (k : ProfileKey) : k.octets.length = 32 := by
  rw [octets, Array.length_toList, ByteArray.size_data, k.bytes.property]

theorem ofBytes_octets (k : ProfileKey) : ofBytes (bytesOfList k.octets) = .ok k :=
  ofBytes_eq_ok_iff.mpr rfl

theorem ofBase64_octets (k : ProfileKey) : ofBase64 (Base64.encodeText k.octets) = .ok k :=
  (ofBase64_encodeText k.bytes.val).trans (ofBytes_octets k)

/-- What becomes of a key text: its bytes are a key, they are too few or too many, or it is the text
of no bytes. -/
theorem ofBase64_cases (s : String) :
    (∃ k : ProfileKey, trim s = Base64.encodeText k.octets ∧ ofBase64 s = .ok k) ∨
      (∃ bytes, trim s = Base64.encodeText bytes ∧ bytes.length ≠ 32 ∧
        ofBase64 s = .error (.size bytes.length)) ∨
      ((∀ bytes, trim s ≠ Base64.encodeText bytes) ∧
        ∃ cause, ofBase64 s = .error (.encoding cause)) := by
  rw [ofBase64]
  cases read : Base64.decode (trim s).toUTF8.data.toList with
  | error cause =>
    refine .inr (.inr ⟨fun bytes written => ?_, cause, rfl⟩)
    rw [Base64.decode_text_eq_ok_iff.mpr written] at read
    cases read
  | ok bytes =>
    have written := Base64.decode_text_eq_ok_iff.mp read
    by_cases size : bytes.length = 32
    · exact .inl ⟨⟨bytesOfList bytes, size⟩, written, ofBytes_octets ⟨⟨bytesOfList bytes, size⟩⟩⟩
    · have unfit : Bytes.ofByteArray? 32 (bytesOfList bytes) = none := dif_neg size
      refine .inr (.inl ⟨bytes, written, size, ?_⟩)
      simp only [ofBytes, unfit, size_bytesOfList]

/-- **A key is made of its own text only.** -/
theorem ofBase64_eq_ok_iff {s : String} {k : ProfileKey} :
    ofBase64 s = .ok k ↔ Base64.Spells (trim s) k.octets := by
  rw [Base64.spells_iff]
  constructor
  · intro made
    obtain ⟨k', written, made'⟩ | ⟨bytes, -, -, failed⟩ | ⟨-, cause, failed⟩ := ofBase64_cases s
    · cases made.symm.trans made'
      exact written
    · cases made.symm.trans failed
    · cases made.symm.trans failed
  · intro written
    rw [ofBase64, written, Base64.toUTF8_encodeText, Base64.decode_encode]
    exact ofBytes_octets k

/-- The text of a key as it is written: forty-three values of six bits and one filler, and the two
bits behind those of the key are zero. -/
theorem spells_octets_iff {text : String} :
    (∃ k : ProfileKey, Base64.Spells text k.octets) ↔
      ∃ values : List (BitVec 6), values.length = 43 ∧
        text.toList = values.map Base64.letter ++ ['='] ∧
        (values.flatMap Base64.bits).drop 256 = [false, false] := by
  constructor
  · rintro ⟨k, values, spare, pads, spelled⟩
    have bits : (k.octets.flatMap fun b => Base64.bits b.toBitVec).length = 256 := by
      rw [Base64.length_flatMap_bits, length_octets]
    have count := congrArg List.length spelled.row
    rw [Base64.length_flatMap_values, List.length_append, bits, List.length_replicate] at count
    have tight := spelled.tight
    have full := spelled.full
    have closed := spelled.closed
    obtain rfl : spare = 2 := by omega
    obtain rfl : pads = 1 := by omega
    refine ⟨values, by omega, spelled.letters, ?_⟩
    rw [spelled.row, List.drop_left' bits]
    rfl
  · rintro ⟨values, count, letters, spare⟩
    have long : ((values.flatMap Base64.bits).take 256).length = 8 * 32 := by
      rw [List.length_take, Base64.length_flatMap_values, count]
      rfl
    obtain ⟨bytes, size, row⟩ := Base64.exists_bytes long
    refine ⟨⟨bytesOfList bytes, size⟩, values, 2, 1,
      ⟨letters, ?_, by decide, by rw [count], by decide⟩⟩
    calc values.flatMap Base64.bits
        = (values.flatMap Base64.bits).take 256 ++ (values.flatMap Base64.bits).drop 256 :=
          (List.take_append_drop _ _).symm
      _ = bytes.flatMap (fun b => Base64.bits b.toBitVec) ++ [false, false] := by rw [row, spare]

end ProfileKey

/-! ## Key texts -/

/-- What is told of one key text. -/
structure CanonicalKeyText (s : String) : Prop where
  /-- Without the blanks at either end, the text of a key is the padded standard encoding of the
  bytes of that key, and every such text is one of the key. -/
  accepted : ∀ k : ProfileKey,
    ProfileKey.ofBase64 s = .ok k ↔ Base64.Spells (trim s) k.octets
  /-- An upload is given the same keys. -/
  handedOut : ∀ k : ProfileKey,
    (KeyProvider.encoded s).encryptionKey = .ok k ↔ Base64.Spells (trim s) k.octets
  /-- The encoding stands there whole, and all around it is blank. -/
  surrounded : ∀ k : ProfileKey, ProfileKey.ofBase64 s = .ok k ↔
    ∃ before text after, (∀ c ∈ before ++ after, isBlank c = true) ∧
      Base64.Spells text k.octets ∧ s.toList = before ++ text.toList ++ after
  /-- Another text of the same key differs in the blanks around it only. -/
  alone : ∀ (k : ProfileKey) (s' : String),
    ProfileKey.ofBase64 s = .ok k → ProfileKey.ofBase64 s' = .ok k → trim s' = trim s
  /-- The text of some key is forty-three letters of the alphabet, one filler behind them, and the
  bits of the letters that belong to no byte are zero. -/
  shape : (∃ k : ProfileKey, ProfileKey.ofBase64 s = .ok k) ↔
    ∃ values : List (BitVec 6), values.length = 43 ∧
      (trim s).toList = values.map Base64.letter ++ ['='] ∧
      (values.flatMap Base64.bits).drop 256 = [false, false]
  /-- The encoding of any other number of bytes is refused by that number. -/
  otherSize : ∀ bytes : List UInt8, Base64.Spells (trim s) bytes → bytes.length ≠ 32 →
    (KeyProvider.encoded s).encryptionKey
      = .error (.validation s!"profile key must be {keySize} bytes, got {bytes.length}")
  /-- What is no encoding of bytes is refused as such. -/
  noEncoding : (∀ bytes : List UInt8, ¬ Base64.Spells (trim s) bytes) →
    ∃ cause : Base64.Failure, (KeyProvider.encoded s).encryptionKey
      = .error (.validation s!"profile key is not valid base64: {cause.message}")
  /-- Where no key is given, the text is refused as invalid. -/
  refused : (∀ k : ProfileKey, ¬ Base64.Spells (trim s) k.octets) →
    ∃ told, (KeyProvider.encoded s).encryptionKey = .error (.validation told)

section Texts

variable {s : String} {k : ProfileKey}

theorem encryptionKey_encoded_eq_ok_iff :
    (KeyProvider.encoded s).encryptionKey = .ok k ↔ ProfileKey.ofBase64 s = .ok k := by
  rw [KeyProvider.encryptionKey]
  cases ProfileKey.ofBase64 s <;> simp [Except.mapError]

theorem ofBase64_eq_ok_iff_surrounded :
    ProfileKey.ofBase64 s = .ok k ↔
      ∃ before text after, (∀ c ∈ before ++ after, isBlank c = true) ∧
        Base64.Spells text k.octets ∧ s.toList = before ++ text.toList ++ after := by
  rw [ProfileKey.ofBase64_eq_ok_iff]
  constructor
  · intro spelled
    obtain ⟨before, after, around, whole⟩ := exists_blanks s.toList
    exact ⟨before, trim s, after, around, spelled, by rwa [trim, String.toList_ofList]⟩
  · rintro ⟨before, text, after, around, spelled, whole⟩
    obtain rfl := Base64.spells_iff.mp spelled
    have left : trim s = Base64.encodeText k.octets := by
      rw [trim, whole, trimChars_append around fun c mem => Base64.isBlank_of_mem_encodeText mem,
        String.ofList_toList]
    rwa [left]

/-- A text that encodes another number of bytes is refused by that number. -/
theorem encryptionKey_of_otherSize {bytes : List UInt8} (spelled : Base64.Spells (trim s) bytes)
    (size : bytes.length ≠ 32) :
    (KeyProvider.encoded s).encryptionKey
      = .error (.validation s!"profile key must be {keySize} bytes, got {bytes.length}") := by
  have written := Base64.spells_iff.mp spelled
  obtain ⟨k, same, -⟩ | ⟨bytes', same, -, failed⟩ | ⟨foreign, -⟩ := ProfileKey.ofBase64_cases s
  · obtain rfl := Base64.encodeText_injective (written.symm.trans same)
    exact absurd k.length_octets size
  · obtain rfl := Base64.encodeText_injective (written.symm.trans same)
    rw [KeyProvider.encryptionKey, failed]
    rfl
  · exact absurd written (foreign bytes)

/-- A text that encodes no bytes at all is refused as such. -/
theorem encryptionKey_of_noEncoding
    (foreign : ∀ bytes : List UInt8, ¬ Base64.Spells (trim s) bytes) :
    ∃ cause : Base64.Failure, (KeyProvider.encoded s).encryptionKey
      = .error (.validation s!"profile key is not valid base64: {cause.message}") := by
  obtain ⟨k, written, -⟩ | ⟨bytes, written, -⟩ | ⟨-, cause, failed⟩ := ProfileKey.ofBase64_cases s
  · exact absurd (Base64.spells_iff.mpr written) (foreign k.octets)
  · exact absurd (Base64.spells_iff.mpr written) (foreign bytes)
  · refine ⟨cause, ?_⟩
    rw [KeyProvider.encryptionKey, failed]
    rfl

/-- A text of no key is refused in one of these two ways. -/
theorem encryptionKey_of_noKey (keyless : ∀ k : ProfileKey, ¬ Base64.Spells (trim s) k.octets) :
    ∃ told, (KeyProvider.encoded s).encryptionKey = .error (.validation told) := by
  by_cases spelled : ∃ bytes, Base64.Spells (trim s) bytes
  · obtain ⟨bytes, spelled⟩ := spelled
    refine ⟨_, encryptionKey_of_otherSize spelled fun size => ?_⟩
    exact keyless ⟨⟨bytesOfList bytes, size⟩⟩ spelled
  · obtain ⟨cause, told⟩ := encryptionKey_of_noEncoding (not_exists.mp spelled)
    exact ⟨_, told⟩

end Texts

theorem canonicalKeyText (s : String) : CanonicalKeyText s where
  accepted _ := ProfileKey.ofBase64_eq_ok_iff
  handedOut _ := encryptionKey_encoded_eq_ok_iff.trans ProfileKey.ofBase64_eq_ok_iff
  surrounded _ := ofBase64_eq_ok_iff_surrounded
  alone k s' one other := by
    rw [ProfileKey.ofBase64_eq_ok_iff, Base64.spells_iff] at one other
    rw [one, other]
  shape := (exists_congr fun _ => ProfileKey.ofBase64_eq_ok_iff).trans ProfileKey.spells_octets_iff
  otherSize _ := encryptionKey_of_otherSize
  noEncoding := encryptionKey_of_noEncoding
  refused := encryptionKey_of_noKey

/-- **Key texts are canonical.**  What is written for a key gives that key back, and of every text
at all it is told by its letters whether it is the text of a key, and of which one. -/
theorem key_text_canonical :
    (∀ k : ProfileKey, ProfileKey.ofBase64 (Base64.encodeText k.octets) = .ok k) ∧
      ∀ s : String, CanonicalKeyText s :=
  ⟨fun k => ProfileKey.ofBase64_octets k, canonicalKeyText⟩

end AvatarVault
