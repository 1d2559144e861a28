import AvatarVault.Cipher.Aead
import AvatarVault.Cipher.ChaCha20
import AvatarVault.Cipher.Poly1305
/-!
XChaCha20-Poly1305: a key derived from the first sixteen nonce bytes, the ChaCha20 keystream
from block one, and a Poly1305 tag under block zero.  `lawful` says that it is a lawful cipher
for every message that the 32-bit block counter allows.
-/
namespace AvatarVault.XChaCha20Poly1305

/-- The number of keystream blocks that one message may use. -/
def maxBlocks : Nat := 0xffffffff

/-- The key for one message. -/
def messageKey (key : Bytes 32) (nonce : Bytes 24) : Bytes 32 :=
  ChaCha20.derive key ⟨nonce.val.extract 0 16, by simp [ByteArray.size_extract, nonce.property]⟩

/-- The short nonce for one message: four zero bytes and the last eight of the long nonce. -/
def messageNonce (nonce : Bytes 24) : Bytes 12 :=
  ⟨replicateByte 4 0 ++ nonce.val.extract 16 24,
    by simp [ByteArray.size_append, ByteArray.size_extract, nonce.property]⟩

/-- The zero bytes that fill a text up to a multiple of sixteen. -/
def padding (b : ByteArray) : ByteArray := replicateByte ((16 - b.size % 16) % 16) 0

/-- The tag over the associated data, the sealed text and both lengths. -/
def tagOf (key : Bytes 32) (nonce : Bytes 12) (data text : ByteArray) : Bytes 16 :=
  Poly1305.tag
    ⟨(ChaCha20.block key nonce 0).extract 0 32, by simp [ByteArray.size_extract]⟩
    (data ++ padding data ++ text ++ padding text
      ++ bytesOfList (littleEndian 8 data.size) ++ bytesOfList (littleEndian 8 text.size))

/-- The text under the keystream; the same call goes both ways. -/
def mask (key : Bytes 32) (nonce : Bytes 12) (text : ByteArray) : ByteArray :=
  xorBytes text (ChaCha20.keystream key nonce 1 text.size)

@[simp] theorem size_mask (key : Bytes 32) (nonce : Bytes 12) (text : ByteArray) :
    (mask key nonce text).size = text.size := by
  simp [mask]

@[simp] theorem mask_mask (key : Bytes 32) (nonce : Bytes 12) (text : ByteArray) :
    mask key nonce (mask key nonce text) = text := by
  have h : mask key nonce (mask key nonce text)
      = xorBytes (mask key nonce text) (ChaCha20.keystream key nonce 1 text.size) := by
    rw [mask, size_mask]
  rw [h, mask, xorBytes_xorBytes]
  simp

/-- Seals a message. -/
def encrypt (key : Bytes 32) (nonce : Bytes 24) (data message : ByteArray) : Option ByteArray :=
  if message.size / 64 < maxBlocks then
    let key := messageKey key nonce
    let nonce := messageNonce nonce
    let text := mask key nonce message
    some (text ++ (tagOf key nonce data text).val)
  else none

/-- Opens a sealed message whose tag is right. -/
def decrypt (key : Bytes 32) (nonce : Bytes 24) (data sealedText : ByteArray) :
    Option ByteArray :=
  if sealedText.size < tagSize then none
  else
    let key := messageKey key nonce
    let nonce := messageNonce nonce
    let text := sealedText.extract 0 (sealedText.size - tagSize)
    let tag := sealedText.extract (sealedText.size - tagSize) sealedText.size
    if text.size / 64 < maxBlocks ∧ tag = (tagOf key nonce data text).val then
      some (mask key nonce text)
    else none

/-- The cipher of the sealed format. -/
def aead : Aead := ⟨encrypt, decrypt⟩

theorem decrypt_append {key : Bytes 32} {nonce : Bytes 24} {data text : ByteArray}
    (h : text.size / 64 < maxBlocks) :
    decrypt key nonce data
        (text ++ (tagOf (messageKey key nonce) (messageNonce nonce) data text).val)
      = some (mask (messageKey key nonce) (messageNonce nonce) text) := by
  have ht := (tagOf (messageKey key nonce) (messageNonce nonce) data text).property
  unfold decrypt
  simp only [ByteArray.size_append, ht, tagSize]
  rw [if_neg (by omega)]
  simp only [Nat.add_sub_cancel, ByteArray.extract_append_eq_left]
  rw [if_pos]
  refine ⟨h, ?_⟩
  exact ByteArray.extract_append_eq_right rfl (by rw [ht])

/-- What is sealed is a masked text of the length of the message and its tag. -/
theorem encrypt_eq_append {key : Bytes 32} {nonce : Bytes 24} {data message text : ByteArray}
    (h : encrypt key nonce data message = some text) :
    ∃ masked, masked.size = message.size ∧ text
      = masked ++ (tagOf (messageKey key nonce) (messageNonce nonce) data masked).val := by
  unfold encrypt at h
  split at h
  · exact ⟨_, size_mask _ _ _, (Option.some.inj h).symm⟩
  · cases h

/-- With any other tag the text does not open. -/
theorem decrypt_append_of_ne {key : Bytes 32} {nonce : Bytes 24} {data text : ByteArray}
    {tag : Bytes 16} (other : tag ≠ tagOf (messageKey key nonce) (messageNonce nonce) data text) :
    decrypt key nonce data (text ++ tag.val) = none := by
  have size := tag.property
  unfold decrypt
  simp only [ByteArray.size_append, size, tagSize]
  rw [if_neg (by omega)]
  simp only [Nat.add_sub_cancel, ByteArray.extract_append_eq_left]
  rw [if_neg]
  rintro ⟨-, same⟩
  rw [ByteArray.extract_append_eq_right rfl (by rw [size])] at same
  exact other (Subtype.ext same)

theorem lawful (limit : Nat) (h : limit / 64 < maxBlocks) : aead.Lawful limit where
  encrypt_isSome k n a m hm := by
    have : m.size / 64 < maxBlocks := by
      have := Nat.div_le_div_right (c := 64) hm
      omega
    simp [aead, encrypt, this]
  size_encrypt k n a m s hs := by
    simp only [aead, encrypt] at hs
    split at hs
    · rw [Option.some.injEq] at hs
      rw [← hs, ByteArray.size_append, size_mask, (tagOf _ _ _ _).property]
      rfl
    · simp at hs
  decrypt_encrypt k n a m s hs := by
    simp only [aead, encrypt] at hs ⊢
    split at hs
    · rename_i hm
      rw [Option.some.injEq] at hs
      rw [← hs, decrypt_append (by simpa using hm), mask_mask]
    · simp at hs
  encrypt_of_decrypt k n a s m hd := by
    simp only [aead, decrypt, encrypt] at hd ⊢
    split at hd
    · simp at hd
    · rename_i hs
      split at hd
      · rename_i ht
        obtain ⟨hb, ht⟩ := ht
        rw [Option.some.injEq] at hd
        subst hd
        have whole : s.extract 0 (s.size - tagSize) ++ s.extract (s.size - tagSize) s.size = s := by
          rw [ByteArray.extract_append_extract]
          simp
        rw [size_mask, if_pos hb, mask_mask, ← ht, whole]
      · simp at hd

end AvatarVault.XChaCha20Poly1305
