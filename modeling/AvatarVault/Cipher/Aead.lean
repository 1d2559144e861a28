import AvatarVault.Bytes
/-!
Authenticated encryption with associated data, as the sealed format uses it, and the laws that
the format relies on.  Each law is stated alone, so that a theorem asks only for those it needs.
-/
namespace AvatarVault

/-- The length of an authentication tag. -/
def tagSize : Nat := 16

/-- A cipher that seals a message under a key, a nonce and associated data, and opens only
what was sealed. -/
structure Aead where
  /-- The sealed message, its tag at the end; `none` where the message is too long. -/
  encrypt : (key : Bytes 32) → (nonce : Bytes 24) → (data message : ByteArray) → Option ByteArray
  /-- The message, when the tag is right. -/
  decrypt : (key : Bytes 32) → (nonce : Bytes 24) → (data sealedText : ByteArray) →
    Option ByteArray

/-- Messages up to `limit` bytes can be sealed, and a sealed message is longer by its tag. -/
structure Aead.Seals (c : Aead) (limit : Nat) : Prop where
  encrypt_isSome : ∀ k n a m, m.size ≤ limit → (c.encrypt k n a m).isSome
  size_encrypt : ∀ k n a m s, c.encrypt k n a m = some s → s.size = m.size + tagSize

/-- Opening undoes sealing. -/
structure Aead.Opens (c : Aead) : Prop where
  decrypt_encrypt : ∀ k n a m s, c.encrypt k n a m = some s → c.decrypt k n a s = some m

/-- Only a sealed message opens. -/
structure Aead.Binds (c : Aead) : Prop where
  encrypt_of_decrypt : ∀ k n a s m, c.decrypt k n a s = some m → c.encrypt k n a m = some s

/-- The laws of a cipher for messages up to `limit` bytes. -/
structure Aead.Lawful (c : Aead) (limit : Nat) : Prop extends c.Seals limit, c.Opens, c.Binds

end AvatarVault
