import AvatarVault.Cipher.XChaCha20Poly1305
import AvatarVault.Proofs.Sealed.Opening
import AvatarVault.Proofs.Sealed.Stream
/-!
Sealing and opening undo each other.  A sealed avatar opens to its plaintext
(`openAvatar_sealAvatar`); what opens is the sealed avatar of what comes out, under the header in
front of it (`sealAvatar_of_openAvatar`).  Each direction goes through the segments of the
plaintext: the sealing stream gives them, the opening loop accepts nothing else.
-/
namespace AvatarVault

variable {cipher : Aead} {plaintext text : ByteArray} {key : ProfileKey} {iv : Bytes 24}

/-- A plaintext that is sealed, with the segments that hold it. -/
theorem exists_sealed (seals : cipher.Seals segmentSize) (plaintext : ByteArray)
    (key : ProfileKey) (iv : Bytes 24) (fits : sealedSize plaintext.size < 2 ^ 64) :
    ∃ segments, Sealing cipher key.bytes iv 0 plaintext segments ∧
      sealAvatar cipher plaintext key iv = .ok
        { ciphertext := iv.val ++ joined segments
          digest := Digest.of (iv.val ++ joined segments) } := by
  obtain ⟨segments, sealing⟩ := exists_sealing seals key.bytes iv 0 plaintext
  exact ⟨segments, sealing, sealAvatar_of_sealing seals sealing fits⟩

/-- A sealed avatar is the header and the segments, with the digest of both. -/
theorem sealing_of_sealAvatar (seals : cipher.Seals segmentSize)
    (fits : sealedSize plaintext.size < 2 ^ 64) {avatar : SealedAvatar}
    (made : sealAvatar cipher plaintext key iv = .ok avatar) :
    ∃ segments, Sealing cipher key.bytes iv 0 plaintext segments ∧
      avatar = { ciphertext := iv.val ++ joined segments
                 digest := Digest.of (iv.val ++ joined segments) } := by
  obtain ⟨segments, sealing, made'⟩ := exists_sealed seals plaintext key iv fits
  refine ⟨segments, sealing, ?_⟩
  rw [made] at made'
  exact Except.ok.inj made'

theorem openAvatar_of_sealing (seals : cipher.Seals segmentSize) (opens : cipher.Opens)
    {segments : List Segment} (h : Sealing cipher key.bytes iv 0 plaintext segments) :
    openAvatar cipher (iv.val ++ joined segments) key = .ok plaintext := by
  rw [← openRun_result, openRun_of_opening (h.opening seals opens)]

/-! ## Opening undoes sealing -/

/-- A key for concrete cases. -/
def exampleKey : ProfileKey := ⟨⟨replicateByte 32 42, size_replicateByte 32 42⟩⟩

/-- A header for concrete cases. -/
def exampleHeader : Bytes 24 := ⟨replicateByte 24 7, size_replicateByte 24 7⟩

theorem xchacha_lawful : XChaCha20Poly1305.aead.Lawful segmentSize :=
  XChaCha20Poly1305.lawful segmentSize (by decide)

/-- What opens is sealed from what comes out, under the header in front of it. -/
theorem sealing_of_openAvatar (seals : cipher.Seals segmentSize) (binds : cipher.Binds)
    (counted : text.size < 2 ^ 64) (h : openAvatar cipher text key = .ok plaintext) :
    sealedSize plaintext.size = text.size ∧
      ∃ iv : Bytes 24, iv.val = text.extract 0 headerSize ∧
        sealAvatar cipher plaintext key iv
          = .ok { ciphertext := text, digest := Digest.of text } := by
  obtain ⟨iv, front, opening, whole⟩ := opening_of_openAvatar h
  have sealing := opening.sealing seals binds
  have size : sealedSize plaintext.size = text.size := by
    rw [← sealing.size_sealed seals, ← whole]
  refine ⟨size, iv, front, ?_⟩
  rw [sealAvatar_of_sealing seals sealing (by omega), ← whole]

/-- A text whose bytes a counter can count opens only as the canonical encoding of its plaintext:
it is what sealing the plaintext gives when the header drawn is the one in front of the text.  So
it has the length that is declared for the plaintext, and no other text with the same header opens
to the same plaintext. -/
theorem sealAvatar_of_openAvatar {cipher : Aead} (seals : cipher.Seals segmentSize)
    (binds : cipher.Binds) {text plaintext : ByteArray} {key : ProfileKey}
    (counted : text.size < 2 ^ 64) (h : openAvatar cipher text key = .ok plaintext) :
    (∃ iv : Bytes 24, iv.val = text.extract 0 headerSize ∧
      ∃ avatar, sealAvatar cipher plaintext key iv = .ok avatar ∧ avatar.ciphertext = text) ∧
    text.size = (ciphertextLength plaintext.size.toUInt64).toNat ∧
    ∀ other : ByteArray, other.size < 2 ^ 64 →
      other.extract 0 headerSize = text.extract 0 headerSize →
      openAvatar cipher other key = .ok plaintext → other = text := by
  obtain ⟨size, iv, front, made⟩ := sealing_of_openAvatar seals binds counted h
  refine ⟨⟨iv, front, _, made, rfl⟩, ?_, ?_⟩
  · rw [toNat_ciphertextLength_of_fits (by omega), size]
  · intro other counted' same h'
    obtain ⟨-, iv', front', made'⟩ := sealing_of_openAvatar seals binds counted' h'
    have headers : iv' = iv := Subtype.ext (by rw [front', same, front])
    rw [headers, made] at made'
    simp only [Except.ok.injEq, SealedAvatar.mk.injEq] at made'
    exact made'.1.symm

/-- A full segment and one of a single byte: the only text with that header that opens to these
65537 bytes has 65593 bytes. -/
theorem sealAvatar_of_openAvatar_one_over :
    ∃ avatar, sealAvatar XChaCha20Poly1305.aead (replicateByte 65537 1) exampleKey exampleHeader
        = .ok avatar ∧
      XChaCha20Poly1305.aead.Seals segmentSize ∧ XChaCha20Poly1305.aead.Binds ∧
      avatar.ciphertext.size < 2 ^ 64 ∧
      openAvatar XChaCha20Poly1305.aead avatar.ciphertext exampleKey
        = .ok (replicateByte 65537 1) ∧
      avatar.ciphertext.size = 65593 ∧
      ∀ other : ByteArray, other.size < 2 ^ 64 →
        other.extract 0 headerSize = avatar.ciphertext.extract 0 headerSize →
        openAvatar XChaCha20Poly1305.aead other exampleKey = .ok (replicateByte 65537 1) →
        other = avatar.ciphertext := by
  have fits : sealedSize (replicateByte 65537 1).size < 2 ^ 64 := by
    rw [size_replicateByte]
    decide
  obtain ⟨segments, sealing, made⟩ := exists_sealed xchacha_lawful.toSeals
    (replicateByte 65537 1) exampleKey exampleHeader fits
  have counted : (exampleHeader.val ++ joined segments).size < 2 ^ 64 := by
    rw [sealing.size_sealed xchacha_lawful.toSeals]
    exact fits
  have opens := openAvatar_of_sealing xchacha_lawful.toSeals xchacha_lawful.toOpens sealing
  obtain ⟨-, length, only⟩ :=
    sealAvatar_of_openAvatar xchacha_lawful.toSeals xchacha_lawful.toBinds counted opens
  refine ⟨_, made, xchacha_lawful.toSeals, xchacha_lawful.toBinds, counted, opens, ?_, only⟩
  rw [length, size_replicateByte]
  rfl

end AvatarVault
