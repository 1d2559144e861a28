import Mathlib.Data.List.Nodup
import AvatarVault.Proofs.Sealed.RoundTrip
/-!
Integrity of whole avatars from that of their segments.  Where every segment that authenticates
during an opening was given, under its nonce and associated data, by one of several sealings with
different headers, the opening accepts nothing but one of the sealed avatars
(`exists_sealed_of_authentic`).  The segments tried all name the header of the text and so come
from one sealing; being numbered without a gap up to one marked as the last, they are all of its
segments, in order.
-/
namespace AvatarVault

/-- A sealing: a plaintext that a slice can hold, and the header drawn for it. -/
structure SealInput where
  plaintext : ByteArray
  iv : Bytes 24
  size_lt : plaintext.size < 2 ^ 63

namespace SealInput

variable {cipher : Aead} {key : ProfileKey}

/-- The segments that the sealing gives. -/
def segments (cipher : Aead) (key : ProfileKey) (s : SealInput) : List Segment :=
  emittedSegments cipher s.plaintext key s.iv

theorem sealing (seals : cipher.Seals segmentSize) (key : ProfileKey) (s : SealInput) :
    Sealing cipher key.bytes s.iv 0 s.plaintext (s.segments cipher key) := by
  obtain ⟨segments, sealing⟩ := exists_sealing seals key.bytes s.iv 0 s.plaintext
  unfold SealInput.segments
  rw [emittedSegments_of_sealing seals sealing (sealedSize_lt s.size_lt)]
  exact sealing

/-- A segment tells the header that it was sealed under. -/
theorem iv_eq_of_mem (seals : cipher.Seals segmentSize) {s : SealInput} {iv : Bytes 24} {i : Nat}
    {tried : List Segment} (numbered : Numbered iv i tried) {t : Segment} (ht : t ∈ tried)
    (hs : t ∈ s.segments cipher key) : s.iv = iv := by
  obtain ⟨j, f, x, -, -, e⟩ := numbered.exists_of_mem ht
  obtain ⟨k, g, y, -, -, e'⟩ := (s.sealing seals key).numbered.exists_of_mem hs
  exact (Segment.eq_of_numbered_eq (e'.symm.trans e)).1

/-- Segments numbered from the start that all come from one sealing are all of its segments. -/
theorem eq_segments (seals : cipher.Seals segmentSize) {s : SealInput} {tried : List Segment}
    (numbered : Numbered s.iv 0 tried) (mem : ∀ t ∈ tried, t ∈ s.segments cipher key) :
    tried = s.segments cipher key := by
  have sealing := s.sealing seals key
  refine numbered.eq_of_forall_mem sealing.numbered ?_ mem
  have := s.size_lt
  rw [sealing.length]
  simp only [segmentSize]
  omega

end SealInput

/-- Let several sealings under one key have different headers.  If each segment that authenticates
while a text is opened was given by one of the sealings under that very nonce and associated data,
and the text opens, then it is the sealed avatar of one of the sealings, and what comes out is the
plaintext of that one. -/
theorem exists_sealed_of_authentic {cipher : Aead} (seals : cipher.Seals segmentSize)
    (opens : cipher.Opens) {key : ProfileKey} (sealings : List SealInput)
    (headers : (sealings.map (·.iv)).Nodup) {text plaintext : ByteArray}
    (authentic : ∀ t ∈ (openRun cipher text key).tried,
      (cipher.decrypt key.bytes t.nonce t.data t.text).isSome →
        ∃ s ∈ sealings, t ∈ s.segments cipher key)
    (h : openAvatar cipher text key = .ok plaintext) :
    ∃ s ∈ sealings, s.plaintext = plaintext ∧
      ∃ avatar, sealAvatar cipher s.plaintext key s.iv = .ok avatar ∧
        avatar.ciphertext = text := by
  obtain ⟨iv, -, opening, whole⟩ := opening_of_openAvatar h
  have numbered := opening.numbered
  -- a sealing that gave one of the segments has the header of the text
  have source : ∀ t ∈ (openRun cipher text key).tried,
      ∃ s ∈ sealings, s.iv = iv ∧ t ∈ s.segments cipher key := by
    intro t ht
    obtain ⟨s, hs, hm⟩ := authentic t ht (opening.authentic ht)
    exact ⟨s, hs, SealInput.iv_eq_of_mem seals numbered ht hm, hm⟩
  obtain ⟨t, ht⟩ := List.exists_mem_of_ne_nil _ numbered.ne_nil
  obtain ⟨s, hs, rfl, -⟩ := source t ht
  have mem : ∀ t ∈ (openRun cipher text key).tried, t ∈ s.segments cipher key := by
    intro t ht
    obtain ⟨s', hs', hv, hm⟩ := source t ht
    have same : s' = s := List.inj_on_of_nodup_map headers hs' hs hv
    rwa [same] at hm
  rw [SealInput.eq_segments seals numbered mem] at whole
  have sealing := s.sealing seals key
  have out := openAvatar_of_sealing seals opens sealing
  rw [← whole, h] at out
  simp only [Except.ok.injEq] at out
  refine ⟨s, hs, out.symm, _, sealAvatar_of_sealing seals sealing (sealedSize_lt s.size_lt), ?_⟩
  exact whole.symm

/-- Two sealings whose headers differ in one byte. -/
def exampleSealings : List SealInput :=
  [{ plaintext := replicateByte 65537 1
     iv := exampleHeader
     size_lt := by rw [size_replicateByte]; decide },
   { plaintext := replicateByte 3 2
     iv := ⟨replicateByte 23 7 ++ replicateByte 1 8, by simp⟩
     size_lt := by rw [size_replicateByte]; decide }]

/-- The sealed avatar of the first sealing is accepted beside that of the second. -/
theorem exists_sealed_of_authentic_two_sealings :
    XChaCha20Poly1305.aead.Seals segmentSize ∧ XChaCha20Poly1305.aead.Opens ∧
      (exampleSealings.map (·.iv)).Nodup ∧
      ∃ text,
        (∀ t ∈ (openRun XChaCha20Poly1305.aead text exampleKey).tried,
          (XChaCha20Poly1305.aead.decrypt exampleKey.bytes t.nonce t.data t.text).isSome →
            ∃ s ∈ exampleSealings, t ∈ s.segments XChaCha20Poly1305.aead exampleKey) ∧
        openAvatar XChaCha20Poly1305.aead text exampleKey = .ok (replicateByte 65537 1) ∧
        ∃ s ∈ exampleSealings, s.plaintext = replicateByte 65537 1 ∧
          ∃ avatar, sealAvatar XChaCha20Poly1305.aead s.plaintext exampleKey s.iv = .ok avatar ∧
            avatar.ciphertext = text := by
  have headers : (exampleSealings.map (·.iv)).Nodup := by decide
  have sealing := (exampleSealings[0]).sealing xchacha_lawful.toSeals exampleKey
  have out := openAvatar_of_sealing xchacha_lawful.toSeals xchacha_lawful.toOpens sealing
  have run := openRun_of_opening (sealing.opening xchacha_lawful.toSeals xchacha_lawful.toOpens)
  have authentic : ∀ t ∈ (exampleSealings[0]).segments XChaCha20Poly1305.aead exampleKey,
      (XChaCha20Poly1305.aead.decrypt exampleKey.bytes t.nonce t.data t.text).isSome →
        ∃ s ∈ exampleSealings, t ∈ s.segments XChaCha20Poly1305.aead exampleKey :=
    fun t ht _ => ⟨exampleSealings[0], List.mem_cons_self, ht⟩
  have tried := congrArg OpenRun.tried run
  refine ⟨xchacha_lawful.toSeals, xchacha_lawful.toOpens, headers, _, ?_, out, ?_⟩
  · rw [tried]
    exact authentic
  · refine exists_sealed_of_authentic xchacha_lawful.toSeals xchacha_lawful.toOpens
      exampleSealings headers ?_ out
    rw [tried]
    exact authentic

end AvatarVault
