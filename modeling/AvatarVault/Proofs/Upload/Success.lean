import AvatarVault.Proofs.Sealed.RoundTrip
import AvatarVault.Proofs.Upload.Entry
import AvatarVault.Proofs.Upload.Retry
/-!
What a successful upload means, end to end.  However an upload is started and whatever the host
answers, a success says that one sealing of the image went out with every call, that the success
describes that very text, and that the text opens to the image (`delivered_of_succeeded`).
-/
namespace AvatarVault

namespace Pipeline

variable {cipher : Aead} {p : Pipeline} {clock : Nat → UInt64} {plaintext : ByteArray}
  {key : Except UploadError ProfileKey} {start : Nat} {cancellation : Cancellation}
  {resources : Resources} {s : UploadSuccess}

/-- What a run that ends in a success has done, and what the success says of it. -/
structure Delivered (cipher : Aead) (p : Pipeline) (plaintext : ByteArray) (key : ProfileKey)
    (resources : Resources) (r : UploadRun) (s : UploadSuccess) (avatar : SealedAvatar) :
    Prop where
  /-- The image is sealed under the next header, and no other header is drawn. -/
  sealed : sealAvatar cipher plaintext key resources.ivs.head = .ok avatar
  drawn : r.resources.ivs = resources.ivs.tail
  /-- Every call gets that sealing. -/
  payload : ∀ call ∈ r.calls, call.payload = avatar.ciphertext
  digest : s.digest = Digest.of avatar.ciphertext
  verifies : s.digest.verifies avatar.ciphertext = true
  size : s.ciphertextLength.toNat = avatar.ciphertext.size
  declared : s.ciphertextLength = ciphertextLength plaintext.size.toUInt64
  opens : openAvatar cipher avatar.ciphertext key = .ok plaintext
  attempts : s.attempts = r.calls.length
  /-- The calls use up one reply each, and the last one brings the name. -/
  replies : r.resources.replies
    = { resources.replies with used := resources.replies.used + r.calls.length }
  answer : ∃ n, r.calls.length = n + 1 ∧
    (resources.replies.item (resources.replies.used + n)).answer = .accepted s.id
  url : s.url = p.baseUrl ++ "/files/" ++ s.id.text

/-- A run that seals an image and ends in a success has delivered it. -/
theorem delivered_of_execute (seals : cipher.Seals segmentSize) (opens : cipher.Opens)
    (size : plaintext.size < 2 ^ 63)
    (h : (p.execute cipher clock plaintext key start cancellation resources).ending
      = .succeeded s) :
    ∃ k avatar, key = .ok k ∧ Delivered cipher p plaintext k resources
      (p.execute cipher clock plaintext key start cancellation resources) s avatar := by
  obtain ⟨k, avatar, rfl, filled, made⟩ := sealed_of_execute h
  rw [execute_of_sealed filled made] at h ⊢
  obtain ⟨receipt, ended, rfl⟩ := conclude_eq_succeeded_iff.mp h
  obtain ⟨n, calls, attempts, answer⟩ := retryFrom_succeeded ended
  have fits := sealedSize_lt size
  obtain ⟨segments, sealing, text⟩ := sealing_of_sealAvatar seals fits made
  have length : avatar.ciphertext.size = sealedSize plaintext.size := by
    rw [text]
    exact sealing.size_sealed seals
  have digest : avatar.digest = Digest.of avatar.ciphertext := by rw [text]
  refine ⟨k, avatar, rfl, made, rfl, fun call hc => payload_of_mem_retryFrom hc, digest, ?_, ?_,
    ?_, ?_, ?_, retryFrom_replies, ⟨n, calls, answer⟩, rfl⟩
  · simp only [success, Digest.verifies, digest, decide_true]
  · simp only [success]
    rw [toNat_toUInt64 (by omega)]
  · apply UInt64.toNat.inj
    simp only [success]
    rw [toNat_toUInt64 (by omega), length, toNat_ciphertextLength_of_fits fits]
  · rw [text]
    exact openAvatar_of_sealing seals opens sealing
  · simp only [success]
    rw [attempts, Nat.add_comm]
    exact calls.symm

/-- However an upload is started, whatever the replies of the host and the moment of a
cancellation: if it succeeds, then every call, first try and retries alike, got the one sealing of
the image, the success describes that sealing, the calls and the last reply, and the sealing opens
to the image. -/
theorem delivered_of_succeeded {cipher : Aead} (seals : cipher.Seals segmentSize)
    (opens : cipher.Opens) (p : Pipeline) (clock : Nat → UInt64) {plaintext : ByteArray}
    (size : plaintext.size < 2 ^ 63) (entry : Entry) (start : Nat) (cancellation : Cancellation)
    (resources : Resources) {s : UploadSuccess}
    (h : (p.enter cipher clock plaintext start cancellation resources entry).ending
      = .succeeded s) :
    ∃ key avatar, entry.key = .ok key ∧ Delivered cipher p plaintext key resources
      (p.enter cipher clock plaintext start cancellation resources entry) s avatar := by
  have same := enter_eq_of_succeeded h
  rw [same] at h ⊢
  exact delivered_of_execute seals opens size h

/-- A host that is away for one call and stores what the next one brings, while the upload is
cancelled too late. -/
def exampleResources : Resources :=
  { ivs := { item := fun _ => exampleHeader }
    replies := .ofList [.unavailable, { answer := .accepted (.ofNat 7), cancels := true }]
      .unavailable }

/-- Four calls at most, with the waits that are asked for. -/
def examplePipeline : Pipeline := { baseUrl := "https://avatars.example/", timer := .exact }

theorem send_exampleResources (avatar : SealedAvatar) :
    (examplePipeline.send avatar 0 none exampleResources.replies).ending
      = .succeeded { id := .ofNat 7, attempts := 2 } := by
  have budget : examplePipeline.policy.budget = 4 := by decide
  simp only [send, uploadWithRetries, budget]
  simp [retryFrom, exampleResources, Supply.ofList, Supply.head, Supply.tail, Reply.unavailable,
    Cancellation.isDue]

/-- One byte more than a segment holds, delivered by the second call. -/
theorem delivered_of_succeeded_second_call :
    XChaCha20Poly1305.aead.Seals segmentSize ∧ XChaCha20Poly1305.aead.Opens ∧
      (replicateByte 65537 1).size < 2 ^ 63 ∧
      ∃ s,
        (examplePipeline.enter XChaCha20Poly1305.aead (fun _ => 0) (replicateByte 65537 1) 0 none
          exampleResources (.upload exampleKey.bytes.val)).ending = .succeeded s ∧
        ∃ key avatar, (Entry.upload exampleKey.bytes.val).key = .ok key ∧
          Delivered XChaCha20Poly1305.aead examplePipeline (replicateByte 65537 1) key
            exampleResources
            (examplePipeline.enter XChaCha20Poly1305.aead (fun _ => 0) (replicateByte 65537 1) 0
              none exampleResources (.upload exampleKey.bytes.val)) s avatar := by
  have size : (replicateByte 65537 1).size < 2 ^ 63 := by
    rw [size_replicateByte]
    decide
  have filled : (replicateByte 65537 1).isEmpty = false := by
    rw [ByteArray.isEmpty, size_replicateByte]
    decide
  have given : (Entry.upload exampleKey.bytes.val).key = .ok exampleKey := by
    rw [Entry.key, ProfileKey.ofBytes_eq_ok_iff.mpr rfl]
    rfl
  obtain ⟨segments, -, made⟩ := exists_sealed xchacha_lawful.toSeals (replicateByte 65537 1)
    exampleKey exampleHeader (sealedSize_lt size)
  have ended : ∃ s, (examplePipeline.execute XChaCha20Poly1305.aead (fun _ => 0)
      (replicateByte 65537 1) (Entry.upload exampleKey.bytes.val).key 0 none
      exampleResources).ending = .succeeded s := by
    rw [given, execute_of_sealed filled made]
    dsimp only
    exact ⟨_, conclude_eq_succeeded_iff.mpr ⟨_, send_exampleResources _, rfl⟩⟩
  obtain ⟨s, executed⟩ := ended
  have ended := enter_ending_of_succeeded executed
  exact ⟨xchacha_lawful.toSeals, xchacha_lawful.toOpens, size, s, ended,
    delivered_of_succeeded xchacha_lawful.toSeals xchacha_lawful.toOpens examplePipeline
      (fun _ => 0) size (.upload exampleKey.bytes.val) 0 none exampleResources ended⟩

end Pipeline

end AvatarVault
