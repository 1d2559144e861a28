import AvatarVault.Upload.Pipeline
/-!
The ways to start an upload and the stages that each of them goes through.  Where an upload
succeeds, it is the same run however it is started (`Pipeline.enter_eq_of_succeeded`).  The image
was then sealed once (`sealed_of_execute`), and what follows the sealing is the calls and what they
end in (`execute_of_sealed`).
-/
namespace AvatarVault

/-- How an upload is started. -/
inductive Entry where
  /-- On the caller's own task, with a key given as bytes. -/
  | run (key : ByteArray)
  /-- On a task of its own, with a key given as bytes. -/
  | upload (key : ByteArray)
  /-- On a task of its own, which asks a provider for the key. -/
  | withProvider (provider : KeyProvider)
  /-- On a task of its own, with what any other source of keys answers. -/
  | withAnswer (answer : Except UploadError ProfileKey)

/-- The key that the upload gets. -/
def Entry.key : Entry → Except UploadError ProfileKey
  | run key => (ProfileKey.ofBytes key).mapError KeyFailure.toUploadError
  | upload key => (ProfileKey.ofBytes key).mapError KeyFailure.toUploadError
  | withProvider provider => provider.encryptionKey
  | withAnswer answer => answer

namespace Pipeline

variable {cipher : Aead} {p : Pipeline} {clock : Nat → UInt64} {plaintext : ByteArray}
  {key : Except UploadError ProfileKey} {start : Nat} {cancellation : Cancellation}
  {resources : Resources} {s : UploadSuccess}

/-- An upload that is started in the given way. -/
def enter (cipher : Aead) (p : Pipeline) (clock : Nat → UInt64) (plaintext : ByteArray)
    (start : Nat) (cancellation : Cancellation) (resources : Resources) : Entry → UploadRun
  | .run key => p.run cipher clock plaintext key start cancellation resources
  | .upload key => p.upload cipher clock plaintext key start cancellation resources
  | .withProvider provider =>
    p.uploadWithProvider cipher clock plaintext provider start cancellation resources
  | .withAnswer answer => p.spawn cipher clock plaintext answer start cancellation resources

/-- A task of its own turns a breakdown into a failure, and keeps a success as it is. -/
theorem spawn_eq_of_succeeded
    (h : (p.spawn cipher clock plaintext key start cancellation resources).ending
      = .succeeded s) :
    p.spawn cipher clock plaintext key start cancellation resources
      = p.execute cipher clock plaintext key start cancellation resources := by
  unfold spawn at h ⊢
  simp only at h ⊢
  cases e : (p.execute cipher clock plaintext key start cancellation resources).ending with
  | succeeded value =>
    simp only [Ending.settle]
    rw [← e]
  | failed error => simp [e, Ending.settle] at h
  | crashed => simp [e, Ending.settle] at h

theorem spawn_ending_of_succeeded
    (h : (p.execute cipher clock plaintext key start cancellation resources).ending
      = .succeeded s) :
    (p.spawn cipher clock plaintext key start cancellation resources).ending = .succeeded s := by
  simp [spawn, h, Ending.settle]

/-- A successful upload is what the pipeline does with the key it gets. -/
theorem enter_eq_of_succeeded {entry : Entry}
    (h : (p.enter cipher clock plaintext start cancellation resources entry).ending
      = .succeeded s) :
    p.enter cipher clock plaintext start cancellation resources entry
      = p.execute cipher clock plaintext entry.key start cancellation resources := by
  cases entry with
  | run key => rfl
  | upload key => exact spawn_eq_of_succeeded h
  | withProvider provider => exact spawn_eq_of_succeeded h
  | withAnswer answer => exact spawn_eq_of_succeeded h

theorem enter_ending_of_succeeded {entry : Entry}
    (h : (p.execute cipher clock plaintext entry.key start cancellation resources).ending
      = .succeeded s) :
    (p.enter cipher clock plaintext start cancellation resources entry).ending
      = .succeeded s := by
  cases entry with
  | run key => exact h
  | upload key => exact spawn_ending_of_succeeded h
  | withProvider provider => exact spawn_ending_of_succeeded h
  | withAnswer answer => exact spawn_ending_of_succeeded h

/-! ## The stages of a run -/

/-- The calls that bring a sealed image to the host. -/
def send (p : Pipeline) (avatar : SealedAvatar) (start : Nat) (cancellation : Cancellation)
    (replies : Supply Reply) : RetryRun :=
  uploadWithRetries p.timer p.policy avatar.ciphertext start cancellation replies

/-- How the upload of a sealed image ends after its calls. -/
def conclude (p : Pipeline) (clock : Nat → UInt64) (avatar : SealedAvatar) (run : RetryRun) :
    Ending UploadSuccess :=
  match run.ending with
  | .succeeded receipt => .succeeded (p.success avatar receipt (clock run.finish))
  | .failed e => .failed e
  | .crashed => .crashed

/-- The records that an upload makes: one for a success, none for any other end. -/
def records : Ending UploadSuccess → List UploadMetadata
  | .succeeded s => [s.metadata]
  | .failed _ => []
  | .crashed => []

theorem conclude_eq_succeeded_iff {avatar : SealedAvatar} {run : RetryRun} :
    p.conclude clock avatar run = .succeeded s ↔
      ∃ receipt, run.ending = .succeeded receipt ∧
        s = p.success avatar receipt (clock run.finish) := by
  unfold conclude
  cases ended : run.ending with
  | succeeded receipt =>
    constructor
    · intro h
      exact ⟨receipt, rfl, (Ending.succeeded.inj h).symm⟩
    · rintro ⟨receipt', same, rfl⟩
      rw [Ending.succeeded.inj same]
  | failed e => simp
  | crashed => simp

theorem prepare_of_sealed {k : ProfileKey} {ivs : Supply (Bytes 24)} {avatar : SealedAvatar}
    (filled : plaintext.isEmpty = false)
    (made : sealAvatar cipher plaintext k ivs.head = .ok avatar) :
    prepare cipher plaintext (.ok k) ivs = (.ok avatar, ivs.tail) := by
  unfold prepare
  simp only [filled, made, Bool.false_eq_true, if_false]
  rfl

theorem of_prepare_eq_ok {ivs rest : Supply (Bytes 24)} {avatar : SealedAvatar}
    (prepared : prepare cipher plaintext key ivs = (.ok avatar, rest)) :
    ∃ k, key = .ok k ∧ plaintext.isEmpty = false ∧
      sealAvatar cipher plaintext k ivs.head = .ok avatar ∧ rest = ivs.tail := by
  unfold prepare at prepared
  cases filled : plaintext.isEmpty with
  | true =>
    rw [filled] at prepared
    exact nomatch (Prod.mk.inj prepared).1
  | false =>
    rw [filled] at prepared
    cases key with
    | error e => exact nomatch (Prod.mk.inj prepared).1
    | ok k =>
      obtain ⟨made, rest⟩ := Prod.mk.inj prepared
      cases sealed : sealAvatar cipher plaintext k ivs.head with
      | error e =>
        rw [sealed] at made
        exact nomatch made
      | ok other =>
        rw [sealed] at made
        obtain rfl : other = avatar := Except.ok.inj made
        exact ⟨k, rfl, rfl, sealed, rest.symm⟩

/-- What becomes of a sealed image: its calls, and what follows from how they end. -/
theorem execute_of_sealed {k : ProfileKey} {avatar : SealedAvatar}
    (filled : plaintext.isEmpty = false)
    (made : sealAvatar cipher plaintext k resources.ivs.head = .ok avatar) :
    p.execute cipher clock plaintext (.ok k) start cancellation resources =
      let run := p.send avatar start cancellation resources.replies
      let ending := p.conclude clock avatar run
      { ending, calls := run.calls, recorded := records ending, finish := run.finish
        cancellation := run.cancellation
        resources := { ivs := resources.ivs.tail, replies := run.replies } } := by
  unfold execute
  rw [prepare_of_sealed filled made]
  simp only [conclude, send]
  cases (uploadWithRetries p.timer p.policy avatar.ciphertext start cancellation
    resources.replies).ending with
  | succeeded receipt => rfl
  | failed e => rfl
  | crashed => rfl

/-- An upload that succeeds has a key and an image that is not empty, which is sealed once. -/
theorem sealed_of_execute
    (h : (p.execute cipher clock plaintext key start cancellation resources).ending
      = .succeeded s) :
    ∃ k avatar, key = .ok k ∧ plaintext.isEmpty = false ∧
      sealAvatar cipher plaintext k resources.ivs.head = .ok avatar := by
  unfold execute at h
  rcases prepared : prepare cipher plaintext key resources.ivs with ⟨e | avatar, ivs⟩
  · rw [prepared] at h
    exact nomatch h
  · obtain ⟨k, given, filled, made, -⟩ := of_prepare_eq_ok prepared
    exact ⟨k, avatar, given, filled, made⟩

end Pipeline

end AvatarVault
