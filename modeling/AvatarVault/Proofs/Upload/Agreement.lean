import AvatarVault.Proofs.Key.Text
import AvatarVault.Proofs.Text.Base64
import AvatarVault.Proofs.Upload.Reports
import AvatarVault.Proofs.Upload.Success
/-!
The ways to start an upload with one key.  Whether the key is given as bytes, as text or as a key
that is held, and whether the upload runs on the caller's task or on one of its own, it is the same
upload but for the time of day (`entries_agree`): a task of its own matters for uploads that break
down only (`spawn_of_calm`), and the time of day only for what is written on a success
(`execute_clock`).
-/
namespace AvatarVault

/-- The success with the time of day left out. -/
def UploadSuccess.timeless (s : UploadSuccess) : UploadSuccess := { s with timestampMillis := 0 }

/-- The record with the time of day left out. -/
def UploadMetadata.timeless (m : UploadMetadata) : UploadMetadata := { m with timestampMillis := 0 }

/-- The ending with the time of day left out. -/
def Ending.timeless : Ending UploadSuccess → Ending UploadSuccess
  | succeeded s => .succeeded s.timeless
  | failed e => .failed e
  | crashed => .crashed

namespace UploadRun

/-- What the upload resolves to for the one who waits for it. -/
def result (r : UploadRun) : Except UploadError UploadSuccess := r.ending.settle

/-- How the upload is shown to the one who waits for its outcome. -/
def outcome (r : UploadRun) : UploadOutcome := .ofResult r.result

/-- Whether two uploads did the same, the time of day left out. -/
structure Agree (r r' : UploadRun) : Prop where
  result : r.result.map (·.timeless) = r'.result.map (·.timeless)
  /-- The same calls with the same payloads at the same moments. -/
  calls : r.calls = r'.calls
  records : r.recorded.map (·.timeless) = r'.recorded.map (·.timeless)
  finish : r.finish = r'.finish
  /-- The same headers and replies are left over. -/
  resources : r.resources = r'.resources

theorem Agree.symm {r r' : UploadRun} (h : r.Agree r') : r'.Agree r :=
  ⟨h.result.symm, h.calls.symm, h.records.symm, h.finish.symm, h.resources.symm⟩

theorem Agree.trans {r r' r'' : UploadRun} (h : r.Agree r') (h' : r'.Agree r'') : r.Agree r'' :=
  ⟨h.result.trans h'.result, h.calls.trans h'.calls, h.records.trans h'.records,
    h.finish.trans h'.finish, h.resources.trans h'.resources⟩

/-- An upload is shown as a success exactly when one that agrees with it resolves to a success,
under the same name and address, and else as a failure with the same error. -/
theorem Agree.outcome {r r' : UploadRun} (h : r.Agree r') :
    (∀ id url, r'.outcome = .success id url ↔ ∃ s, r.result = .ok s ∧ s.id = id ∧ s.url = url) ∧
      ∀ e, r'.outcome = .failure e ↔ r.result = .error e := by
  have same := h.result
  unfold UploadRun.outcome
  cases first : r.result with
  | ok s =>
    cases second : r'.result with
    | ok s' =>
      rw [first, second] at same
      have alike : s.timeless = s'.timeless := Except.ok.inj same
      have id : s.id = s'.id := congrArg (·.id) alike
      have url : s.url = s'.url := congrArg (·.url) alike
      simp [UploadOutcome.ofResult, id, url]
    | error e => simp [first, second, Except.map] at same
  | error e =>
    cases second : r'.result with
    | ok s' => simp [first, second, Except.map] at same
    | error e' =>
      rw [first, second] at same
      have alike : e = e' := Except.error.inj same
      simp [UploadOutcome.ofResult, alike]

end UploadRun

/-- The ways to start an upload with the key that some bytes are, if they are one. -/
inductive Entry.Offers (key : ByteArray) : Entry → Prop where
  | run : Offers key (.run key)
  | upload : Offers key (.upload key)
  | encoded : Offers key (.withProvider (.encoded (Base64.encodeText key.data.toList)))
  | held {k : ProfileKey} (bytes : key = k.bytes.val) : Offers key (.withProvider (.held k))

/-- However it is given, the upload gets the same key, or the same complaint about its length. -/
theorem Entry.Offers.key {key : ByteArray} {entry : Entry} (offers : Offers key entry) :
    entry.key = (ProfileKey.ofBytes key).mapError KeyFailure.toUploadError := by
  cases offers with
  | run => rfl
  | upload => rfl
  | encoded =>
    rw [Entry.key, KeyProvider.encryptionKey, ProfileKey.ofBase64_encodeText]
  | held bytes =>
    rw [ProfileKey.ofBytes_eq_ok_iff.mpr bytes]
    rfl

namespace Pipeline

variable {cipher : Aead} {p : Pipeline} {clock : Nat → UInt64} {plaintext : ByteArray}
  {key : Except UploadError ProfileKey} {start : Nat} {cancellation : Cancellation}
  {resources : Resources}

/-- An upload breaks down only where a call does. -/
theorem execute_ending_ne_crashed
    (calm : ∀ k, (resources.replies.ahead k).answer ≠ .crashed) :
    (p.execute cipher clock plaintext key start cancellation resources).ending ≠ .crashed := by
  rcases execute_cases cipher p clock plaintext key start cancellation resources with
    ⟨e, ivs, run⟩ | ⟨k, avatar, -, -, run⟩
  · rw [run]
    simp
  · rw [run]
    have ended : (p.send avatar start cancellation resources.replies).ending ≠ .crashed := by
      rcases retryFrom_settled with ⟨n, -, settled⟩ | ⟨cancelled, -⟩
      · intro crashed
        have last : (resources.replies.answers n).conclusion (1 + n) = .crashed :=
          settled.ending.symm.trans crashed
        unfold Answer.conclusion at last
        split at last
        · cases last
        · cases last
        · rename_i crash
          exact calm n crash
      · intro crashed
        cases cancelled.symm.trans crashed
    show p.conclude clock avatar (p.send avatar start cancellation resources.replies) ≠ .crashed
    unfold conclude
    cases e : (p.send avatar start cancellation resources.replies).ending with
    | succeeded receipt => simp
    | failed error => simp
    | crashed => exact absurd e ended

/-- On a task of its own an upload that does not break down is the same upload. -/
theorem spawn_of_calm (calm : ∀ k, (resources.replies.ahead k).answer ≠ .crashed) :
    p.spawn cipher clock plaintext key start cancellation resources
      = p.execute cipher clock plaintext key start cancellation resources := by
  have whole : (p.execute cipher clock plaintext key start cancellation resources).ending
      ≠ .crashed := execute_ending_ne_crashed calm
  unfold spawn
  revert whole
  generalize p.execute cipher clock plaintext key start cancellation resources = run
  intro whole
  rcases run with ⟨ending, calls, recorded, finish, cancellation, resources⟩
  cases ending with
  | succeeded s => rfl
  | failed e => rfl
  | crashed => exact absurd rfl whole

theorem enter_of_calm (calm : ∀ k, (resources.replies.ahead k).answer ≠ .crashed)
    (entry : Entry) :
    p.enter cipher clock plaintext start cancellation resources entry
      = p.execute cipher clock plaintext entry.key start cancellation resources := by
  cases entry with
  | run key => rfl
  | upload key => exact spawn_of_calm calm
  | withProvider provider => exact spawn_of_calm calm
  | withAnswer answer => exact spawn_of_calm calm

/-- The time of day makes no difference but on what is written on a success. -/
theorem execute_clock (clock clock' : Nat → UInt64) :
    (p.execute cipher clock plaintext key start cancellation resources).Agree
      (p.execute cipher clock' plaintext key start cancellation resources) := by
  rw [execute_eq, execute_eq]
  rcases prepare cipher plaintext key resources.ivs with ⟨e | avatar, ivs⟩
  · exact ⟨rfl, rfl, rfl, rfl, rfl⟩
  · simp only [complete, conclude]
    cases (p.send avatar start cancellation resources.replies).ending with
    | succeeded receipt => exact ⟨rfl, rfl, rfl, rfl, rfl⟩
    | failed e => exact ⟨rfl, rfl, rfl, rfl, rfl⟩
    | crashed => exact ⟨rfl, rfl, rfl, rfl, rfl⟩

/-- Decoded anew, the text of a key is as good as the key held in memory. -/
theorem KeyProvider.encryptionKey_encoded {text : String} {k : ProfileKey}
    (spelled : Base64.Spells (trim text) k.octets) :
    (KeyProvider.encoded text).encryptionKey = (KeyProvider.held k).encryptionKey :=
  encryptionKey_encoded_eq_ok_iff.mpr (ProfileKey.ofBase64_eq_ok_iff.mpr spelled)

/-- However an upload is started with a key, whatever the length of that key, the replies of a host
that does not break down, their latencies and the moment of a cancellation: it resolves to the same
result, makes the same calls at the same moments and the same records, and is shown with the outcome
that this result is.  A provider goes by what it was made from, however often it is asked: the key
that it holds, or its text, which is decoded anew each time and is the key that it spells. -/
theorem entries_agree (cipher : Aead) (p : Pipeline) (plaintext key : ByteArray) (start : Nat)
    (cancellation : Cancellation) {resources : Resources}
    (calm : ∀ k, (resources.replies.ahead k).answer ≠ .crashed) (clock clock' : Nat → UInt64) :
    (∀ entry entry', Entry.Offers key entry → Entry.Offers key entry' →
      let r := p.enter cipher clock plaintext start cancellation resources entry
      let r' := p.enter cipher clock' plaintext start cancellation resources entry'
      r.Agree r' ∧
        (∀ id url, r'.outcome = .success id url ↔
          ∃ s, r.result = .ok s ∧ s.id = id ∧ s.url = url) ∧
        ∀ e, r'.outcome = .failure e ↔ r.result = .error e) ∧
    (∀ k : ProfileKey,
      p.enter cipher clock plaintext start cancellation resources (.withProvider (.held k))
        = p.enter cipher clock plaintext start cancellation resources (.withAnswer (.ok k))) ∧
    ∀ text : String,
      p.enter cipher clock plaintext start cancellation resources (.withProvider (.encoded text))
        = p.enter cipher clock plaintext start cancellation resources
          (.withAnswer ((ProfileKey.ofBase64 text).mapError KeyFailure.toUploadError)) ∧
      ∀ k : ProfileKey, Base64.Spells (trim text) k.octets →
        p.enter cipher clock plaintext start cancellation resources
            (.withProvider (.encoded text))
          = p.enter cipher clock plaintext start cancellation resources
            (.withProvider (.held k)) := by
  refine ⟨?_, fun k => rfl, fun text => ⟨rfl, fun k spelled => ?_⟩⟩
  · intro entry entry' offers offers' r r'
    have same : r.Agree r' := by
      show UploadRun.Agree (p.enter cipher clock plaintext start cancellation resources entry)
        (p.enter cipher clock' plaintext start cancellation resources entry')
      rw [enter_of_calm calm, enter_of_calm calm, offers.key, offers'.key]
      exact execute_clock clock clock'
    exact ⟨same, same.outcome⟩
  · have same : (Entry.withProvider (.encoded text)).key = (Entry.withProvider (.held k)).key := by
      rw [Entry.key, Entry.key, KeyProvider.encryptionKey_encoded spelled]
    rw [enter_of_calm calm, enter_of_calm calm, same]

/-- A key handed over as bytes and as text, at different times of day: both uploads make two calls,
and the second one is shown as the success that the first one resolves to.  With the text the upload
is the one with the key held in memory. -/
theorem entries_agree_second_call :
    (∀ k, (exampleResources.replies.ahead k).answer ≠ .crashed) ∧
      Entry.Offers exampleKey.bytes.val (.run exampleKey.bytes.val) ∧
      Entry.Offers exampleKey.bytes.val
        (.withProvider (.encoded (Base64.encodeText exampleKey.octets))) ∧
      Base64.Spells (trim (Base64.encodeText exampleKey.octets)) exampleKey.octets ∧
      examplePipeline.enter XChaCha20Poly1305.aead (fun _ => 0) ⟨#[1, 2, 3]⟩ 0 none
          exampleResources (.withProvider (.encoded (Base64.encodeText exampleKey.octets)))
        = examplePipeline.enter XChaCha20Poly1305.aead (fun _ => 0) ⟨#[1, 2, 3]⟩ 0 none
          exampleResources (.withProvider (.held exampleKey)) ∧
      ∃ s,
        (examplePipeline.enter XChaCha20Poly1305.aead (fun _ => 0) ⟨#[1, 2, 3]⟩ 0 none
          exampleResources (.run exampleKey.bytes.val)).result = .ok s ∧
        (examplePipeline.enter XChaCha20Poly1305.aead (fun _ => 1700000000000) ⟨#[1, 2, 3]⟩ 0 none
          exampleResources (.withProvider
            (.encoded (Base64.encodeText exampleKey.octets)))).outcome
          = .success s.id s.url := by
  have calm : ∀ k, (exampleResources.replies.ahead k).answer ≠ .crashed := by
    intro k
    match k with
    | 0 => simp [exampleResources, Supply.ahead, Supply.ofList, Reply.unavailable]
    | 1 => simp [exampleResources, Supply.ahead, Supply.ofList]
    | k + 2 => simp [exampleResources, Supply.ahead, Supply.ofList, Reply.unavailable]
  have offered : Entry.Offers exampleKey.bytes.val
      (.withProvider (.encoded (Base64.encodeText exampleKey.octets))) := by
    rw [ProfileKey.octets]
    exact .encoded
  have spelled : Base64.Spells (trim (Base64.encodeText exampleKey.octets)) exampleKey.octets :=
    ProfileKey.ofBase64_eq_ok_iff.mp (ProfileKey.ofBase64_octets exampleKey)
  obtain ⟨entries, -, texts⟩ := entries_agree XChaCha20Poly1305.aead examplePipeline ⟨#[1, 2, 3]⟩
    exampleKey.bytes.val 0 none calm (fun _ => 0) (fun _ => 1700000000000)
  have agree := entries _ _ .run offered
  have again := (texts (Base64.encodeText exampleKey.octets)).2 exampleKey spelled
  obtain ⟨segments, -, made⟩ := exists_sealed xchacha_lawful.toSeals ⟨#[1, 2, 3]⟩ exampleKey
    exampleHeader (sealedSize_lt (by decide))
  have resolved : ∃ s, (examplePipeline.enter XChaCha20Poly1305.aead (fun _ => 0) ⟨#[1, 2, 3]⟩ 0
      none exampleResources (.run exampleKey.bytes.val)).result = .ok s := by
    have given : (Entry.run exampleKey.bytes.val).key = .ok exampleKey := by
      rw [Entry.key, ProfileKey.ofBytes_eq_ok_iff.mpr rfl]
      rfl
    rw [UploadRun.result, enter_of_calm calm, given, execute_of_sealed (by decide) made]
    dsimp only
    rw [conclude_eq_succeeded_iff.mpr ⟨_, send_exampleResources _, rfl⟩]
    exact ⟨_, rfl⟩
  obtain ⟨s, resolved⟩ := resolved
  have shown := (agree.2.1 s.id s.url).mpr ⟨s, resolved, rfl, rfl⟩
  exact ⟨calm, .run, offered, spelled, again, s, resolved, shown⟩

end Pipeline

end AvatarVault
