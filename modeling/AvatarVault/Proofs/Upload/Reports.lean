import AvatarVault.Proofs.Upload.Entry
import AvatarVault.Proofs.Upload.Settling
/-!
What an upload leaves behind, whatever happens to it: its record where it succeeds and none where
not (`execute_recorded`), no more calls than its budget allows (`length_calls_execute_le`), each
with the one sealing of its image (`sealed_of_mem_execute`), and an end that the replies to its
calls tell (`reported_execute`).
-/
namespace AvatarVault

/-- What its calls make of a sealed image. -/
def Pipeline.complete (p : Pipeline) (clock : Nat → UInt64) (avatar : SealedAvatar)
    (ivs : Supply (Bytes 24)) (run : RetryRun) : UploadRun :=
  { ending := p.conclude clock avatar run, calls := run.calls
    recorded := Pipeline.records (p.conclude clock avatar run), finish := run.finish
    cancellation := run.cancellation, resources := { ivs, replies := run.replies } }

variable {cipher : Aead} {p : Pipeline} {clock : Nat → UInt64} {r : Resources}

theorem Pipeline.execute_eq {plaintext : ByteArray} {key : Except UploadError ProfileKey}
    {start : Nat} {cancellation : Cancellation} :
    p.execute cipher clock plaintext key start cancellation r =
      match prepare cipher plaintext key r.ivs with
      | (.error e, ivs) =>
        { ending := .failed e, finish := start, cancellation, resources := { r with ivs } }
      | (.ok avatar, ivs) =>
        p.complete clock avatar ivs (p.send avatar start cancellation r.replies) := by
  unfold execute complete conclude send
  rcases prepare cipher plaintext key r.ivs with ⟨prepared, ivs⟩
  cases prepared with
  | error e => rfl
  | ok avatar =>
    dsimp only
    cases (uploadWithRetries p.timer p.policy avatar.ciphertext start cancellation
      r.replies).ending with
    | succeeded receipt => rfl
    | failed e => rfl
    | crashed => rfl

/-! ## What the replies to its calls make of an upload -/

/-- The name under which the payload is stored, if it is. -/
def Answer.id? : Answer → Option FileId
  | .accepted id => some id
  | .refused _ => none
  | .crashed => none

/-- The names in replies that accept a payload. -/
def acceptedIds (replies : List Reply) : List FileId := replies.filterMap (·.answer.id?)

/-- The value of a success. -/
def Ending.value? {α : Type} : Ending α → Option α
  | .succeeded value => some value
  | .failed _ => none
  | .crashed => none

theorem Answer.id?_of_isTransient {answer : Answer} (transient : answer.isTransient = true) :
    answer.id? = none := by
  cases answer with
  | accepted id => exact Bool.noConfusion transient
  | refused cause => rfl
  | crashed => rfl

theorem Answer.ne_crashed_of_isTransient {answer : Answer} (transient : answer.isTransient = true) :
    answer ≠ .crashed := by
  rintro rfl
  exact Bool.noConfusion transient

/-- The replies to its calls say how a run ends: all of them are transient, and it is cancelled, or
all but the last one, which concludes it. -/
theorem retryFrom_concluded {timer : Timer} {policy : RetryPolicy} {payload : ByteArray}
    {more attempt now : Nat} {cancellation : Cancellation} {replies : Supply Reply} :
    let run := retryFrom timer policy payload more attempt now cancellation replies
    (∃ before last, replies.take run.calls.length = before ++ [last] ∧
        (∀ reply ∈ before, reply.answer.isTransient = true) ∧
        run.ending = last.answer.conclusion (attempt + before.length)) ∨
      run.ending = .failed .cancelled ∧
        ∀ reply ∈ replies.take run.calls.length, reply.answer.isTransient = true := by
  intro run
  rcases retryFrom_settled with ⟨n, calls, settled⟩ | ⟨cancelled, -, before⟩
  · refine Or.inl ⟨replies.take n, replies.ahead n, ?_, ?_, ?_⟩
    · rw [show run.calls.length = n + 1 from calls, Supply.take_succ_last]
    · exact Supply.forall_mem_take settled.before
    · rw [Supply.length_take]
      exact settled.ending
  · exact Or.inr ⟨cancelled, Supply.forall_mem_take before⟩

/-- What the replies to its calls say of the end of an upload. -/
structure Reported (replies : List Reply) (ending : Ending UploadSuccess) : Prop where
  /-- The host has stored one payload if the upload succeeds, under the name that it tells, and
  none if not. -/
  accepted : acceptedIds replies = (ending.value?.map (·.id)).toList
  /-- The upload breaks down if a call does. -/
  crashed : (∃ reply ∈ replies, reply.answer = .crashed) → ending = .crashed
  /-- The attempts that it tells are the calls that it made. -/
  attempts : ∀ s, ending = .succeeded s → s.attempts = replies.length
  exhausted : replies ≠ [] → ∀ attempts cause,
    ending = .failed (.exhaustedRetries attempts cause) → attempts = replies.length

theorem acceptedIds_append (l l' : List Reply) :
    acceptedIds (l ++ l') = acceptedIds l ++ acceptedIds l' := List.filterMap_append

theorem acceptedIds_singleton (reply : Reply) : acceptedIds [reply] = reply.answer.id?.toList := by
  unfold acceptedIds
  cases given : reply.answer.id? <;> simp [given]

theorem acceptedIds_of_transient {replies : List Reply}
    (transient : ∀ reply ∈ replies, reply.answer.isTransient = true) :
    acceptedIds replies = [] :=
  List.filterMap_eq_nil_iff.mpr fun reply mem => Answer.id?_of_isTransient (transient reply mem)

section

variable {avatar : SealedAvatar} {run : RetryRun} {answer : Answer} {n : Nat}

theorem id?_conclude (ended : run.ending = answer.conclusion n) :
    (p.conclude clock avatar run).value?.map (·.id) = answer.id? := by
  rw [Pipeline.conclude, ended]
  cases answer with
  | accepted id => rfl
  | refused cause => rfl
  | crashed => rfl

theorem attempts_conclude (ended : run.ending = answer.conclusion n) {s : UploadSuccess}
    (succeeded : p.conclude clock avatar run = .succeeded s) : s.attempts = n := by
  obtain ⟨receipt, received, rfl⟩ := Pipeline.conclude_eq_succeeded_iff.mp succeeded
  rw [ended] at received
  cases answer with
  | accepted id =>
    rw [← Ending.succeeded.inj received]
    rfl
  | refused cause => exact nomatch received
  | crashed => exact nomatch received

theorem exhausted_conclude (ended : run.ending = answer.conclusion n) {attempts : Nat}
    {cause : TransportError}
    (failed : p.conclude clock avatar run = .failed (.exhaustedRetries attempts cause)) :
    attempts = n := by
  rw [Pipeline.conclude, ended] at failed
  cases answer with
  | accepted id => cases failed
  | crashed => cases failed
  | refused cause =>
    have counted := Ending.failed.inj failed
    split at counted
    · exact (UploadError.exhaustedRetries.inj counted).1.symm
    · cases counted

theorem reported_of_concluded {before : List Reply} {last : Reply}
    (transient : ∀ reply ∈ before, reply.answer.isTransient = true)
    (ended : run.ending = last.answer.conclusion (before ++ [last]).length) :
    Reported (before ++ [last]) (p.conclude clock avatar run) where
  accepted := by
    rw [acceptedIds_append, acceptedIds_of_transient transient, acceptedIds_singleton,
      id?_conclude ended]
    rfl
  crashed := by
    rintro ⟨reply, mem, crash⟩
    rcases List.mem_append.mp mem with early | final
    · exact absurd crash (Answer.ne_crashed_of_isTransient (transient reply early))
    · rw [List.mem_singleton.mp final] at crash
      rw [Pipeline.conclude, ended, crash]
      rfl
  attempts _ succeeded := attempts_conclude ended succeeded
  exhausted _ _ _ failed := exhausted_conclude ended failed

theorem reported_of_cancelled {replies : List Reply}
    (transient : ∀ reply ∈ replies, reply.answer.isTransient = true) :
    Reported replies (.failed .cancelled) where
  accepted := acceptedIds_of_transient transient
  crashed := fun ⟨reply, mem, crash⟩ =>
    absurd crash (Answer.ne_crashed_of_isTransient (transient reply mem))
  attempts := fun _ same => nomatch same
  exhausted := fun _ _ _ same => nomatch same

theorem reported_of_refused (e : UploadError) : Reported [] (.failed e) where
  accepted := rfl
  crashed := fun ⟨_, mem, _⟩ => absurd mem List.not_mem_nil
  attempts := fun _ same => nomatch same
  exhausted := fun none => absurd rfl none

end

theorem reported_send (p : Pipeline) (clock : Nat → UInt64) (avatar : SealedAvatar) (start : Nat)
    (cancellation : Cancellation) (replies : Supply Reply) :
    let run := p.send avatar start cancellation replies
    Reported (replies.take run.calls.length) (p.conclude clock avatar run) := by
  intro run
  rcases retryFrom_concluded with ⟨before, last, taken, transient, ended⟩ | ⟨cancelled, transient⟩
  · have taken : replies.take run.calls.length = before ++ [last] := taken
    have length : 1 + before.length = (before ++ [last]).length := by
      rw [List.length_append, Nat.add_comm]
      rfl
    rw [taken]
    exact reported_of_concluded transient (length ▸ ended)
  · have cancelled : run.ending = .failed .cancelled := cancelled
    rw [Pipeline.conclude, cancelled]
    exact reported_of_cancelled transient

namespace Pipeline

variable {plaintext : ByteArray} {key : Except UploadError ProfileKey} {start : Nat}
  {cancellation : Cancellation}

/-- An upload is refused before it is sealed, or its image is sealed and sent. -/
theorem execute_cases (cipher : Aead) (p : Pipeline) (clock : Nat → UInt64) (plaintext : ByteArray)
    (key : Except UploadError ProfileKey) (start : Nat) (cancellation : Cancellation)
    (r : Resources) :
    (∃ e ivs, p.execute cipher clock plaintext key start cancellation r =
      { ending := .failed e, finish := start, cancellation, resources := { r with ivs } }) ∨
    ∃ k avatar, key = .ok k ∧ sealAvatar cipher plaintext k r.ivs.head = .ok avatar ∧
      p.execute cipher clock plaintext key start cancellation r
        = p.complete clock avatar r.ivs.tail (p.send avatar start cancellation r.replies) := by
  rw [execute_eq]
  rcases prepared : prepare cipher plaintext key r.ivs with ⟨e | avatar, ivs⟩
  · exact Or.inl ⟨e, ivs, rfl⟩
  · obtain ⟨k, rfl, -, made, rfl⟩ := of_prepare_eq_ok prepared
    exact Or.inr ⟨k, avatar, rfl, made, rfl⟩

/-- An upload that succeeds makes its record, and no other upload makes any. -/
theorem execute_recorded (cipher : Aead) (p : Pipeline) (clock : Nat → UInt64)
    (plaintext : ByteArray) (key : Except UploadError ProfileKey) (start : Nat)
    (cancellation : Cancellation) (r : Resources) :
    (p.execute cipher clock plaintext key start cancellation r).recorded
      = records (p.execute cipher clock plaintext key start cancellation r).ending := by
  rcases execute_cases cipher p clock plaintext key start cancellation r with
    ⟨e, ivs, run⟩ | ⟨k, avatar, -, -, run⟩
  · rw [run]
    rfl
  · rw [run]
    rfl

theorem length_calls_execute_le (cipher : Aead) (p : Pipeline) (clock : Nat → UInt64)
    (plaintext : ByteArray) (key : Except UploadError ProfileKey) (start : Nat)
    (cancellation : Cancellation) (r : Resources) :
    (p.execute cipher clock plaintext key start cancellation r).calls.length
      ≤ max 1 (min p.policy.maxAttempts.toNat 4) := by
  rcases execute_cases cipher p clock plaintext key start cancellation r with
    ⟨e, ivs, run⟩ | ⟨k, avatar, -, -, run⟩
  · rw [run]
    exact Nat.zero_le _
  · rw [run, ← p.policy.budget_spelled]
    rcases retryFrom_settled with ⟨n, calls, settled⟩ | ⟨-, calls, -⟩
    · exact Nat.le_trans (Nat.le_of_eq calls) settled.within
    · exact Nat.le_succ_of_le calls

theorem reported_execute (cipher : Aead) (p : Pipeline) (clock : Nat → UInt64)
    (plaintext : ByteArray) (key : Except UploadError ProfileKey) (start : Nat)
    (cancellation : Cancellation) (r : Resources) :
    let run := p.execute cipher clock plaintext key start cancellation r
    Reported (r.replies.take run.calls.length) run.ending := by
  intro made
  rcases execute_cases cipher p clock plaintext key start cancellation r with
    ⟨e, ivs, run⟩ | ⟨k, avatar, -, -, run⟩
  · have run : made = _ := run
    rw [run]
    exact reported_of_refused e
  · have run : made = _ := run
    rw [run]
    exact reported_send p clock avatar start cancellation r.replies

/-- Every call of an upload sends the one sealing of its image. -/
theorem sealed_of_mem_execute {call : Call}
    (made : call ∈ (p.execute cipher clock plaintext key start cancellation r).calls) :
    ∃ k avatar, key = .ok k ∧ sealAvatar cipher plaintext k r.ivs.head = .ok avatar ∧
      call.payload = avatar.ciphertext ∧
      (p.execute cipher clock plaintext key start cancellation r).resources.ivs = r.ivs.tail := by
  rcases execute_cases cipher p clock plaintext key start cancellation r with
    ⟨e, ivs, run⟩ | ⟨k, avatar, given, sealed, run⟩
  · rw [run] at made
    exact absurd made List.not_mem_nil
  · rw [run] at made ⊢
    exact ⟨k, avatar, given, sealed, payload_of_mem_retryFrom made, rfl⟩

end Pipeline

end AvatarVault
