import AvatarVault.Proofs.Upload.Reports
import AvatarVault.Upload.Fleet
/-!
One upload without the others.  `Task.rest` is what an upload still does, wherever it stands, when
nothing else uses the resources.  A step does the first part of it (`rest_step`), and does the same
with other resources that hold the same next items (`step_congr`).
-/
namespace AvatarVault

/-- The upload with calls and records before its own. -/
def UploadRun.after (run : UploadRun) (calls : List Call) (recorded : List UploadMetadata) :
    UploadRun :=
  { run with calls := calls ++ run.calls, recorded := recorded ++ run.recorded }

namespace Task

/-- What is left of an upload when nothing else uses the resources. -/
def rest (cipher : Aead) (p : Pipeline) (clock : Nat → UInt64) (t : Task) (r : Resources) :
    UploadRun :=
  match t.stage with
  | .fresh => p.execute cipher clock t.plaintext t.key t.moment t.cancellation r
  | .due avatar attempt =>
    p.complete clock avatar r.ivs (retryFrom p.timer p.policy avatar.ciphertext
      (p.policy.budget - attempt) attempt t.moment t.cancellation r.replies)
  | .calling avatar attempt answer =>
    p.complete clock avatar r.ivs (resume p.timer p.policy avatar.ciphertext
      (p.policy.budget - attempt) attempt t.moment t.cancellation r.replies answer)
  | .stored avatar receipt =>
    p.complete clock avatar r.ivs
      { ending := .succeeded receipt, calls := [], finish := t.moment
        cancellation := t.cancellation, replies := r.replies }
  | .recorded s =>
    { ending := .succeeded s, finish := t.moment, cancellation := t.cancellation, resources := r }
  | .finished ending =>
    { ending, finish := t.moment, cancellation := t.cancellation, resources := r }

end Task

namespace StepResult

/-- The headers that the step draws. -/
def headers (s : StepResult) (r : Resources) : List (Bytes 24) := r.ivs.upTo s.resources.ivs

/-- The replies to the calls of the step. -/
def replies (s : StepResult) : List Reply := s.call.toList.map (·.2)

/-- What a step leaves behind that is followed by others. -/
def before (s : StepResult) (run : UploadRun) : UploadRun :=
  run.after (s.call.toList.map (·.1)) s.record.toList

end StepResult

variable {cipher : Aead} {p : Pipeline} {clock : Nat → UInt64} {t : Task} {r own : Resources}

namespace Task

theorem wake_of_quiet {attempt : Nat}
    (quiet : t.cancellation.isDue (wakeAfter p.timer p.policy attempt t.moment) = false) :
    t.wake (p.timer.wait (p.policy.backoff attempt.toUInt32))
      = wakeAfter p.timer p.policy attempt t.moment := by
  unfold wake
  cases given : t.cancellation with
  | none => rfl
  | some moment =>
    rw [given] at quiet
    exact if_neg (of_decide_eq_false quiet)

theorem wake_of_due {attempt : Nat}
    (due : t.cancellation.isDue (wakeAfter p.timer p.policy attempt t.moment) = true) :
    t.wake (p.timer.wait (p.policy.backoff attempt.toUInt32))
        = max t.moment (t.cancellation.getD (wakeAfter p.timer p.policy attempt t.moment)) ∧
      t.cancellation.isDue (t.wake (p.timer.wait (p.policy.backoff attempt.toUInt32))) = true := by
  unfold wake
  cases given : t.cancellation with
  | none =>
    rw [given] at due
    exact Bool.noConfusion due
  | some moment =>
    rw [given] at due
    have past : moment ≤ t.moment + p.timer.wait (p.policy.backoff attempt.toUInt32) :=
      of_decide_eq_true due
    simp only [past, if_true]
    exact ⟨rfl, decide_eq_true (Nat.le_max_right t.moment moment)⟩

/-- A wait that is followed by an attempt that looks for the cancellation first does what a wait
does that a cancellation cuts short. -/
theorem resume_eq_retryFrom (avatar : SealedAvatar) {attempt : Nat} {answer : Answer}
    (again : answer.isTransient = true ∧ attempt < p.policy.budget) :
    resume p.timer p.policy avatar.ciphertext (p.policy.budget - attempt) attempt t.moment
        t.cancellation r.replies answer
      = retryFrom p.timer p.policy avatar.ciphertext (p.policy.budget - (attempt + 1))
          (attempt + 1) (t.wake (p.timer.wait (p.policy.backoff attempt.toUInt32)))
          t.cancellation r.replies := by
  cases due : t.cancellation.isDue (wakeAfter p.timer p.policy attempt t.moment) with
  | false => rw [resume_within_budget again due, wake_of_quiet due]
  | true =>
    obtain ⟨wake, late⟩ := wake_of_due due
    have left : p.policy.budget - attempt = p.policy.budget - (attempt + 1) + 1 := by omega
    rw [left, resume_cut again.1 due, retryFrom_due late, wake]

theorem receive_again {avatar : SealedAvatar} {attempt : Nat} {answer : Answer}
    (again : answer.isTransient = true ∧ attempt < p.policy.budget) :
    t.receive p avatar attempt answer =
      { t with
        stage := .due avatar (attempt + 1)
        moment := t.wake (p.timer.wait (p.policy.backoff attempt.toUInt32)) } := by
  cases answer with
  | accepted id => exact Bool.noConfusion again.1
  | crashed => exact Bool.noConfusion again.1
  | refused cause =>
    have transient : cause.transient = true := again.1
    simp only [receive, transient, Nat.not_le_of_lt again.2, Bool.not_true, Bool.false_eq_true,
      if_false]

theorem receive_over {avatar : SealedAvatar} {attempt : Nat} {cause : TransportError}
    (ended : ¬ (cause.transient = true ∧ attempt < p.policy.budget)) :
    t.receive p avatar attempt (.refused cause) = t.close (.failed
      (if cause.transient then .exhaustedRetries attempt cause else .transport cause)) := by
  cases transient : cause.transient with
  | false => simp [receive, transient]
  | true =>
    have spent : p.policy.budget ≤ attempt :=
      Nat.le_of_not_lt fun within => ended ⟨transient, within⟩
    simp [receive, transient, spent]

/-- After an answer the upload goes on as the run of its calls does. -/
theorem rest_receive (avatar : SealedAvatar) (attempt : Nat) (answer : Answer) :
    (t.receive p avatar attempt answer).rest cipher p clock r =
      p.complete clock avatar r.ivs (resume p.timer p.policy avatar.ciphertext
        (p.policy.budget - attempt) attempt t.moment t.cancellation r.replies answer) := by
  by_cases again : answer.isTransient = true ∧ attempt < p.policy.budget
  · rw [receive_again again, resume_eq_retryFrom avatar again]
    rfl
  · rw [resume_over again]
    cases answer with
    | accepted id => rfl
    | crashed => rfl
    | refused cause =>
      rw [receive_over again]
      rfl

end Task

/-- An upload does its next step first. -/
theorem rest_step (t : Task) (r : Resources) :
    t.rest cipher p clock r =
      let s := t.step cipher p clock r
      s.before (s.task.rest cipher p clock s.resources) := by
  cases standing : t.stage with
  | fresh =>
    -- The step seals, and leaves the calls to the steps after it.
    simp only [Task.rest, Task.step, standing, Pipeline.execute_eq]
    rcases Pipeline.prepare cipher t.plaintext t.key r.ivs with ⟨prepared, ivs⟩
    cases prepared with
    | error e => rfl
    | ok avatar => rfl
  | due avatar attempt =>
    simp only [Task.rest, Task.step, standing]
    cases due : t.cancellation.isDue t.moment with
    | true =>
      rw [retryFrom_due due]
      rfl
    | false =>
      rw [retryFrom_call due]
      rfl
  | calling avatar attempt answer =>
    simp only [Task.step, standing]
    rw [Task.rest_receive, Task.rest, standing]
    rfl
  | stored avatar receipt =>
    simp only [Task.rest, Task.step, standing]
    rfl
  | recorded s =>
    simp only [Task.rest, Task.step, standing]
    rfl
  | finished ending =>
    simp only [Task.rest, Task.step, standing]
    rfl

/-! ## The same step with other resources -/

theorem Pipeline.prepare_congr {plaintext : ByteArray} {key : Except UploadError ProfileKey}
    {ivs other : Supply (Bytes 24)}
    (same : other.take (ivs.upTo (prepare cipher plaintext key ivs).2).length
      = ivs.upTo (prepare cipher plaintext key ivs).2) :
    prepare cipher plaintext key other = ((prepare cipher plaintext key ivs).1,
      other.drop (ivs.upTo (prepare cipher plaintext key ivs).2).length) := by
  unfold prepare at same ⊢
  cases filled : plaintext.isEmpty with
  | true => simp
  | false =>
    cases key with
    | error e => simp
    | ok k =>
      simp only [filled, Bool.false_eq_true, if_false, Supply.upTo_tail] at same ⊢
      rw [show other.head = ivs.head from (List.cons.inj same).1]
      rfl

/-- A step does the same with other resources that hold the same next items. -/
theorem step_congr
    (headers : own.ivs.take ((t.step cipher p clock r).headers r).length
      = (t.step cipher p clock r).headers r)
    (replies : own.replies.take (t.step cipher p clock r).replies.length
      = (t.step cipher p clock r).replies) :
    t.step cipher p clock own = { t.step cipher p clock r with
      resources :=
        { ivs := own.ivs.drop ((t.step cipher p clock r).headers r).length
          replies := own.replies.drop (t.step cipher p clock r).replies.length } } := by
  cases standing : t.stage with
  | fresh =>
    have drawn : (t.step cipher p clock r).resources.ivs
        = (Pipeline.prepare cipher t.plaintext t.key r.ivs).2 := by
      simp only [Task.step, standing]
      split <;> rfl
    rw [StepResult.headers, drawn] at headers ⊢
    simp only [Task.step, standing]
    rw [Pipeline.prepare_congr headers]
    cases (Pipeline.prepare cipher t.plaintext t.key r.ivs).1 with
    | error e => rfl
    | ok avatar => rfl
  | due avatar attempt =>
    simp only [Task.step, standing] at replies ⊢
    cases due : t.cancellation.isDue t.moment with
    | true => simp [StepResult.headers, StepResult.replies]
    | false =>
      simp only [due] at replies
      rw [show own.replies.head = r.replies.head from (List.cons.inj replies).1]
      simp [StepResult.headers, StepResult.replies]
      rfl
  | calling avatar attempt answer =>
    simp [Task.step, standing, StepResult.headers, StepResult.replies]
  | stored avatar receipt =>
    simp [Task.step, standing, StepResult.headers, StepResult.replies]
  | recorded s => simp [Task.step, standing, StepResult.headers, StepResult.replies]
  | finished ending => simp [Task.step, standing, StepResult.headers, StepResult.replies]

theorem rest_of_step
    (headers : own.ivs.take ((t.step cipher p clock r).headers r).length
      = (t.step cipher p clock r).headers r)
    (replies : own.replies.take (t.step cipher p clock r).replies.length
      = (t.step cipher p clock r).replies) :
    t.rest cipher p clock own =
      (t.step cipher p clock r).before ((t.step cipher p clock r).task.rest cipher p clock
        { ivs := own.ivs.drop ((t.step cipher p clock r).headers r).length
          replies := own.replies.drop (t.step cipher p clock r).replies.length }) := by
  rw [rest_step, step_congr headers replies]
  rfl

end AvatarVault
