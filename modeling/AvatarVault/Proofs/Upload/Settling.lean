import AvatarVault.Proofs.Upload.Attempt
import AvatarVault.Proofs.Upload.Retry
/-!
What the answers of the host make of an upload.  `Settles` says it without the loop: the first
answer that is not transient decides, or else the last answer within the budget.
`retryFrom_settled` shows that a run is settled so unless it is cancelled, and `settled_in_turn`
says the same of each of several uploads that use up one supply of replies one after the other.
-/
namespace AvatarVault

/-- The answer after `n` others settles an upload of at most `left` calls, of which the first has
the number `first`: all answers before it are transient, and it is not, or no call is left. -/
structure Settles (first left : Nat) (answer : Nat → Answer) (n : Nat) (ending : Ending Receipt) :
    Prop where
  within : n < left
  before : ∀ k < n, (answer k).isTransient = true
  last : (answer n).isTransient = false ∨ n + 1 = left
  ending : ending = (answer n).conclusion (first + n)

/-- The answers to the next calls. -/
def Supply.answers (replies : Supply Reply) (k : Nat) : Answer := (replies.ahead k).answer

theorem Supply.answers_succ (replies : Supply Reply) (k : Nat) :
    replies.answers (k + 1) = replies.tail.answers k := by
  rw [answers, ahead_succ, answers]

theorem Answer.conclusion_ne_cancelled (answer : Answer) (attempt : Nat) :
    answer.conclusion attempt ≠ .failed .cancelled := by
  cases answer with
  | accepted id => simp [conclusion]
  | refused cause => cases transient : cause.transient <;> simp [conclusion, transient]
  | crashed => simp [conclusion]

theorem Answer.isRetryable_of_conclusion {answer : Answer} {attempt : Nat} {e : UploadError}
    (h : answer.conclusion attempt = .failed e) : e.isRetryable = false := by
  cases answer with
  | accepted id => simp [conclusion] at h
  | refused cause =>
    cases transient : cause.transient <;> simp [conclusion, transient] at h <;>
      rw [← h] <;> simp [UploadError.isRetryable, transient]
  | crashed => simp [conclusion] at h

namespace Settles

variable {first left m n : Nat} {answer : Nat → Answer} {e e' : Ending Receipt}

theorem not_lt (h : Settles first left answer m e) (h' : Settles first left answer n e') :
    ¬ m < n := by
  intro less
  rcases h.last with final | spent
  · rw [h'.before m less] at final
    exact Bool.noConfusion final
  · have := h'.within
    omega

/-- Answers settle an upload in one way only. -/
theorem unique (h : Settles first left answer m e) (h' : Settles first left answer n e') :
    m = n ∧ e = e' := by
  have same : m = n := Nat.le_antisymm (Nat.not_lt.mp (h'.not_lt h)) (Nat.not_lt.mp (h.not_lt h'))
  subst same
  exact ⟨rfl, by rw [h.ending, h'.ending]⟩

/-- A transient answer puts off what the answers after it settle. -/
theorem cons (transient : (answer 0).isTransient = true)
    (h : Settles (first + 1) left (fun k => answer (k + 1)) n e) :
    Settles first (left + 1) answer (n + 1) e where
  within := Nat.succ_lt_succ h.within
  before k hk := by
    cases k with
    | zero => exact transient
    | succ k => exact h.before k (Nat.lt_of_succ_lt_succ hk)
  last := h.last.imp_right fun spent => by omega
  ending := by rw [h.ending, Nat.add_right_comm, Nat.add_assoc]

end Settles

section

variable {timer : Timer} {policy : RetryPolicy} {payload : ByteArray} {more attempt now : Nat}
  {cancellation : Cancellation} {replies : Supply Reply}

/-- A run that is not cut short by a cancellation is settled by the answer to its last call.  One
that is cut short has had transient answers only, and could have made another call. -/
theorem retryFrom_settled :
    (∃ n, (retryFrom timer policy payload more attempt now cancellation replies).calls.length
        = n + 1 ∧
      Settles attempt (more + 1) replies.answers n
        (retryFrom timer policy payload more attempt now cancellation replies).ending) ∨
    ((retryFrom timer policy payload more attempt now cancellation replies).ending
        = .failed .cancelled ∧
      (retryFrom timer policy payload more attempt now cancellation replies).calls.length ≤ more ∧
      ∀ k < (retryFrom timer policy payload more attempt now cancellation replies).calls.length,
        (replies.answers k).isTransient = true) := by
  induction more, attempt, now, cancellation, replies using
    retryFrom_induct timer policy payload with
  | due more attempt now cancellation replies due run =>
    rw [run]
    exact Or.inr ⟨rfl, Nat.zero_le _, fun k hk => absurd hk (Nat.not_lt_zero k)⟩
  | last more attempt now cancellation replies quiet last run =>
    rw [run]
    refine Or.inl ⟨0, rfl, Nat.succ_pos _, fun k hk => absurd hk (Nat.not_lt_zero k), ?_, rfl⟩
    exact last.imp_right fun none => by omega
  | cut more attempt now cancellation replies quiet transient later run =>
    rw [run]
    refine Or.inr ⟨rfl, Nat.succ_le_succ (Nat.zero_le _), fun k hk => ?_⟩
    rw [Nat.lt_one_iff.mp hk]
    exact transient
  | again more attempt now cancellation replies quiet transient later run ih =>
    rw [run]
    have tail : (fun k => replies.answers (k + 1)) = replies.tail.answers :=
      funext replies.answers_succ
    rcases ih with ⟨n, calls, settled⟩ | ⟨cancelled, calls, before⟩
    · refine Or.inl ⟨n + 1, congrArg (· + 1) calls, ?_⟩
      rw [← tail] at settled
      exact settled.cons transient
    · refine Or.inr ⟨cancelled, Nat.succ_le_succ calls, fun k hk => ?_⟩
      cases k with
      | zero => exact transient
      | succ k =>
        rw [replies.answers_succ]
        exact before k (Nat.lt_of_succ_lt_succ hk)

/-- A run that nobody cancels does not end as cancelled. -/
theorem retryFrom_ending_ne_cancelled (quiet : ∀ k, (replies.item k).cancels = false) :
    (retryFrom timer policy payload more attempt now none replies).ending
      ≠ .failed .cancelled := by
  refine retryFrom_induct_quiet timer policy payload (motive := fun more attempt now replies =>
    (retryFrom timer policy payload more attempt now none replies).ending
      ≠ .failed .cancelled) ?_ ?_ more attempt now replies quiet
  · intro more attempt now replies ends run
    rw [run]
    exact Answer.conclusion_ne_cancelled _ _
  · intro more attempt now replies transient run ih
    rw [run]
    exact ih

theorem retryFrom_payloads :
    (retryFrom timer policy payload more attempt now cancellation replies).calls.map (·.payload)
      = List.replicate
          (retryFrom timer policy payload more attempt now cancellation replies).calls.length
          payload := by
  rw [List.eq_replicate_iff]
  refine ⟨List.length_map _, fun sent h => ?_⟩
  obtain ⟨call, made, rfl⟩ := List.mem_map.mp h
  exact payload_of_mem_retryFrom made

end

/-- The budget in numbers: all attempts but the first, and the first. -/
theorem RetryPolicy.budget_spelled (policy : RetryPolicy) :
    policy.budget - 1 + 1 = max 1 (min policy.maxAttempts.toNat 4) := by
  rw [Nat.sub_add_cancel policy.budget_pos]
  rfl

/-- Uploads one after the other, each with its start and its payload, over one supply of
replies. -/
def uploadInTurn (timer : Timer) (policy : RetryPolicy) :
    List (Nat × ByteArray) → Supply Reply → List RetryRun
  | [], _ => []
  | (start, payload) :: jobs, replies =>
    let run := uploadWithRetries timer policy payload start none replies
    run :: uploadInTurn timer policy jobs run.replies

/-- The number of calls of several runs. -/
def callCount (runs : List RetryRun) : Nat := (runs.flatMap (·.calls)).length

/-- Each upload is a run of its own over the replies that those before it have left. -/
theorem uploadInTurn_getElem? (timer : Timer) (policy : RetryPolicy)
    (jobs : List (Nat × ByteArray)) (replies : Supply Reply) (j : Nat) :
    (uploadInTurn timer policy jobs replies)[j]? = jobs[j]?.map fun (start, payload) =>
      uploadWithRetries timer policy payload start none
        (replies.drop (callCount ((uploadInTurn timer policy jobs replies).take j))) := by
  induction jobs generalizing replies j with
  | nil => rfl
  | cons job jobs ih =>
    cases j with
    | zero => rfl
    | succ j =>
      have used : (uploadWithRetries timer policy job.2 job.1 none replies).replies
          = replies.drop (uploadWithRetries timer policy job.2 job.1 none replies).calls.length :=
        retryFrom_replies
      simp only [uploadInTurn, List.getElem?_cons_succ, List.take_succ_cons]
      rw [ih, used, callCount, callCount, List.flatMap_cons, List.length_append, Supply.drop_drop]

/-- What an upload of `payload` that nobody cancels has done when it has made `n + 1` calls and
`own` are the replies from its first one on. -/
structure Settled (timer : Timer) (policy : RetryPolicy) (payload : ByteArray) (start : Nat)
    (own : Supply Reply) (run : RetryRun) (n : Nat) : Prop where
  /-- The first answer that is not transient settles it, or else the last one within the budget,
  and no other answer settles it otherwise. -/
  settles : ∀ m e, Settles 1 (max 1 (min policy.maxAttempts.toNat 4)) own.answers m e ↔
    m = n ∧ e = run.ending
  /-- Each call sends the payload. -/
  payloads : run.calls.map (·.payload) = List.replicate (n + 1) payload
  /-- Each call uses up one reply. -/
  replies : run.replies = own.drop (n + 1)
  /-- Replies before and after these make no difference. -/
  alone : ∀ other : Supply Reply, other.take (n + 1) = own.take (n + 1) →
    uploadWithRetries timer policy payload start none other = run.leaving (other.drop (n + 1))
  /-- Its error is none that asks for another attempt. -/
  final : ∀ e, run.ending = .failed e → e.isRetryable = false

/-- Uploads that nobody cancels, one after the other over one supply of replies: each of them is
settled by the next replies alone. -/
theorem settled_in_turn (timer : Timer) (policy : RetryPolicy) (jobs : List (Nat × ByteArray))
    {replies : Supply Reply} (quiet : ∀ k, (replies.item k).cancels = false) {j start : Nat}
    {payload : ByteArray} (asked : jobs[j]? = some (start, payload)) :
    let runs := uploadInTurn timer policy jobs replies
    let own := replies.drop (callCount (runs.take j))
    let run := uploadWithRetries timer policy payload start none own
    runs[j]? = some run ∧ ∃ n, Settled timer policy payload start own run n := by
  intro runs own run
  have place : runs[j]? = some run := by
    rw [uploadInTurn_getElem?, asked]
    rfl
  refine ⟨place, ?_⟩
  have alone : run.ending ≠ .failed .cancelled :=
    retryFrom_ending_ne_cancelled fun k => quiet k
  rcases retryFrom_settled with ⟨n, calls, settled⟩ | ⟨cancelled, -⟩
  · rw [policy.budget_spelled] at settled
    have made : run.calls.length = n + 1 := calls
    refine ⟨n, fun m e => ⟨fun h => h.unique settled, ?_⟩, ?_, ?_, fun other same => ?_, ?_⟩
    · rintro ⟨rfl, rfl⟩
      exact settled
    · rw [← made]
      exact retryFrom_payloads
    · rw [← made]
      exact retryFrom_replies
    · rw [← made] at same ⊢
      exact retryFrom_congr same
    · intro e failed
      exact Answer.isRetryable_of_conclusion (settled.ending.symm.trans failed)
  · exact absurd cancelled alone

/-- A host that is away for two calls, stores what the third one brings, refuses the fourth one
for good, and is away from then on. -/
def exampleReplies : Supply Reply :=
  .ofList [.unavailable, .unavailable, { answer := .accepted (.ofNat 7), latency := 20 },
    { answer := .refused { transient := false, text := "403" } }] .unavailable

/-- Three uploads, one after the other. -/
def exampleJobs : List (Nat × ByteArray) := [(0, ⟨#[1]⟩), (5000, ⟨#[2]⟩), (9000, ⟨#[3]⟩)]

/-- The third of them finds the host away for good and gives up after its fourth call, though its
policy asks for more than four thousand million. -/
theorem settled_in_turn_third_upload :
    (∀ k, (exampleReplies.item k).cancels = false) ∧ exampleJobs[2]? = some (9000, ⟨#[3]⟩) ∧
      ∃ run, (uploadInTurn .exact { maxAttempts := 4294967295 } exampleJobs exampleReplies)[2]?
          = some run ∧
        Settled .exact { maxAttempts := 4294967295 } ⟨#[3]⟩ 9000 (exampleReplies.drop 4) run 3 ∧
        run.ending = .failed (.exhaustedRetries 4
          { transient := true, text := "service unavailable" }) := by
  have quiet : ∀ k, (exampleReplies.item k).cancels = false
    | 0 | 1 | 2 | 3 | _ + 4 => rfl
  have asked : exampleJobs[2]? = some (9000, ⟨#[3]⟩) := rfl
  obtain ⟨place, n, settled⟩ :=
    settled_in_turn .exact { maxAttempts := 4294967295 } exampleJobs quiet asked
  have before : callCount ((uploadInTurn .exact { maxAttempts := 4294967295 } exampleJobs
      exampleReplies).take 2) = 4 := by decide +kernel
  rw [before] at place settled
  have fourth : Settles 1 (max 1 (min (4294967295 : UInt32).toNat 4))
      (exampleReplies.drop 4).answers 3
      (.failed (.exhaustedRetries 4 { transient := true, text := "service unavailable" })) :=
    { within := by decide
      before := by decide
      last := by decide
      ending := rfl }
  obtain ⟨rfl, ended⟩ := (settled.settles 3 _).mp fourth
  exact ⟨quiet, asked, _, place, settled, ended.symm⟩

end AvatarVault
