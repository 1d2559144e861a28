import Mathlib.Algebra.Order.BigOperators.Group.Finset
import AvatarVault.Proofs.Upload.Backoff
import AvatarVault.Proofs.Upload.Schedule
/-!
How long an upload takes that nobody cancels.  It returns when its last call is over
(`finish_of_getLast`), so it takes as long as its calls and the waits between them
(`retryFrom_finish`).  With waits in whole milliseconds and an exact timer every call has its place
on the clock (`calls_on_schedule`).
-/
namespace AvatarVault

open Finset (range)

variable {timer : Timer} {policy : RetryPolicy} {payload : ByteArray} {more attempt now : Nat}
  {replies : Supply Reply}

/-- The run ends with the last call. -/
theorem finish_of_getLast (quiet : ∀ k, (replies.item k).cancels = false) :
    ∃ call, (retryFrom timer policy payload more attempt now none replies).calls.getLast?
        = some call ∧
      (retryFrom timer policy payload more attempt now none replies).finish = call.start
        + (replies.ahead ((retryFrom timer policy payload more attempt now none
            replies).calls.length - 1)).latency := by
  refine retryFrom_induct_quiet timer policy payload (motive := fun more attempt now replies =>
    ∃ call, (retryFrom timer policy payload more attempt now none replies).calls.getLast?
        = some call ∧
      (retryFrom timer policy payload more attempt now none replies).finish = call.start
        + (replies.ahead ((retryFrom timer policy payload more attempt now none
            replies).calls.length - 1)).latency) ?_ ?_ more attempt now replies quiet
  · intro more attempt now replies _ run
    rw [run]
    exact ⟨_, rfl, rfl⟩
  · intro more attempt now replies _ run ih
    rw [run]
    obtain ⟨call, last, finish⟩ := ih
    obtain ⟨front, calls⟩ := List.getLast?_eq_some_iff.mp last
    simp only [RetryRun.after, List.getLast?_cons, List.length_cons, Nat.add_sub_cancel]
    rw [finish, last, calls]
    refine ⟨call, rfl, ?_⟩
    simp only [List.length_append, List.length_singleton, Nat.add_sub_cancel, Supply.ahead_succ]

/-- The run takes as long as its calls, and the waits between them. -/
theorem retryFrom_finish (quiet : ∀ k, (replies.item k).cancels = false) :
    ∃ n ≤ more,
      (retryFrom timer policy payload more attempt now none replies).calls.length = n + 1 ∧
      (retryFrom timer policy payload more attempt now none replies).finish
        = now + ∑ k ∈ range (n + 1), (replies.ahead k).latency
          + ∑ k ∈ range n, timer.wait (policy.backoff (attempt + k).toUInt32) := by
  refine retryFrom_induct_quiet timer policy payload (motive := fun more attempt now replies =>
    ∃ n ≤ more,
      (retryFrom timer policy payload more attempt now none replies).calls.length = n + 1 ∧
      (retryFrom timer policy payload more attempt now none replies).finish
        = now + ∑ k ∈ range (n + 1), (replies.ahead k).latency
          + ∑ k ∈ range n, timer.wait (policy.backoff (attempt + k).toUInt32))
    ?_ ?_ more attempt now replies quiet
  · intro more attempt now replies _ run
    rw [run]
    exact ⟨0, Nat.zero_le _, rfl, by simp [Supply.ahead, Supply.head]⟩
  · intro more attempt now replies _ run ih
    rw [run]
    obtain ⟨n, le, length, finish⟩ := ih
    refine ⟨n + 1, Nat.succ_le_succ le, congrArg (· + 1) length, ?_⟩
    have latencies : ∑ k ∈ range (n + 1 + 1), (replies.ahead k).latency
        = ∑ k ∈ range (n + 1), (replies.tail.ahead k).latency + replies.head.latency := by
      rw [Finset.sum_range_succ']
      simp only [Supply.ahead_succ]
      rfl
    have waits : ∑ k ∈ range (n + 1), timer.wait (policy.backoff (attempt + k).toUInt32)
        = ∑ k ∈ range n, timer.wait (policy.backoff (attempt + 1 + k).toUInt32)
          + timer.wait (policy.backoff attempt.toUInt32) := by
      rw [Finset.sum_range_succ', Nat.add_zero]
      exact congrArg (· + _) (Finset.sum_congr rfl fun k _ => by
        rw [Nat.add_comm k 1, ← Nat.add_assoc])
    simp only [RetryRun.after]
    rw [latencies, waits, finish, wakeAfter]
    omega

/-- The calls of an upload on the clock, in milliseconds: the first wait is `initial` long, each
further one twice as long, and none longer than `longest`. -/
structure Scheduled (initial longest start : Nat) (replies : Supply Reply) (run : RetryRun) :
    Prop where
  /-- The first call starts at once. -/
  first : ∃ call, run.calls.head? = some call ∧ call.start = start
  /-- Each further one starts when the one before it is over and the wait after that has passed. -/
  next : ∀ k call later, run.calls[k]? = some call → run.calls[k + 1]? = some later →
    later.start = call.start + (replies.ahead k).latency + min (initial * 2 ^ k) longest
  /-- The upload returns the moment its last call is over. -/
  returns : ∃ call, run.calls.getLast? = some call ∧
    run.finish = call.start + (replies.ahead (run.calls.length - 1)).latency
  /-- It takes as long as its calls and the waits between them. -/
  elapsed : run.finish = start + ∑ k ∈ range run.calls.length, (replies.ahead k).latency
    + ∑ k ∈ range (run.calls.length - 1), min (initial * 2 ^ k) longest
  /-- The waits are no longer than the longest one for each call but the last. -/
  waiting : ∑ k ∈ range (run.calls.length - 1), min (initial * 2 ^ k) longest
    ≤ (run.calls.length - 1) * longest
  bound : (run.calls.length - 1) * longest ≤ 3 * longest

/-- **The calls are on schedule**, whatever the replies and however long each of them takes. -/
theorem calls_on_schedule {policy : RetryPolicy} {initial longest : Nat}
    (millis : policy.InMillis initial longest) (payload : ByteArray) (start : Nat)
    {replies : Supply Reply} (quiet : ∀ k, (replies.item k).cancels = false) :
    Scheduled initial longest start replies
      (uploadWithRetries .exact policy payload start none replies) := by
  obtain ⟨n, le, length, finish⟩ :=
    @retryFrom_finish .exact policy payload (policy.budget - 1) 1 start replies quiet
  have few : n ≤ 3 := by
    have budget := policy.budget_spelled
    omega
  have wait (k : Nat) (early : k ≤ 3) :
      Timer.exact.wait (policy.backoff (1 + k).toUInt32) = min (initial * 2 ^ k) longest := by
    have number : (1 + k).toUInt32.toNat = 1 + k := toNat_toUInt32 (by omega)
    rw [millis.wait_exact (by rw [number]; omega), number, Nat.add_sub_cancel_left]
  have waits : ∑ k ∈ range n, Timer.exact.wait (policy.backoff (1 + k).toUInt32)
      = ∑ k ∈ range n, min (initial * 2 ^ k) longest :=
    Finset.sum_congr rfl fun k mem => wait k (by
      have := Finset.mem_range.mp mem
      omega)
  have calls : (uploadWithRetries .exact policy payload start none replies).calls.length = n + 1 :=
    length
  rw [waits] at finish
  refine ⟨?_, fun k call later made then_made => ?_, finish_of_getLast quiet, ?_, ?_, ?_⟩
  · obtain ⟨first, more, made⟩ := List.exists_cons_of_length_eq_add_one calls
    rw [made]
    exact ⟨first, rfl, start_head (by rw [← uploadWithRetries, made]; rfl)⟩
  · have early := (List.getElem?_eq_some_iff.mp then_made).1
    rw [start_next made then_made, wakeAfter, wait k (by omega)]
  · rw [calls]
    exact finish
  · rw [calls]
    exact (Finset.sum_le_card_nsmul _ _ longest fun k _ => Nat.min_le_right _ _).trans_eq (by simp)
  · rw [calls]
    exact Nat.mul_le_mul_right _ few

/-- A host that is away for three calls, of which the second is refused at once, and stores what the
fourth one brings. -/
def unevenReplies : Supply Reply :=
  .ofList [{ Reply.unavailable with latency := 7 }, .unavailable,
    { Reply.unavailable with latency := 20 },
    { answer := .accepted (.ofNat 7), latency := 11 }] .unavailable

/-- Waits that reach the longest one with the second, and more attempts than are allowed. -/
def steepPolicy : RetryPolicy :=
  { maxAttempts := 9, initialBackoff := .ofMillis 3, maxBackoff := .ofMillis 5 }

/-- Four calls of 38 ms in all, with waits of 3, 5 and 5 ms between them. -/
theorem calls_on_schedule_four_calls :
    steepPolicy.InMillis 3 5 ∧ (∀ k, (unevenReplies.item k).cancels = false) ∧
      Scheduled 3 5 100 unevenReplies
        (uploadWithRetries .exact steepPolicy ⟨#[97]⟩ 100 none unevenReplies) ∧
      (uploadWithRetries .exact steepPolicy ⟨#[97]⟩ 100 none unevenReplies).finish = 151 := by
  have millis : steepPolicy.InMillis 3 5 :=
    ⟨Duration.toNanos_ofMillis 3, Duration.toNanos_ofMillis 5⟩
  have quiet : ∀ k, (unevenReplies.item k).cancels = false
    | 0 | 1 | 2 | 3 | _ + 4 => rfl
  have scheduled := calls_on_schedule millis ⟨#[97]⟩ 100 quiet
  have calls : (uploadWithRetries .exact steepPolicy ⟨#[97]⟩ 100 none unevenReplies).calls.length
      = 4 := by decide +kernel
  refine ⟨millis, quiet, scheduled, ?_⟩
  rw [scheduled.elapsed, calls]
  decide

end AvatarVault
