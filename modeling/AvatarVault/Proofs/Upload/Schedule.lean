import AvatarVault.Proofs.Upload.Settling
/-!
When the calls of a run are made.  The first one is made at once (`start_head`), and each other one
when the call before it is over and the wait that goes with its number has passed (`start_next`).
Where all answers are transient and nobody cancels, calls are made as long as any are left
(`retryFrom_of_transient`).
-/
namespace AvatarVault

/-- Whether every call to come fails transiently and leaves the upload uncancelled. -/
structure Supply.Transient (replies : Supply Reply) : Prop where
  transient : ∀ k, (replies.answers k).isTransient = true
  quiet : ∀ k, (replies.ahead k).cancels = false

theorem Supply.Transient.tail {replies : Supply Reply} (h : replies.Transient) :
    replies.tail.Transient where
  transient k := by
    rw [← replies.answers_succ]
    exact h.transient (k + 1)
  quiet k := by
    rw [← replies.ahead_succ]
    exact h.quiet (k + 1)

variable {timer : Timer} {policy : RetryPolicy} {payload : ByteArray} {more attempt now : Nat}
  {cancellation : Cancellation} {replies : Supply Reply}

/-- Another attempt is made as long as one is left; the last one ends the run as exhausted. -/
theorem retryFrom_of_transient (timer : Timer) (policy : RetryPolicy) (payload : ByteArray)
    (more attempt now : Nat) (h : replies.Transient) :
    (retryFrom timer policy payload more attempt now none replies).calls.length = more + 1 ∧
      (retryFrom timer policy payload more attempt now none replies).ending
        = (replies.answers more).conclusion (attempt + more) := by
  induction more generalizing attempt now replies with
  | zero =>
    rw [retryFrom_call rfl, resume_last (Or.inr rfl)]
    exact ⟨rfl, rfl⟩
  | succ more ih =>
    have uncancelled : Cancellation.afterCall none replies.head now = none := by
      rw [Cancellation.afterCall, show replies.head.cancels = false from h.quiet 0]
      rfl
    have first : replies.head.answer.isTransient = true := h.transient 0
    have undue (wake : Nat) : Cancellation.isDue none wake = false := rfl
    rw [retryFrom_call (undue now), uncancelled, resume_again first (undue _)]
    obtain ⟨calls, ending⟩ := ih (attempt + 1)
      (wakeAfter timer policy attempt (now + replies.head.latency)) h.tail
    constructor
    · exact congrArg (· + 1) calls
    · rw [replies.answers_succ, ← Nat.add_assoc, Nat.add_right_comm]
      exact ending

theorem start_head {call : Call}
    (first : (retryFrom timer policy payload more attempt now cancellation replies).calls[0]?
      = some call) : call.start = now := by
  cases quiet : cancellation.isDue now with
  | true =>
    rw [retryFrom_due quiet] at first
    cases first
  | false =>
    rw [retryFrom_call quiet] at first
    rw [← Option.some.inj first]

/-- Between the end of a call and the start of the next one is the wait of its number. -/
theorem start_next {i : Nat} {call next : Call}
    (made : (retryFrom timer policy payload more attempt now cancellation replies).calls[i]?
      = some call)
    (then_made : (retryFrom timer policy payload more attempt now cancellation
      replies).calls[i + 1]? = some next) :
    next.start
      = wakeAfter timer policy (attempt + i) (call.start + (replies.ahead i).latency) := by
  induction more, attempt, now, cancellation, replies using
    retryFrom_induct timer policy payload generalizing i with
  | due more attempt now cancellation replies due run =>
    rw [run] at made
    cases made
  | last more attempt now cancellation replies quiet last run =>
    rw [run] at then_made
    cases then_made
  | cut more attempt now cancellation replies quiet transient later run =>
    rw [run] at then_made
    cases then_made
  | again more attempt now cancellation replies quiet transient later run ih =>
    rw [run] at made then_made
    cases i with
    | zero =>
      rw [← Option.some.inj made]
      exact start_head then_made
    | succ i =>
      rw [replies.ahead_succ, ← Nat.add_assoc, Nat.add_right_comm]
      exact ih made then_made

end AvatarVault
