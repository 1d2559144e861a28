import AvatarVault.Upload.Retry
/-!
What a run with retries leaves behind, whatever the host answers and whenever it is cancelled:
every call carries the payload (`payload_of_mem_retryFrom`), each call uses up one reply
(`retryFrom_replies`), and a success is the answer to the last call and counts the calls as
attempts (`retryFrom_succeeded`).  All three are by induction on the attempts left.
-/
namespace AvatarVault

variable {timer : Timer} {policy : RetryPolicy} {payload : ByteArray} {more attempt now : Nat}
  {cancellation : Cancellation} {replies : Supply Reply}

/-- First try and retries alike send the payload. -/
theorem payload_of_mem_retryFrom {call : Call}
    (h : call ∈ (retryFrom timer policy payload more attempt now cancellation replies).calls) :
    call.payload = payload := by
  fun_induction retryFrom timer policy payload more attempt now cancellation replies with
  | case1 => simp at h
  | case2 => rw [List.mem_singleton.mp h]
  | case3 => rw [List.mem_singleton.mp h]
  | case4 => rw [List.mem_singleton.mp h]
  | case5 => rw [List.mem_singleton.mp h]
  | case6 attempt now cancellation replies due reply later call' done cause refused transient more
      wake quiet run ih =>
    rcases List.mem_cons.mp h with h | h
    · rw [h]
    · exact ih h
  | case7 => rw [List.mem_singleton.mp h]

/-- Each call uses up the next reply. -/
theorem retryFrom_replies :
    (retryFrom timer policy payload more attempt now cancellation replies).replies
      = { replies with
          used := replies.used + (retryFrom timer policy payload more attempt now cancellation
            replies).calls.length } := by
  fun_induction retryFrom timer policy payload more attempt now cancellation replies with
  | case1 => rfl
  | case2 => rfl
  | case3 => rfl
  | case4 => rfl
  | case5 => rfl
  | case6 attempt now cancellation replies due reply later call done cause refused transient more
      wake quiet run ih =>
    have rest : run.replies
        = { replies.tail with used := replies.tail.used + run.calls.length } := ih
    rw [List.length_cons, rest]
    simp only [Supply.tail, Supply.mk.injEq, true_and]
    omega
  | case7 => rfl

/-- A success answers the last call, and counts the calls as attempts. -/
theorem retryFrom_succeeded {receipt : Receipt}
    (h : (retryFrom timer policy payload more attempt now cancellation replies).ending
      = .succeeded receipt) :
    ∃ n, (retryFrom timer policy payload more attempt now cancellation replies).calls.length
        = n + 1 ∧
      receipt.attempts = attempt + n ∧
      (replies.item (replies.used + n)).answer = .accepted receipt.id := by
  fun_induction retryFrom timer policy payload more attempt now cancellation replies with
  | case1 => simp at h
  | case2 more attempt now cancellation replies due reply later call done conclude id accepted =>
    obtain rfl := Ending.succeeded.inj h
    exact ⟨0, rfl, rfl, accepted⟩
  | case3 more attempt now cancellation replies due reply later call done conclude crashed =>
    have e : Ending.crashed = .succeeded receipt := h
    simp at e
  | case4 attempt now cancellation replies due reply later call done conclude cause =>
    have e : Ending.failed (.exhaustedRetries attempt cause) = .succeeded receipt := h
    simp at e
  | case5 attempt now cancellation replies due reply later call done conclude =>
    have e : Ending.failed .cancelled = .succeeded receipt := h
    simp at e
  | case6 attempt now cancellation replies due reply later call done cause refused transient more
      wake quiet run ih =>
    obtain ⟨n, length, attempts, answer⟩ := ih h
    refine ⟨n + 1, ?_, by omega, ?_⟩
    · rw [List.length_cons]
      exact congrArg (· + 1) length
    · have place : replies.used + (n + 1) = replies.tail.used + n := by
        simp only [Supply.tail]
        omega
      rw [place]
      exact answer
  | case7 more attempt now cancellation replies due reply later call done conclude cause =>
    have e : Ending.failed (.transport cause) = .succeeded receipt := h
    simp at e

end AvatarVault
