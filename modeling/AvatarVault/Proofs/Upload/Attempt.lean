import AvatarVault.Upload.Retry
/-!
A run with retries taken apart into single attempts.  An attempt is a call, and what follows from
its answer is `resume`: the end of the run, or a wait and another attempt.  `retryFrom_due` and
`retryFrom_call` say what a run begins with, `resume_last`, `resume_cut` and `resume_again` what
follows an answer, and `retryFrom_induct` is the induction on the attempts left that goes with
them.
-/
namespace AvatarVault

/-- Whether another attempt may fare better. -/
def Answer.isTransient : Answer → Bool
  | .accepted _ => false
  | .refused cause => cause.transient
  | .crashed => false

/-- What the answer to call number `attempt` makes of an upload that makes no further call. -/
def Answer.conclusion (attempt : Nat) : Answer → Ending Receipt
  | .accepted id => .succeeded { id, attempts := attempt }
  | .refused cause =>
    .failed (if cause.transient then .exhaustedRetries attempt cause else .transport cause)
  | .crashed => .crashed

/-- The cancellation after a call that starts at `now`. -/
def Cancellation.afterCall (c : Cancellation) (reply : Reply) (now : Nat) : Cancellation :=
  if reply.cancels then c.latest now else c

/-- The run with a call before it. -/
def RetryRun.after (run : RetryRun) (call : Call) : RetryRun :=
  { run with calls := call :: run.calls }

/-- The run with other replies left over. -/
def RetryRun.leaving (run : RetryRun) (replies : Supply Reply) : RetryRun := { run with replies }

/-- When the wait is over that starts at `done`, after call number `attempt`. -/
def wakeAfter (timer : Timer) (policy : RetryPolicy) (attempt done : Nat) : Nat :=
  done + timer.wait (policy.backoff attempt.toUInt32)

theorem le_wakeAfter (timer : Timer) (policy : RetryPolicy) (attempt done : Nat) :
    done ≤ wakeAfter timer policy attempt done :=
  Nat.le_add_right _ _

/-- The run from the answer to call number `attempt` on, which comes in at `done` and may be
followed by `more` other calls. -/
def resume (timer : Timer) (policy : RetryPolicy) (payload : ByteArray) (more attempt done : Nat)
    (cancellation : Cancellation) (replies : Supply Reply) (answer : Answer) : RetryRun :=
  match answer.isTransient, more with
  | true, more + 1 =>
    let wake := wakeAfter timer policy attempt done
    if cancellation.isDue wake then
      { ending := .failed .cancelled, calls := [], finish := max done (cancellation.getD wake)
        cancellation, replies }
    else retryFrom timer policy payload more (attempt + 1) wake cancellation replies
  | _, _ =>
    { ending := answer.conclusion attempt, calls := [], finish := done, cancellation, replies }

variable {timer : Timer} {policy : RetryPolicy} {payload : ByteArray} {more attempt now done : Nat}
  {cancellation : Cancellation} {replies : Supply Reply} {answer : Answer}

theorem retryFrom_due (due : cancellation.isDue now = true) :
    retryFrom timer policy payload more attempt now cancellation replies
      = { ending := .failed .cancelled, calls := [], finish := now, cancellation, replies } := by
  rw [retryFrom.eq_def, if_pos due]

theorem resume_last (last : answer.isTransient = false ∨ more = 0) :
    resume timer policy payload more attempt done cancellation replies answer
      = { ending := answer.conclusion attempt, calls := [], finish := done, cancellation
          replies } := by
  unfold resume
  split
  · simp_all
  · rfl

theorem resume_cut (transient : answer.isTransient = true)
    (due : cancellation.isDue (wakeAfter timer policy attempt done) = true) :
    resume timer policy payload (more + 1) attempt done cancellation replies answer
      = { ending := .failed .cancelled, calls := []
          finish := max done
            (cancellation.getD (wakeAfter timer policy attempt done))
          cancellation, replies } := by
  simp only [resume, transient, due, if_true]

theorem resume_again (transient : answer.isTransient = true)
    (quiet : cancellation.isDue (wakeAfter timer policy attempt done) = false) :
    resume timer policy payload (more + 1) attempt done cancellation replies answer
      = retryFrom timer policy payload more (attempt + 1)
          (wakeAfter timer policy attempt done) cancellation replies := by
  simp only [resume, transient, quiet, Bool.false_eq_true, if_false]

/-- Within the budget, a transient answer is followed by another attempt. -/
theorem resume_within_budget (again : answer.isTransient = true ∧ attempt < policy.budget)
    (quiet : cancellation.isDue (wakeAfter timer policy attempt done) = false) :
    resume timer policy payload (policy.budget - attempt) attempt done cancellation replies answer
      = retryFrom timer policy payload (policy.budget - (attempt + 1)) (attempt + 1)
          (wakeAfter timer policy attempt done) cancellation replies := by
  have left : policy.budget - attempt = policy.budget - (attempt + 1) + 1 := by omega
  rw [left, resume_again again.1 quiet]

/-- Any other answer, and any at the end of the budget, concludes the run. -/
theorem resume_over (ended : ¬ (answer.isTransient = true ∧ attempt < policy.budget)) :
    resume timer policy payload (policy.budget - attempt) attempt done cancellation replies answer
      = { ending := answer.conclusion attempt, calls := [], finish := done, cancellation
          replies } := by
  apply resume_last
  rcases Decidable.not_and_iff_not_or_not.mp ended with final | spent
  · exact Or.inl (Bool.eq_false_iff.mpr final)
  · exact Or.inr (by omega)

theorem retryFrom_call (quiet : cancellation.isDue now = false) :
    retryFrom timer policy payload more attempt now cancellation replies
      = (resume timer policy payload more attempt (now + replies.head.latency)
          (cancellation.afterCall replies.head now) replies.tail replies.head.answer).after
          { start := now, payload } := by
  rw [retryFrom.eq_def, if_neg (by simp [quiet])]
  cases given : replies.head.answer with
  | accepted id =>
    rw [resume_last (Or.inl rfl)]
    simp only [given]
    rfl
  | crashed =>
    rw [resume_last (Or.inl rfl)]
    simp only [given]
    rfl
  | refused cause =>
    simp only [given]
    cases transient : cause.transient with
    | false =>
      have final : (Answer.refused cause).isTransient = false := transient
      rw [resume_last (Or.inl final)]
      simp [Answer.conclusion, RetryRun.after, Cancellation.afterCall, transient]
    | true =>
      cases more with
      | zero =>
        rw [resume_last (Or.inr rfl)]
        simp [Answer.conclusion, RetryRun.after, Cancellation.afterCall, transient]
      | succ more =>
        have again : (Answer.refused cause).isTransient = true := transient
        rw [if_pos rfl]
        by_cases due : (cancellation.afterCall replies.head now).isDue
            (wakeAfter timer policy attempt (now + replies.head.latency)) = true
        · rw [resume_cut again due]
          exact if_pos due
        · rw [resume_again again (Bool.eq_false_iff.mpr due)]
          exact if_neg due

/-- Induction on the attempts left, by what comes of the attempt that is due: the run is cancelled
before it, it is the last one, the wait after it is cut short, or another one follows. -/
theorem retryFrom_induct (timer : Timer) (policy : RetryPolicy) (payload : ByteArray)
    {motive : (more attempt now : Nat) → Cancellation → Supply Reply → Prop}
    (due : ∀ more attempt now (cancellation : Cancellation) replies,
      cancellation.isDue now = true →
      retryFrom timer policy payload more attempt now cancellation replies
        = { ending := .failed .cancelled, calls := [], finish := now, cancellation, replies } →
      motive more attempt now cancellation replies)
    (last : ∀ more attempt now (cancellation : Cancellation) replies,
      cancellation.isDue now = false →
      replies.head.answer.isTransient = false ∨ more = 0 →
      retryFrom timer policy payload more attempt now cancellation replies
        = { ending := replies.head.answer.conclusion attempt, calls := [{ start := now, payload }]
            finish := now + replies.head.latency
            cancellation := cancellation.afterCall replies.head now, replies := replies.tail } →
      motive more attempt now cancellation replies)
    (cut : ∀ more attempt now (cancellation : Cancellation) replies,
      cancellation.isDue now = false → replies.head.answer.isTransient = true →
      (cancellation.afterCall replies.head now).isDue
        (wakeAfter timer policy attempt (now + replies.head.latency)) = true →
      retryFrom timer policy payload (more + 1) attempt now cancellation replies
        = { ending := .failed .cancelled, calls := [{ start := now, payload }]
            finish := max (now + replies.head.latency)
              ((cancellation.afterCall replies.head now).getD
                (wakeAfter timer policy attempt (now + replies.head.latency)))
            cancellation := cancellation.afterCall replies.head now, replies := replies.tail } →
      motive (more + 1) attempt now cancellation replies)
    (again : ∀ more attempt now (cancellation : Cancellation) replies,
      cancellation.isDue now = false → replies.head.answer.isTransient = true →
      (cancellation.afterCall replies.head now).isDue
        (wakeAfter timer policy attempt (now + replies.head.latency)) = false →
      retryFrom timer policy payload (more + 1) attempt now cancellation replies
        = (retryFrom timer policy payload more (attempt + 1)
            (wakeAfter timer policy attempt (now + replies.head.latency))
            (cancellation.afterCall replies.head now) replies.tail).after
            { start := now, payload } →
      motive more (attempt + 1) (wakeAfter timer policy attempt (now + replies.head.latency))
        (cancellation.afterCall replies.head now) replies.tail →
      motive (more + 1) attempt now cancellation replies)
    (more attempt now : Nat) (cancellation : Cancellation) (replies : Supply Reply) :
    motive more attempt now cancellation replies := by
  induction more generalizing attempt now cancellation replies with
  | zero =>
    cases quiet : cancellation.isDue now with
    | true => exact due _ _ _ _ _ quiet (retryFrom_due quiet)
    | false =>
      refine last _ _ _ _ _ quiet (Or.inr rfl) ?_
      rw [retryFrom_call quiet, resume_last (Or.inr rfl)]
      rfl
  | succ more ih =>
    cases quiet : cancellation.isDue now with
    | true => exact due _ _ _ _ _ quiet (retryFrom_due quiet)
    | false =>
      cases transient : replies.head.answer.isTransient with
      | false =>
        refine last _ _ _ _ _ quiet (Or.inl transient) ?_
        rw [retryFrom_call quiet, resume_last (Or.inl transient)]
        rfl
      | true =>
        cases later : (cancellation.afterCall replies.head now).isDue
            (wakeAfter timer policy attempt (now + replies.head.latency)) with
        | true =>
          refine cut _ _ _ _ _ quiet transient later ?_
          rw [retryFrom_call quiet, resume_cut transient later]
          rfl
        | false =>
          refine again _ _ _ _ _ quiet transient later ?_ (ih _ _ _ _)
          rw [retryFrom_call quiet, resume_again transient later]

/-- The same induction where nobody cancels: the attempt that is due is the last one, or another
one follows. -/
theorem retryFrom_induct_quiet (timer : Timer) (policy : RetryPolicy) (payload : ByteArray)
    {motive : (more attempt now : Nat) → Supply Reply → Prop}
    (last : ∀ more attempt now replies, replies.head.answer.isTransient = false ∨ more = 0 →
      retryFrom timer policy payload more attempt now none replies
        = { ending := replies.head.answer.conclusion attempt, calls := [{ start := now, payload }]
            finish := now + replies.head.latency, cancellation := none
            replies := replies.tail } →
      motive more attempt now replies)
    (again : ∀ more attempt now replies, replies.head.answer.isTransient = true →
      retryFrom timer policy payload (more + 1) attempt now none replies
        = (retryFrom timer policy payload more (attempt + 1)
            (wakeAfter timer policy attempt (now + replies.head.latency)) none replies.tail).after
            { start := now, payload } →
      motive more (attempt + 1) (wakeAfter timer policy attempt (now + replies.head.latency))
        replies.tail →
      motive (more + 1) attempt now replies)
    (more attempt now : Nat) (replies : Supply Reply)
    (quiet : ∀ k, (replies.item k).cancels = false) : motive more attempt now replies := by
  have uncancelled (replies : Supply Reply) (now : Nat)
      (quiet : ∀ k, (replies.item k).cancels = false) :
      Cancellation.afterCall none replies.head now = none := by
    rw [Cancellation.afterCall, show replies.head.cancels = false from quiet _]
    rfl
  -- That nobody cancels is kept as an equation, which the induction carries along.
  generalize whole : (none : Cancellation) = cancellation
  induction more, attempt, now, cancellation, replies using
    retryFrom_induct timer policy payload with
  | due more attempt now cancellation replies due run =>
    subst whole
    exact Bool.noConfusion due
  | last more attempt now cancellation replies _ ends run =>
    subst whole
    rw [uncancelled replies now quiet] at run
    exact last _ _ _ _ ends run
  | cut more attempt now cancellation replies _ transient later run =>
    subst whole
    rw [uncancelled replies now quiet] at later
    exact Bool.noConfusion later
  | again more attempt now cancellation replies _ transient later run ih =>
    subst whole
    rw [uncancelled replies now quiet] at run ih
    exact again _ _ _ _ transient run (ih quiet rfl)

/-- A run looks at no other replies than those to its calls: with another supply that starts with
the same ones it is the same run. -/
theorem retryFrom_congr {other : Supply Reply}
    (same : other.take
        (retryFrom timer policy payload more attempt now cancellation replies).calls.length
      = replies.take
        (retryFrom timer policy payload more attempt now cancellation replies).calls.length) :
    retryFrom timer policy payload more attempt now cancellation other
      = (retryFrom timer policy payload more attempt now cancellation replies).leaving
          (other.drop (retryFrom timer policy payload more attempt now cancellation
            replies).calls.length) := by
  induction more, attempt, now, cancellation, replies using
    retryFrom_induct timer policy payload generalizing other with
  | due more attempt now cancellation replies due run =>
    rw [run, retryFrom_due due]
    rfl
  | last more attempt now cancellation replies quiet last run =>
    rw [run] at same ⊢
    obtain head : other.head = replies.head := (List.cons.inj same).1
    rw [← head] at last
    rw [retryFrom_call quiet, resume_last last, head]
    rfl
  | cut more attempt now cancellation replies quiet transient later run =>
    rw [run] at same ⊢
    obtain head : other.head = replies.head := (List.cons.inj same).1
    rw [← head] at transient later
    rw [retryFrom_call quiet, resume_cut transient later, head]
    rfl
  | again more attempt now cancellation replies quiet transient later run ih =>
    rw [run] at same ⊢
    obtain ⟨head, tail⟩ := List.cons.inj same
    rw [retryFrom_call quiet, head, resume_again transient later]
    rw [ih tail]
    simp only [RetryRun.after, RetryRun.leaving, List.length_cons, Supply.drop_succ]

end AvatarVault
