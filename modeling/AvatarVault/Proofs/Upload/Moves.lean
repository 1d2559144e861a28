import AvatarVault.Proofs.Upload.Attempt
import Mathlib.Logic.Relation
import Mathlib.Order.WellFounded
/-!
An upload with retries as a system of moves, of which one or another may come next.  Calls take
their time, a cancellation may fall between any two moves, and where a wait is over and cancelled
at one moment either may be noticed first.  What the upload still has to do if nobody cancels it is
`Snapshot.future`, how it ends once it is cancelled is `Snapshot.verdict`; no move changes either
(`whole_of_move`, `verdict_of_move`), and the moves come to an end (`move_wellFounded`).
-/
namespace AvatarVault

/-- Where an upload with retries stands. -/
inductive RetryPhase where
  /-- Attempt number `attempt` is due: a look at the cancellation, then the call. -/
  | due (attempt : Nat)
  /-- The call of attempt number `attempt` is in flight until `done`. -/
  | calling (attempt : Nat) (answer : Answer) (done : Nat)
  /-- The wait after attempt number `attempt`, which is over at `wake`. -/
  | waiting (attempt wake : Nat)
  | returned (ending : Ending Receipt)

/-- An upload at a moment. -/
structure Snapshot where
  phase : RetryPhase
  now : Nat
  /-- The moment of the cancellation, once it has come. -/
  cancelled : Option Nat
  /-- The calls started so far. -/
  calls : List Call
  replies : Supply Reply

/-- What follows the answer to call number `attempt`. -/
def RetryPhase.after (timer : Timer) (policy : RetryPolicy) (attempt : Nat) (answer : Answer)
    (done : Nat) : RetryPhase :=
  if answer.isTransient = true ∧ attempt < policy.budget then
    .waiting attempt (wakeAfter timer policy attempt done)
  else .returned (answer.conclusion attempt)

/-- What may happen next.  No time goes by while an attempt is due, and none during a wait once the
upload is cancelled. -/
inductive Move (timer : Timer) (policy : RetryPolicy) (payload : ByteArray) :
    Snapshot → Snapshot → Prop
  /-- Time goes by while a call is in flight. -/
  | fly {attempt answer done now later cancelled calls replies} (forward : now < later)
      (inside : later ≤ done) :
      Move timer policy payload ⟨.calling attempt answer done, now, cancelled, calls, replies⟩
        ⟨.calling attempt answer done, later, cancelled, calls, replies⟩
  /-- Time goes by during a wait. -/
  | rest {attempt wake now later calls replies} (forward : now < later) (inside : later ≤ wake) :
      Move timer policy payload ⟨.waiting attempt wake, now, none, calls, replies⟩
        ⟨.waiting attempt wake, later, none, calls, replies⟩
  /-- Somebody cancels the upload. -/
  | cancel {phase now calls replies} :
      Move timer policy payload ⟨phase, now, none, calls, replies⟩
        ⟨phase, now, some now, calls, replies⟩
  /-- The look before an attempt finds the upload cancelled. -/
  | refuse {attempt now moment calls replies} :
      Move timer policy payload ⟨.due attempt, now, some moment, calls, replies⟩
        ⟨.returned (.failed .cancelled), now, some moment, calls, replies⟩
  /-- It finds nothing, and the call starts. -/
  | call {attempt now calls} {replies : Supply Reply} :
      Move timer policy payload ⟨.due attempt, now, none, calls, replies⟩
        ⟨.calling attempt replies.head.answer (now + replies.head.latency), now, none,
          calls ++ [{ start := now, payload }], replies.tail⟩
  /-- The call is over. -/
  | answer {attempt answer done cancelled calls replies} :
      Move timer policy payload ⟨.calling attempt answer done, done, cancelled, calls, replies⟩
        ⟨.after timer policy attempt answer done, done, cancelled, calls, replies⟩
  /-- A wait notices the cancellation. -/
  | interrupt {attempt wake now moment calls replies} :
      Move timer policy payload ⟨.waiting attempt wake, now, some moment, calls, replies⟩
        ⟨.returned (.failed .cancelled), now, some moment, calls, replies⟩
  /-- A wait notices that it is over, cancelled or not. -/
  | elapse {attempt wake cancelled calls replies} :
      Move timer policy payload ⟨.waiting attempt wake, wake, cancelled, calls, replies⟩
        ⟨.due (attempt + 1), wake, cancelled, calls, replies⟩

/-- Any number of moves. -/
abbrev Moves (timer : Timer) (policy : RetryPolicy) (payload : ByteArray) :
    Snapshot → Snapshot → Prop :=
  Relation.ReflTransGen (Move timer policy payload)

/-- The same replies, none of which cancels the upload. -/
def Supply.undisturbed (replies : Supply Reply) : Supply Reply :=
  { replies with item := fun k => { replies.item k with cancels := false } }

namespace Snapshot

/-- An upload before its first attempt. -/
def begin (start : Nat) (replies : Supply Reply) : Snapshot :=
  { phase := .due 1, now := start, cancelled := none, calls := [], replies }

/-- The upload with a cancellation at this very moment. -/
def cancel (s : Snapshot) : Snapshot := { s with cancelled := some s.now }

/-- How the upload ended, if it has. -/
def ending? (s : Snapshot) : Option (Ending Receipt) :=
  match s.phase with
  | .returned ending => some ending
  | _ => none

/-- What the upload still does if nobody cancels it. -/
def future (timer : Timer) (policy : RetryPolicy) (payload : ByteArray) (s : Snapshot) :
    RetryRun :=
  match s.phase with
  | .due attempt =>
    retryFrom timer policy payload (policy.budget - attempt) attempt s.now none
      s.replies.undisturbed
  | .calling attempt answer done =>
    resume timer policy payload (policy.budget - attempt) attempt done none s.replies.undisturbed
      answer
  | .waiting attempt wake =>
    retryFrom timer policy payload (policy.budget - (attempt + 1)) (attempt + 1) wake none
      s.replies.undisturbed
  | .returned ending =>
    { ending, calls := [], finish := s.now, cancellation := none
      replies := s.replies.undisturbed }

/-- The upload from its start, if nobody cancels it. -/
def whole (timer : Timer) (policy : RetryPolicy) (payload : ByteArray) (s : Snapshot) : RetryRun :=
  { s.future timer policy payload with calls := s.calls ++ (s.future timer policy payload).calls }

/-- How the upload ends once it is cancelled, and when. -/
def verdict (policy : RetryPolicy) (s : Snapshot) : Ending Receipt × Nat :=
  match s.phase with
  | .due _ => (.failed .cancelled, s.now)
  | .calling attempt answer done =>
    (if answer.isTransient = true ∧ attempt < policy.budget then .failed .cancelled
      else answer.conclusion attempt, done)
  | .waiting _ _ => (.failed .cancelled, s.now)
  | .returned ending => (ending, s.now)

/-- No call starts, and no call in flight or wait is over, later than now. -/
structure Timely (s : Snapshot) : Prop where
  started : ∀ call ∈ s.calls, call.start ≤ s.now
  calling : ∀ attempt answer done, s.phase = .calling attempt answer done → s.now ≤ done
  waiting : ∀ attempt wake, s.phase = .waiting attempt wake → s.now ≤ wake

end Snapshot

variable {timer : Timer} {policy : RetryPolicy} {payload : ByteArray} {s t : Snapshot}

/-! ## What the upload does if nobody cancels it -/

/-- A call of an upload that nobody cancels. -/
theorem retryFrom_undisturbed {more attempt now : Nat} {replies : Supply Reply} :
    retryFrom timer policy payload more attempt now none replies.undisturbed
      = (resume timer policy payload more attempt (now + replies.head.latency) none
          replies.tail.undisturbed replies.head.answer).after { start := now, payload } :=
  retryFrom_call rfl

theorem whole_of_move (h : Move timer policy payload s t) (live : t.cancelled = none) :
    t.whole timer policy payload = s.whole timer policy payload := by
  cases h with
  | fly _ _ => rfl
  | rest _ _ => rfl
  | cancel => simp at live
  | refuse => simp at live
  | call =>
    simp only [Snapshot.whole, Snapshot.future]
    rw [retryFrom_undisturbed]
    simp only [RetryRun.after, List.append_assoc, List.singleton_append]
  | @answer attempt answer done _ _ _ =>
    by_cases again : answer.isTransient = true ∧ attempt < policy.budget
    · simp only [Snapshot.whole, Snapshot.future, RetryPhase.after, again, and_self, if_true]
      rw [resume_within_budget again rfl]
    · simp only [Snapshot.whole, Snapshot.future, RetryPhase.after, again, if_false]
      rw [resume_over again]
  | interrupt => simp at live
  | elapse => rfl

/-- A cancellation is not taken back. -/
theorem Move.live (h : Move timer policy payload s t) (live : t.cancelled = none) :
    s.cancelled = none := by
  cases h with
  | cancel => rfl
  | fly _ _ | rest _ _ | refuse | call | answer | interrupt | elapse => exact live

theorem whole_of_moves (h : Moves timer policy payload s t) (live : t.cancelled = none) :
    t.whole timer policy payload = s.whole timer policy payload := by
  induction h with
  | refl => rfl
  | tail _ move ih => rw [whole_of_move move live, ih (move.live live)]

/-! ## How a cancelled upload ends -/

/-- Nothing that happens to a cancelled upload makes another call or changes how it ends.  Where a
wait is over at the moment of the cancellation, it makes no difference which of the two is noticed:
the look before the next attempt comes at the same moment. -/
theorem verdict_of_move (h : Move timer policy payload s t) {moment : Nat}
    (gone : s.cancelled = some moment) :
    t.verdict policy = s.verdict policy ∧ t.calls = s.calls ∧ t.cancelled = some moment := by
  cases h with
  | fly _ _ => exact ⟨rfl, rfl, gone⟩
  | rest _ _ => simp at gone
  | cancel => simp at gone
  | refuse => exact ⟨rfl, rfl, gone⟩
  | call => simp at gone
  | @answer attempt answer done _ _ _ =>
    refine ⟨?_, rfl, gone⟩
    by_cases again : answer.isTransient = true ∧ attempt < policy.budget
    · simp only [Snapshot.verdict, RetryPhase.after, again, and_self, if_true]
    · simp only [Snapshot.verdict, RetryPhase.after, again, if_false]
  | interrupt => exact ⟨rfl, rfl, gone⟩
  | elapse => exact ⟨rfl, rfl, gone⟩

theorem verdict_of_moves (h : Moves timer policy payload s t) {moment : Nat}
    (gone : s.cancelled = some moment) :
    t.verdict policy = s.verdict policy ∧ t.calls = s.calls ∧ t.cancelled = some moment := by
  induction h with
  | refl => exact ⟨rfl, rfl, gone⟩
  | tail _ move ih =>
    obtain ⟨verdict, calls, still⟩ := ih
    obtain ⟨verdict', calls', still'⟩ := verdict_of_move move still
    exact ⟨verdict'.trans verdict, calls'.trans calls, still'⟩

/-! ## Time -/

theorem timely_begin (start : Nat) (replies : Supply Reply) :
    (Snapshot.begin start replies).Timely where
  started _ h := absurd h List.not_mem_nil
  calling _ _ _ h := RetryPhase.noConfusion h
  waiting _ _ h := RetryPhase.noConfusion h

theorem timely_of_move (h : Move timer policy payload s t) (timely : s.Timely) : t.Timely := by
  obtain ⟨started, calling, waiting⟩ := timely
  cases h with
  | fly forward inside =>
    refine ⟨fun call made => Nat.le_trans (started call made) (Nat.le_of_lt forward), ?_, ?_⟩
    · rintro _ _ _ ⟨⟩
      exact inside
    · rintro _ _ ⟨⟩
  | rest forward inside =>
    refine ⟨fun call made => Nat.le_trans (started call made) (Nat.le_of_lt forward), ?_, ?_⟩
    · rintro _ _ _ ⟨⟩
    · rintro _ _ ⟨⟩
      exact inside
  | cancel => exact ⟨started, calling, waiting⟩
  | refuse => exact ⟨started, by rintro _ _ _ ⟨⟩, by rintro _ _ ⟨⟩⟩
  | @call attempt now calls replies =>
    refine ⟨fun call made => ?_, ?_, by rintro _ _ ⟨⟩⟩
    · rcases List.mem_append.mp made with before | last
      · exact started call before
      · rw [List.mem_singleton.mp last]
    · rintro _ _ _ ⟨⟩
      exact Nat.le_add_right _ _
  | answer =>
    refine ⟨started, ?_, ?_⟩
    · intro _ _ _ phase
      simp only [RetryPhase.after] at phase
      split at phase <;> exact RetryPhase.noConfusion phase
    · intro _ _ phase
      simp only [RetryPhase.after] at phase
      split at phase
      · cases phase
        exact Nat.le_add_right _ _
      · exact RetryPhase.noConfusion phase
  | interrupt => exact ⟨started, by rintro _ _ _ ⟨⟩, by rintro _ _ ⟨⟩⟩
  | elapse => exact ⟨started, by rintro _ _ _ ⟨⟩, by rintro _ _ ⟨⟩⟩

theorem timely_of_moves (h : Moves timer policy payload s t) (timely : s.Timely) : t.Timely := by
  induction h with
  | refl => exact timely
  | tail _ move ih => exact timely_of_move move ih

/-! ## The end of the moves -/

namespace Snapshot

/-- The number of moves to the end that no time goes by in. -/
def movesLeft (policy : RetryPolicy) (s : Snapshot) : Nat :=
  match s.phase with
  | .due attempt => 3 * (policy.budget - attempt) + 3
  | .calling attempt _ _ => 3 * (policy.budget - attempt) + 2
  | .waiting attempt _ => 3 * (policy.budget - (attempt + 1)) + 4
  | .returned _ => 0

/-- The time to the next move, and one more as long as a cancellation may come. -/
def timeLeft (s : Snapshot) : Nat :=
  (match s.phase with
    | .calling _ _ done => done - s.now
    | .waiting _ wake => wake - s.now
    | _ => 0) + if s.cancelled.isSome then 0 else 1

end Snapshot

theorem movesLeft_of_move (h : Move timer policy payload s t) :
    t.movesLeft policy < s.movesLeft policy ∨
      t.movesLeft policy = s.movesLeft policy ∧ t.timeLeft < s.timeLeft := by
  cases h with
  | fly forward inside =>
    refine Or.inr ⟨rfl, ?_⟩
    simp only [Snapshot.timeLeft]
    omega
  | rest forward inside =>
    refine Or.inr ⟨rfl, ?_⟩
    simp only [Snapshot.timeLeft]
    omega
  | cancel =>
    refine Or.inr ⟨rfl, ?_⟩
    simp [Snapshot.timeLeft]
  | refuse =>
    left
    simp only [Snapshot.movesLeft]
    omega
  | call =>
    left
    simp only [Snapshot.movesLeft]
    omega
  | @answer attempt answer _ _ _ _ =>
    left
    by_cases again : answer.isTransient = true ∧ attempt < policy.budget
    · simp only [Snapshot.movesLeft, RetryPhase.after, again, and_self, if_true]
      omega
    · simp only [Snapshot.movesLeft, RetryPhase.after, again, if_false]
      omega
  | interrupt =>
    left
    simp only [Snapshot.movesLeft]
    omega
  | elapse =>
    left
    simp only [Snapshot.movesLeft]
    omega

/-- There is no endless sequence of moves. -/
theorem move_wellFounded (timer : Timer) (policy : RetryPolicy) (payload : ByteArray) :
    WellFounded fun t s => Move timer policy payload s t := by
  -- A move brings the upload nearer to its end, or it uses up some of the time to the next such
  -- move, or the one cancellation that may come.
  refine Subrelation.wf (fun {t s} h => ?_)
    (InvImage.wf (fun s : Snapshot => (s.movesLeft policy, s.timeLeft))
      (WellFounded.prod_lex Nat.lt_wfRel.wf Nat.lt_wfRel.wf))
  rcases movesLeft_of_move h with less | ⟨same, less⟩
  · exact Prod.Lex.left _ _ less
  · simp only [InvImage, same]
    exact Prod.Lex.right _ less

/-- An upload that has not returned has a move to make. -/
theorem exists_move (timely : s.Timely) (open_ : s.ending? = none) :
    ∃ t, Move timer policy payload s t := by
  obtain ⟨phase, now, cancelled, calls, replies⟩ := s
  cases phase with
  | due attempt =>
    cases cancelled with
    | none => exact ⟨_, .call⟩
    | some moment => exact ⟨_, .refuse⟩
  | calling attempt answer done =>
    rcases Nat.lt_or_eq_of_le (timely.calling _ _ _ rfl) with early | arrived
    · exact ⟨_, .fly early (Nat.le_refl _)⟩
    · dsimp only at arrived
      subst arrived
      exact ⟨_, .answer⟩
  | waiting attempt wake =>
    cases cancelled with
    | some moment => exact ⟨_, .interrupt⟩
    | none =>
      rcases Nat.lt_or_eq_of_le (timely.waiting _ _ rfl) with early | arrived
      · exact ⟨_, .rest early (Nat.le_refl _)⟩
      · dsimp only at arrived
        subst arrived
        exact ⟨_, .elapse⟩
  | returned ending => simp [Snapshot.ending?] at open_

/-- Every upload can go on until it returns. -/
theorem exists_returned (timely : s.Timely) :
    ∃ t, Moves timer policy payload s t ∧ t.ending?.isSome = true := by
  induction s using (move_wellFounded timer policy payload).induction with
  | _ s ih =>
    cases ended : s.ending? with
    | some ending => exact ⟨s, .refl, by rw [ended]; rfl⟩
    | none =>
      obtain ⟨next, move⟩ := exists_move timely ended
      obtain ⟨t, moves, returned⟩ := ih next move (timely_of_move move timely)
      exact ⟨t, .head move moves, returned⟩

end AvatarVault
