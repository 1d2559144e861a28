import AvatarVault.Proofs.Upload.Moves
import AvatarVault.Proofs.Upload.Settling
/-!
What a cancellation does to an upload with retries, at whatever moment it comes
(`cancellation_honoured`): no call starts after it, a call in flight runs to its end, and the upload
ends as cancelled, at once, where it would have made another call, and as it would have ended
anyway where not.
-/
namespace AvatarVault

variable {timer : Timer} {policy : RetryPolicy} {payload : ByteArray} {s t : Snapshot}

/-! ## What is computed is one of the ways that the moves leave open -/

/-- The moment at which an upload that starts at `start` is cancelled, if that is past. -/
def Cancellation.observed (c : Cancellation) (start now : Nat) : Option Nat :=
  match c with
  | some moment => if moment ≤ now then some (max start moment) else none
  | none => none

namespace Cancellation

variable {c : Cancellation} {start now later : Nat}

theorem observed_of_quiet (quiet : c.isDue now = false) : c.observed start now = none := by
  cases c with
  | none => rfl
  | some moment =>
    have future : ¬ moment ≤ now := by simpa [isDue] using quiet
    simp only [observed, future, if_false]

theorem observed_of_due (start : Nat) (due : c.isDue now = true) :
    ∃ moment, c = some moment ∧ moment ≤ now ∧ c.observed start now = some (max start moment) := by
  cases c with
  | none => exact Bool.noConfusion due
  | some moment =>
    have past : moment ≤ now := by simpa [isDue] using due
    exact ⟨moment, rfl, past, by simp only [observed, past, if_true]⟩

/-- Between two moments the upload is cancelled at a moment in between, or nothing changes. -/
theorem observed_cases (started : start ≤ now) (order : now ≤ later) :
    c.observed start later = c.observed start now ∨
      ∃ moment, now < moment ∧ moment ≤ later ∧ c.observed start now = none ∧
        c.observed start later = some moment := by
  cases c with
  | none => exact Or.inl rfl
  | some moment =>
    by_cases before : moment ≤ now
    · left
      simp only [observed, before, Nat.le_trans before order, if_true]
    · by_cases between : moment ≤ later
      · refine Or.inr ⟨moment, by omega, between, ?_, ?_⟩
        · simp only [observed, before, if_false]
        · simp only [observed, between, if_true]
          rw [Nat.max_eq_right (by omega)]
      · left
        simp only [observed, before, between, if_false]

end Cancellation

theorem fly_forward {attempt answer done now later cancelled calls} {replies : Supply Reply}
    (order : now ≤ later) (inside : later ≤ done) :
    Moves timer policy payload ⟨.calling attempt answer done, now, cancelled, calls, replies⟩
      ⟨.calling attempt answer done, later, cancelled, calls, replies⟩ := by
  rcases Nat.lt_or_eq_of_le order with forward | rfl
  · exact .single (.fly forward inside)
  · exact .refl

/-- A call in flight runs to its end, whether the upload is cancelled on the way or not. -/
theorem fly_to_end {attempt answer start now done calls} {replies : Supply Reply}
    {c : Cancellation} (started : start ≤ now) (order : now ≤ done) :
    Moves timer policy payload
      ⟨.calling attempt answer done, now, c.observed start now, calls, replies⟩
      ⟨.calling attempt answer done, done, c.observed start done, calls, replies⟩ := by
  -- A cancellation that comes during the call parts its time in two.
  rcases c.observed_cases started order with same | ⟨moment, after, before, live, gone⟩
  · rw [same]
    exact fly_forward order (Nat.le_refl _)
  · rw [live, gone]
    exact ((fly_forward (Nat.le_of_lt after) before).tail .cancel).trans
      (fly_forward before (Nat.le_refl _))

/-- A run as the snapshot of an upload at its end, with the calls made before. -/
def RetryRun.snapshot (run : RetryRun) (start : Nat) (before : List Call) : Snapshot :=
  { phase := .returned run.ending, now := run.finish
    cancelled := run.cancellation.observed start run.finish
    calls := before ++ run.calls, replies := run.replies }

/-- At the start of a call the upload is cancelled by that call only. -/
theorem Cancellation.observed_afterCall {c : Cancellation} {start now : Nat} (reply : Reply)
    (started : start ≤ now) (quiet : c.isDue now = false) :
    (c.afterCall reply now).observed start now = if reply.cancels then some now else none := by
  cases flag : reply.cancels with
  | false =>
    simp only [afterCall, flag, Bool.false_eq_true, if_false]
    exact observed_of_quiet quiet
  | true =>
    simp only [afterCall, flag, if_true]
    cases c with
    | none =>
      simp only [latest, observed, Nat.le_refl, if_true]
      rw [Nat.max_eq_right started]
    | some moment =>
      have future : ¬ moment ≤ now := by simpa [isDue] using quiet
      have capped : min moment now = now := by omega
      simp only [latest, observed, capped, Nat.le_refl, if_true]
      rw [Nat.max_eq_right started]

/-- A call from its start to its end. -/
theorem call_to_end {attempt start now calls} {replies : Supply Reply} {c : Cancellation}
    (started : start ≤ now) (quiet : c.isDue now = false) :
    Moves timer policy payload ⟨.due attempt, now, c.observed start now, calls, replies⟩
      ⟨.calling attempt replies.head.answer (now + replies.head.latency),
        now + replies.head.latency,
        (c.afterCall replies.head now).observed start (now + replies.head.latency),
        calls ++ [{ start := now, payload }], replies.tail⟩ := by
  rw [Cancellation.observed_of_quiet quiet]
  refine .head .call (.trans ?_ (fly_to_end started (Nat.le_add_right now _)))
  rw [Cancellation.observed_afterCall replies.head started quiet]
  split
  · exact .single .cancel
  · exact .refl

/-- A wait that is cut short by a cancellation. -/
theorem wait_cut {attempt start now wake calls} {replies : Supply Reply} {c : Cancellation}
    (started : start ≤ now) (due : c.isDue wake = true) :
    Moves timer policy payload
      ⟨.waiting attempt wake, now, c.observed start now, calls, replies⟩
      ⟨.returned (.failed .cancelled), max now (c.getD wake),
        c.observed start (max now (c.getD wake)), calls, replies⟩ := by
  obtain ⟨moment, rfl, before, -⟩ := Cancellation.observed_of_due start due
  simp only [Option.getD_some]
  by_cases past : moment ≤ now
  · rw [Nat.max_eq_left past]
    simp only [Cancellation.observed, past, if_true]
    exact .single .interrupt
  · rw [Nat.max_eq_right (by omega)]
    simp only [Cancellation.observed, past, Nat.le_refl, if_false, if_true]
    rw [Nat.max_eq_right (by omega)]
    exact ((Relation.ReflTransGen.single (.rest (by omega) before)).tail .cancel).tail .interrupt

/-- A wait that is over before a cancellation. -/
theorem wait_over {attempt start now wake calls} {replies : Supply Reply} {c : Cancellation}
    (order : now ≤ wake) (quiet : c.isDue wake = false) :
    Moves timer policy payload
      ⟨.waiting attempt wake, now, c.observed start now, calls, replies⟩
      ⟨.due (attempt + 1), wake, c.observed start wake, calls, replies⟩ := by
  have earlier : c.isDue now = false := by
    cases c with
    | none => rfl
    | some moment =>
      simp only [Cancellation.isDue, decide_eq_false_iff_not] at quiet ⊢
      omega
  rw [Cancellation.observed_of_quiet quiet, Cancellation.observed_of_quiet earlier]
  rcases Nat.lt_or_eq_of_le order with early | rfl
  · exact (Relation.ReflTransGen.single (.rest early (Nat.le_refl _))).tail .elapse
  · exact .single .elapse

theorem moves_retryFrom {more attempt start now} {cancellation : Cancellation}
    {replies : Supply Reply} (calls : List Call) (budget : attempt + more = policy.budget)
    (started : start ≤ now) :
    Moves timer policy payload
      ⟨.due attempt, now, cancellation.observed start now, calls, replies⟩
      ((retryFrom timer policy payload more attempt now cancellation replies).snapshot start
        calls) := by
  -- The calls made before grow with each turn of the loop, so the induction is general in them.
  induction more, attempt, now, cancellation, replies using
    retryFrom_induct timer policy payload generalizing calls with
  | due more attempt now cancellation replies due run =>
    rw [run]
    obtain ⟨moment, -, -, gone⟩ := Cancellation.observed_of_due start due
    simp only [RetryRun.snapshot, gone, List.append_nil]
    exact .single .refuse
  | last more attempt now cancellation replies quiet last run =>
    rw [run]
    have final : RetryPhase.after timer policy attempt replies.head.answer
        (now + replies.head.latency) = .returned (replies.head.answer.conclusion attempt) := by
      refine if_neg fun again => ?_
      rcases last with final | none
      · rw [final] at again
        exact Bool.noConfusion again.1
      · omega
    simp only [RetryRun.snapshot, ← final]
    exact (call_to_end started quiet).tail .answer
  | cut more attempt now cancellation replies quiet transient later run =>
    rw [run]
    have again : RetryPhase.after timer policy attempt replies.head.answer
        (now + replies.head.latency)
        = .waiting attempt (wakeAfter timer policy attempt (now + replies.head.latency)) :=
      if_pos ⟨transient, by omega⟩
    refine ((call_to_end started quiet).tail .answer).trans ?_
    rw [again]
    exact wait_cut (Nat.le_add_right_of_le started) later
  | again more attempt now cancellation replies quiet transient later run ih =>
    rw [run]
    have again : RetryPhase.after timer policy attempt replies.head.answer
        (now + replies.head.latency)
        = .waiting attempt (wakeAfter timer policy attempt (now + replies.head.latency)) :=
      if_pos ⟨transient, by omega⟩
    refine ((call_to_end started quiet).tail .answer).trans ?_
    rw [again]
    refine (wait_over (le_wakeAfter timer policy attempt _) later).trans ?_
    have rest := ih (calls ++ [{ start := now, payload }]) (by omega)
      (Nat.le_trans (Nat.le_add_right_of_le started) (le_wakeAfter timer policy attempt _))
    simpa only [RetryRun.snapshot, RetryRun.after, List.append_assoc, List.singleton_append]
      using rest

/-- An upload that is cancelled at some moment, or by one of its calls, takes one of the ways that
the moves leave open, and is cancelled at that moment on it. -/
theorem moves_uploadWithRetries (timer : Timer) (policy : RetryPolicy) (payload : ByteArray)
    (start : Nat) (cancellation : Cancellation) (replies : Supply Reply) :
    Moves timer policy payload (.begin start replies)
      ((uploadWithRetries timer policy payload start cancellation replies).snapshot start []) := by
  have budget : 1 + (policy.budget - 1) = policy.budget := by
    have := policy.budget_pos
    omega
  refine .trans ?_ (moves_retryFrom [] budget (Nat.le_refl start))
  cases due : cancellation.isDue start with
  | false =>
    rw [Cancellation.observed_of_quiet due]
    exact .refl
  | true =>
    obtain ⟨moment, -, past, gone⟩ := Cancellation.observed_of_due start due
    rw [gone, Nat.max_eq_left past]
    exact .single .cancel

/-! ## The law of cancellation -/

/-- The moment at which an upload that is cancelled now can return: now, or after the call in
flight. -/
def Snapshot.released (s : Snapshot) : Nat :=
  match s.phase with
  | .calling _ _ done => max s.now done
  | _ => s.now

/-- What it means that a cancellation at `s` is honoured in what follows, of which `t` is a
snapshot: `whole` is the upload if nobody cancels it. -/
structure Honoured (timer : Timer) (policy : RetryPolicy) (payload : ByteArray) (whole : RetryRun)
    (s t : Snapshot) : Prop where
  /-- No call starts after the cancellation. -/
  calls : t.calls = s.calls
  /-- The calls made are those that the upload would have made before it. -/
  begun : s.calls <+: whole.calls
  before : ∀ call ∈ s.calls, call.start ≤ s.now
  after : ∀ call ∈ whole.calls.drop s.calls.length, s.now ≤ call.start
  /-- The upload goes on until it returns. -/
  returns : ∃ u, Moves timer policy payload t u ∧ u.ending?.isSome = true
  /-- It does not return while a call is in flight. -/
  completed : ∀ attempt answer done, s.phase = .calling attempt answer done →
    ∀ ending, t.ending? = some ending → done ≤ t.now
  /-- A call in flight is the last one of the upload if its answer is not transient, or if no
  attempt is left. -/
  decided : ∀ attempt answer done, s.phase = .calling attempt answer done →
    answer.isTransient = false ∨ policy.budget ≤ attempt → s.calls = whole.calls
  /-- Where no call would have followed, the upload ends as if nobody had cancelled it. -/
  unchanged : s.calls = whole.calls →
    ∀ ending, t.ending? = some ending → ending = whole.ending ∧ t.now = whole.finish
  /-- It ends as cancelled where another call would have followed, and only there. -/
  cancelled : ∀ ending, t.ending? = some ending →
    (ending = .failed .cancelled ↔ s.calls.length < whole.calls.length)
  /-- Then it ends without waiting for anything but the call in flight. -/
  prompt : t.ending? = some (.failed .cancelled) → t.now = s.released

theorem start_le_of_mem_retryFrom {more attempt now : Nat} {cancellation : Cancellation}
    {replies : Supply Reply} {call : Call}
    (made : call ∈ (retryFrom timer policy payload more attempt now cancellation replies).calls) :
    now ≤ call.start := by
  induction more, attempt, now, cancellation, replies using
    retryFrom_induct timer policy payload with
  | due more attempt now cancellation replies due run =>
    rw [run] at made
    exact absurd made List.not_mem_nil
  | last more attempt now cancellation replies quiet last run =>
    rw [run] at made
    rw [List.mem_singleton.mp made]
  | cut more attempt now cancellation replies quiet transient later run =>
    rw [run] at made
    rw [List.mem_singleton.mp made]
  | again more attempt now cancellation replies quiet transient later run ih =>
    rw [run] at made
    rcases List.mem_cons.mp made with first | rest
    · rw [first]
    · exact Nat.le_trans (Nat.le_trans (Nat.le_add_right _ _) (le_wakeAfter timer policy attempt _))
        (ih rest)

/-- An upload that nobody cancels makes the attempt that is due. -/
theorem calls_ne_nil {more attempt now : Nat} {replies : Supply Reply} :
    (retryFrom timer policy payload more attempt now none replies.undisturbed).calls ≠ [] := by
  rw [retryFrom_undisturbed]
  exact List.cons_ne_nil _ _

namespace Snapshot

theorem start_le_of_mem_future (timely : s.Timely) {call : Call}
    (made : call ∈ (s.future timer policy payload).calls) : s.now ≤ call.start := by
  obtain ⟨phase, now, cancelled, calls, replies⟩ := s
  cases phase with
  | due attempt => exact start_le_of_mem_retryFrom made
  | calling attempt answer done =>
    have early : now ≤ done := timely.calling _ _ _ rfl
    by_cases again : answer.isTransient = true ∧ attempt < policy.budget
    · simp only [future] at made
      rw [resume_within_budget again rfl] at made
      exact Nat.le_trans early (Nat.le_trans (le_wakeAfter timer policy attempt done)
        (start_le_of_mem_retryFrom made))
    · simp only [future, resume_over again] at made
      exact absurd made List.not_mem_nil
  | waiting attempt wake =>
    exact Nat.le_trans (timely.waiting _ _ rfl) (start_le_of_mem_retryFrom made)
  | returned ending => exact absurd made List.not_mem_nil

theorem verdict_of_ending {ending : Ending Receipt} (h : s.ending? = some ending) :
    s.verdict policy = (ending, s.now) := by
  obtain ⟨phase, now, cancelled, calls, replies⟩ := s
  cases phase with
  | due attempt => simp [ending?] at h
  | calling attempt answer done => simp [ending?] at h
  | waiting attempt wake => simp [ending?] at h
  | returned e =>
    rw [show e = ending from Option.some.inj h]
    rfl

/-- Either the upload makes no other call, and it makes no difference to cancel it, or it makes
one, and it is cancelled as soon as it can be. -/
theorem future_or_cancelled (timer : Timer) (policy : RetryPolicy) (payload : ByteArray)
    (timely : s.Timely) :
    (s.future timer policy payload).calls = [] ∧
        s.verdict policy = ((s.future timer policy payload).ending,
          (s.future timer policy payload).finish) ∨
      (s.future timer policy payload).calls ≠ [] ∧
        s.verdict policy = (.failed .cancelled, s.released) := by
  obtain ⟨phase, now, cancelled, calls, replies⟩ := s
  cases phase with
  | due attempt =>
    exact Or.inr ⟨calls_ne_nil, rfl⟩
  | calling attempt answer done =>
    by_cases again : answer.isTransient = true ∧ attempt < policy.budget
    · right
      have early : max now done = done := Nat.max_eq_right (timely.calling _ _ _ rfl)
      simp only [future, verdict, released, again, and_self, if_true, early]
      rw [resume_within_budget again rfl]
      exact ⟨calls_ne_nil, trivial⟩
    · left
      simp only [future, verdict, again, if_false, resume_over again, and_self]
  | waiting attempt wake =>
    exact Or.inr ⟨calls_ne_nil, rfl⟩
  | returned ending => exact Or.inl ⟨rfl, rfl⟩

/-- An upload that nobody cancels makes the calls that it has made and those to come. -/
theorem calls_whole (s : Snapshot) :
    (s.whole timer policy payload).calls = s.calls ++ (s.future timer policy payload).calls := rfl

theorem calls_eq_calls_whole_iff :
    s.calls = (s.whole timer policy payload).calls ↔
      (s.future timer policy payload).calls = [] := by
  rw [calls_whole]
  exact List.self_eq_append_right

theorem length_calls_lt_iff :
    s.calls.length < (s.whole timer policy payload).calls.length ↔
      (s.future timer policy payload).calls ≠ [] := by
  rw [calls_whole, List.length_append, ← List.length_pos_iff]
  omega

theorem calls_future_eq_nil {attempt done : Nat} {answer : Answer}
    (phase : s.phase = .calling attempt answer done)
    (last : answer.isTransient = false ∨ policy.budget ≤ attempt) :
    (s.future timer policy payload).calls = [] := by
  have ended : ¬ (answer.isTransient = true ∧ attempt < policy.budget) := by
    rintro ⟨transient, within⟩
    rcases last with final | spent
    · rw [transient] at final
      exact Bool.noConfusion final
    · exact absurd within (Nat.not_lt.mpr spent)
  simp only [future, phase]
  rw [resume_over ended]

/-- An upload that is cancelled where no call would have followed ends as if nobody had cancelled
it. -/
theorem unchanged_of_calls (timely : s.Timely)
    (none : (s.future timer policy payload).calls = []) {ending : Ending Receipt} {now : Nat}
    (verdict : s.verdict policy = (ending, now)) :
    ending = (s.whole timer policy payload).ending ∧
      now = (s.whole timer policy payload).finish := by
  rcases s.future_or_cancelled timer policy payload timely with ⟨-, decided⟩ | ⟨some, -⟩
  · rw [verdict] at decided
    exact Prod.mk.inj decided
  · exact absurd none some

/-- What happens to an upload that is cancelled where it stands honours the cancellation. -/
theorem honoured (timely : s.Timely) (alone : (s.whole timer policy payload).ending
      ≠ .failed .cancelled) (after : Moves timer policy payload s.cancel t) :
    Honoured timer policy payload (s.whole timer policy payload) s t := by
  -- No move after the cancellation changes the verdict, so it tells how `t` ends, and when.
  obtain ⟨verdict, calls, -⟩ := verdict_of_moves after rfl
  have past : s.cancel.Timely := ⟨timely.started, timely.calling, timely.waiting⟩
  have ended : ∀ ending, t.ending? = some ending → s.verdict policy = (ending, t.now) := by
    intro ending returned
    rw [← verdict_of_ending returned, verdict]
    rfl
  refine ⟨calls, ⟨_, rfl⟩, timely.started, ?_, ?_, ?_, ?_, ?_, ?_, ?_⟩
  · intro call made
    rw [calls_whole, List.drop_left] at made
    exact s.start_le_of_mem_future timely made
  · exact exists_returned (timely_of_moves after past)
  · intro attempt answer done phase ending returned
    have ended := ended ending returned
    simp only [Snapshot.verdict, phase] at ended
    exact Nat.le_of_eq (Prod.mk.inj ended).2
  · intro attempt answer done phase last
    exact calls_eq_calls_whole_iff.mpr (calls_future_eq_nil phase last)
  · intro none ending returned
    exact unchanged_of_calls timely (calls_eq_calls_whole_iff.mp none) (ended ending returned)
  · intro ending returned
    rw [length_calls_lt_iff]
    rcases s.future_or_cancelled timer policy payload timely with ⟨none, -⟩ | ⟨some, cut⟩
    · obtain ⟨kept, -⟩ := unchanged_of_calls timely none (ended ending returned)
      exact iff_of_false (fun same => alone (kept.symm.trans same)) (fun some => some none)
    · rw [ended ending returned] at cut
      exact iff_of_true (Prod.mk.inj cut).1 some
  · intro returned
    rcases s.future_or_cancelled timer policy payload timely with ⟨none, -⟩ | ⟨-, cut⟩
    · obtain ⟨kept, -⟩ := unchanged_of_calls timely none (ended _ returned)
      exact absurd kept.symm alone
    · rw [ended _ returned] at cut
      exact (Prod.mk.inj cut).2

end Snapshot

/-- However an upload with retries got to where it stands, and whatever happens after it is
cancelled there, the cancellation is honoured.  Nothing can happen for ever.  The upload that is
cancelled by the clock, or by one of its calls, is one that can happen. -/
theorem cancellation_honoured (timer : Timer) (policy : RetryPolicy) (payload : ByteArray)
    (start : Nat) (replies : Supply Reply) :
    (∀ s t, Moves timer policy payload (.begin start replies) s → s.cancelled = none →
      Moves timer policy payload s.cancel t →
      Honoured timer policy payload
        (uploadWithRetries timer policy payload start none replies.undisturbed) s t) ∧
    (WellFounded fun t s => Move timer policy payload s t) ∧
    ∀ cancellation, Moves timer policy payload (.begin start replies)
      ((uploadWithRetries timer policy payload start cancellation replies).snapshot start []) := by
  refine ⟨fun s t reached live after => ?_, move_wellFounded timer policy payload,
    fun cancellation => moves_uploadWithRetries timer policy payload start cancellation replies⟩
  have timely := timely_of_moves reached (timely_begin start replies)
  have whole : uploadWithRetries timer policy payload start none replies.undisturbed
      = s.whole timer policy payload := (whole_of_moves reached live).symm
  have alone : (s.whole timer policy payload).ending ≠ .failed .cancelled := by
    rw [← whole]
    exact retryFrom_ending_ne_cancelled fun k => rfl
  rw [whole]
  exact s.honoured timely alone after

/-- A host that takes a while to say that it is away. -/
def slowReplies : Supply Reply := { item := fun _ => { Reply.unavailable with latency := 20 } }

/-- A policy without waits. -/
def hastyPolicy : RetryPolicy := { initialBackoff := .ofMillis 0 }

/-- Cancelled during its first call, an upload finds its wait over and cancelled at one moment.
Where the wait is noticed first, the cancellation is honoured before the next call, and where it is
not, at once. -/
theorem cancellation_honoured_either_way :
    ∃ s first second,
      Moves .exact hastyPolicy ⟨#[1]⟩ (.begin 0 slowReplies) s ∧ s.cancelled = none ∧
      Moves .exact hastyPolicy ⟨#[1]⟩ s.cancel first ∧ first.phase = .due 2 ∧
      Moves .exact hastyPolicy ⟨#[1]⟩ s.cancel second ∧
        second.ending? = some (.failed .cancelled) ∧
      ∀ t, t = first ∨ t = second → Honoured .exact hastyPolicy ⟨#[1]⟩
        (uploadWithRetries .exact hastyPolicy ⟨#[1]⟩ 0 none slowReplies.undisturbed) s t := by
  have law := (cancellation_honoured .exact hastyPolicy ⟨#[1]⟩ 0 slowReplies).1
  have wait : RetryPhase.after .exact hastyPolicy 1 slowReplies.head.answer 20 = .waiting 1 20 := by
    have within : 1 < hastyPolicy.budget := by decide
    have wake : wakeAfter .exact hastyPolicy 1 20 = 20 := by decide +kernel
    rw [RetryPhase.after, if_pos ⟨rfl, within⟩, wake]
  let call : Call := { start := 0, payload := ⟨#[1]⟩ }
  have reached : Moves .exact hastyPolicy ⟨#[1]⟩ (.begin 0 slowReplies)
      ⟨.calling 1 slowReplies.head.answer 20, 5, none, [call], slowReplies.tail⟩ :=
    .tail (.single .call) (.fly (by decide) (by decide))
  have waiting : Moves .exact hastyPolicy ⟨#[1]⟩
      ⟨.calling 1 slowReplies.head.answer 20, 5, some 5, [call], slowReplies.tail⟩
      ⟨.waiting 1 20, 20, some 5, [call], slowReplies.tail⟩ := by
    rw [← wait]
    exact .tail (.single (.fly (by decide) (by decide))) .answer
  refine ⟨_, ⟨.due 2, 20, some 5, [call], slowReplies.tail⟩,
    ⟨.returned (.failed .cancelled), 20, some 5, [call], slowReplies.tail⟩, reached, rfl,
    waiting.tail .elapse, rfl, waiting.tail .interrupt, rfl, ?_⟩
  rintro t (rfl | rfl)
  · exact law _ _ reached rfl (waiting.tail .elapse)
  · exact law _ _ reached rfl (waiting.tail .interrupt)

end AvatarVault
