import AvatarVault.Proofs.Upload.Tracks
/-!
Uploads come to their ends.  An upload is over once it has had its steps, whatever the schedule
(`resolved_of_count`).  `Fleet.run` takes the steps by the clock, which is one of the possible
orders (`exists_follow_eq_run`), and the steps that it allows are enough for all uploads
(`outcome?_run`).
-/
namespace AvatarVault

variable {cipher : Aead} {p : Pipeline} {clock : Nat → UInt64} {f : Fleet} {t t' : Task}
  {q : UploadRequest} {i j : Nat} {queue : List Nat}

/-! ## The steps of one upload -/

/-- The largest number of steps that an upload still takes. -/
def Task.stepsLeft (p : Pipeline) (t : Task) : Nat :=
  match t.stage with
  | .fresh => Fleet.stepLimit p
  | .due _ attempt => 2 * (p.policy.budget - attempt) + 4
  | .calling _ attempt _ => 2 * (p.policy.budget - attempt) + 3
  | .stored _ _ => 2
  | .recorded _ => 1
  | .finished _ => 0

theorem Task.stepsLeft_receive (avatar : SealedAvatar) (attempt : Nat) (answer : Answer) :
    (t.receive p avatar attempt answer).stepsLeft p ≤ 2 * (p.policy.budget - attempt) + 2 := by
  fun_cases receive p t avatar attempt answer with
  | case1 id => exact Nat.le_add_left _ _
  | case2 => exact Nat.zero_le _
  | case3 cause final => exact Nat.zero_le _
  | case4 cause transient spent => exact Nat.zero_le _
  | case5 cause transient within =>
    simp only [stepsLeft]
    omega

theorem Task.stepsLeft_step (t : Task) (r : Resources) :
    (t.step cipher p clock r).task.stepsLeft p ≤ t.stepsLeft p - 1 := by
  cases standing : t.stage with
  | fresh =>
    have := p.policy.budget_pos
    simp only [step, standing]
    split
    · exact Nat.zero_le _
    · simp only [stepsLeft, standing, Fleet.stepLimit]
      omega
  | due avatar attempt =>
    simp only [step, standing]
    split
    · exact Nat.zero_le _
    · simp only [stepsLeft, standing]
      omega
  | calling avatar attempt answer =>
    simp only [step, standing]
    rw [show t.stepsLeft p = 2 * (p.policy.budget - attempt) + 3 by simp only [stepsLeft, standing]]
    exact stepsLeft_receive avatar attempt answer
  | stored avatar receipt =>
    simp only [step, standing, stepsLeft]
    exact Nat.le_refl 1
  | recorded s =>
    simp only [step, standing]
    exact Nat.zero_le _
  | finished ending =>
    simp only [step, standing, stepsLeft]
    exact Nat.zero_le _

theorem Task.ending?_of_stepsLeft (closed : t.stepsLeft p = 0) : t.ending?.isSome = true := by
  unfold stepsLeft at closed
  unfold ending?
  cases standing : t.stage with
  | finished ending => rfl
  | _ => simp [standing, Fleet.stepLimit] at closed

theorem stepsLeft_follow {requests : List UploadRequest} (asked : requests[i]? = some q)
    (resources : Resources) (schedule : List Nat) :
    ∃ t, (((Fleet.launch requests resources).follow cipher p clock schedule).track i).task
        = some t ∧ t.stepsLeft p ≤ Fleet.stepLimit p - schedule.count i := by
  induction schedule using List.reverseRecOn with
  | nil => exact ⟨q.task, task_launch asked resources, Nat.le_refl _⟩
  | append_singleton schedule j ih =>
    obtain ⟨t, standing, left⟩ := ih
    rw [Fleet.follow_append_singleton, List.count_append]
    by_cases own : i = j
    · subst own
      rw [Fleet.track_advance standing, List.count_singleton_self]
      exact ⟨_, rfl, Nat.le_trans (t.stepsLeft_step _) (by omega)⟩
    · rw [Fleet.track_advance_of_ne own, List.count_singleton, if_neg (by simpa using Ne.symm own)]
      exact ⟨t, standing, left⟩

/-- An upload that gets its steps comes to its end. -/
theorem resolved_of_count {requests : List UploadRequest} (asked : requests[i]? = some q)
    (resources : Resources) {schedule : List Nat} (steps : Fleet.stepLimit p ≤ schedule.count i) :
    ((((Fleet.launch requests resources).follow cipher p clock schedule).track i).resolved?
      q).isSome = true := by
  obtain ⟨t, standing, left⟩ := stepsLeft_follow asked resources schedule
  rw [Nat.sub_eq_zero_of_le steps] at left
  rw [Track.resolved?, standing]
  simpa using Task.ending?_of_stepsLeft (Nat.le_zero.mp left)

/-! ## Uploads run by the clock -/

namespace Fleet

/-- Uploads that are run by the clock take their steps in one of the possible orders. -/
theorem exists_follow_eq_run (cipher : Aead) (p : Pipeline) (clock : Nat → UInt64) (f : Fleet) :
    ∃ schedule, f.run cipher p clock = f.follow cipher p clock schedule := by
  unfold run
  generalize f.tasks.length * stepLimit p = fuel
  generalize List.range f.tasks.length = queue
  induction fuel generalizing queue f with
  | zero => exact ⟨[], rfl⟩
  | succ fuel ih =>
    unfold runQueue
    cases f.next? queue with
    | none => exact ⟨[], rfl⟩
    | some i =>
      obtain ⟨schedule, run⟩ := ih (f.advance cipher p clock i) _
      exact ⟨i :: schedule, run⟩

/-! ## The choice of the next step -/

theorem going_of_moment? {moment : Nat} (h : f.moment? i = some moment) :
    ∃ t, f.tasks[i]? = some t ∧ t.ending? = none := by
  unfold moment? at h
  cases standing : f.tasks[i]? with
  | none => simp [standing] at h
  | some t =>
    simp only [standing] at h
    split at h
    · exact nomatch h
    · rename_i going
      exact ⟨t, rfl, Option.not_isSome_iff_eq_none.mp going⟩

theorem moment?_of_going (standing : f.tasks[i]? = some t) (going : t.ending? = none) :
    f.moment? i = some t.moment := by
  simp [moment?, standing, going]

theorem sooner_of_none (gone : f.moment? i = none) (best : Option (Nat × Nat)) :
    f.sooner best i = best := by
  unfold sooner
  rw [gone]
  cases best with
  | none => rfl
  | some choice => rfl

theorem sooner_of_some {moment : Nat} (going : f.moment? i = some moment)
    (best : Option (Nat × Nat)) :
    f.sooner best i = some (i, moment) ∨ best.isSome = true ∧ f.sooner best i = best := by
  unfold sooner
  rw [going]
  cases best with
  | none => exact Or.inl rfl
  | some choice =>
    by_cases less : moment < choice.2
    · exact Or.inl (if_pos less)
    · exact Or.inr ⟨rfl, if_neg less⟩

/-- The choice is an upload that goes on, and there is one unless all are over. -/
theorem foldl_sooner (f : Fleet) (queue : List Nat) (best : Option (Nat × Nat)) :
    (∀ choice, queue.foldl f.sooner best = some choice →
      best = some choice ∨ f.moment? choice.1 = some choice.2) ∧
    (queue.foldl f.sooner best = none → best = none ∧ ∀ i ∈ queue, f.moment? i = none) := by
  induction queue generalizing best with
  | nil => exact ⟨fun choice same => Or.inl same, fun none => ⟨none, by simp⟩⟩
  | cons i queue ih =>
    rw [List.foldl_cons]
    obtain ⟨chosen, nobody⟩ := ih (f.sooner best i)
    cases going : f.moment? i with
    | none =>
      rw [sooner_of_none going] at chosen nobody ⊢
      refine ⟨chosen, fun none => ⟨(nobody none).1, fun j mem => ?_⟩⟩
      rcases List.mem_cons.mp mem with rfl | mem
      · exact going
      · exact (nobody none).2 j mem
    | some moment =>
      rcases sooner_of_some going best with taken | ⟨some, kept⟩
      · rw [taken] at chosen nobody ⊢
        refine ⟨fun choice same => Or.inr ?_, fun none => nomatch (nobody none).1⟩
        rcases chosen choice same with own | later
        · rw [← Option.some.inj own]
          exact going
        · exact later
      · rw [kept] at chosen nobody ⊢
        refine ⟨chosen, fun none => ?_⟩
        rw [(nobody none).1] at some
        exact nomatch some

theorem next?_eq_some (next : f.next? queue = some i) :
    ∃ t, f.tasks[i]? = some t ∧ t.ending? = none := by
  obtain ⟨⟨_, moment⟩, chosen, rfl⟩ := Option.map_eq_some_iff.mp next
  rcases (f.foldl_sooner queue none).1 _ chosen with absent | going
  · exact nomatch absent
  · exact going_of_moment? going

theorem next?_eq_none (next : f.next? queue = none) : ∀ i ∈ queue, f.moment? i = none :=
  ((f.foldl_sooner queue none).2 (Option.map_eq_none_iff.mp next)).2

theorem mem_requeue {g : Fleet} (mem : j ∈ queue) : j ∈ requeue f g queue i := by
  unfold requeue
  split
  · exact mem
  · by_cases same : j = i
    · subst same
      exact List.mem_append_right _ (List.mem_singleton_self j)
    · exact List.mem_append_left _ ((List.mem_erase_of_ne same).mpr mem)

/-! ## Enough steps for all -/

/-- The largest number of steps that all uploads together still take. -/
def stepsLeft (p : Pipeline) (tasks : List Task) : Nat :=
  tasks.foldr (fun t left => t.stepsLeft p + left) 0

theorem stepsLeft_set {tasks : List Task} (standing : tasks[i]? = some t)
    (less : t'.stepsLeft p < t.stepsLeft p) :
    stepsLeft p (tasks.set i t') < stepsLeft p tasks := by
  induction tasks generalizing i with
  | nil => exact nomatch standing
  | cons task tasks ih =>
    cases i with
    | zero =>
      obtain rfl : task = t := Option.some.inj standing
      exact Nat.add_lt_add_right less _
    | succ i => exact Nat.add_lt_add_left (ih standing) _

theorem stepsLeft_advance (standing : f.tasks[i]? = some t) (going : t.ending? = none) :
    stepsLeft p (f.advance cipher p clock i).tasks < stepsLeft p f.tasks := by
  rw [tasks_advance standing]
  refine stepsLeft_set standing ?_
  have left : 0 < t.stepsLeft p := by
    refine Nat.pos_of_ne_zero fun none => ?_
    have ended := Task.ending?_of_stepsLeft none
    rw [going] at ended
    exact nomatch ended
  exact Nat.lt_of_le_of_lt (t.stepsLeft_step f.resources) (Nat.sub_lt left Nat.one_pos)

/-- Where enough steps are allowed, all uploads of the queue come to their ends. -/
theorem runQueue_ends {fuel : Nat} (enough : stepsLeft p f.tasks ≤ fuel) (mem : i ∈ queue) :
    (runQueue cipher p clock fuel queue f).moment? i = none := by
  -- Each step takes away one of the steps left, so they fit the fuel until there is none of either.
  induction fuel generalizing queue f with
  | zero =>
    cases going : f.moment? i with
    | none => exact going
    | some moment =>
      obtain ⟨t, standing, going⟩ := going_of_moment? going
      have less : stepsLeft p (f.advance cipher p clock i).tasks < stepsLeft p f.tasks :=
        stepsLeft_advance standing going
      exact absurd (Nat.lt_of_lt_of_le less enough) (Nat.not_lt_zero _)
  | succ fuel ih =>
    unfold runQueue
    cases next : f.next? queue with
    | none => exact next?_eq_none next i mem
    | some j =>
      obtain ⟨t, standing, going⟩ := next?_eq_some next
      have less : stepsLeft p (f.advance cipher p clock j).tasks < stepsLeft p f.tasks :=
        stepsLeft_advance standing going
      exact ih (Nat.le_of_lt_succ (Nat.lt_of_lt_of_le less enough)) (mem_requeue mem)

theorem stepsLeft_launch (requests : List UploadRequest) (resources : Resources) :
    stepsLeft p (launch requests resources).tasks = requests.length * stepLimit p := by
  induction requests with
  | nil => simp [stepsLeft, launch]
  | cons q requests ih =>
    rw [List.length_cons, Nat.succ_mul, ← ih, Nat.add_comm]
    rfl

/-- All uploads that are run by the clock come to their ends. -/
theorem outcome?_run (requests : List UploadRequest) (resources : Resources)
    (within : i < requests.length) :
    (((launch requests resources).run cipher p clock).outcome? requests i).isSome = true := by
  have asked : requests[i]? = some requests[i] := List.getElem?_eq_getElem within
  have tasks : (launch requests resources).tasks.length = requests.length := List.length_map _
  have ends : ((launch requests resources).run cipher p clock).moment? i = none := by
    have enough : stepsLeft p (launch requests resources).tasks
        = (launch requests resources).tasks.length * stepLimit p := by
      rw [stepsLeft_launch, tasks]
    unfold run
    refine runQueue_ends (Nat.le_of_eq enough) ?_
    rw [tasks]
    exact List.mem_range.mpr within
  obtain ⟨schedule, run⟩ := exists_follow_eq_run cipher p clock (launch requests resources)
  rw [run] at ends ⊢
  obtain ⟨t, begun⟩ := begun_follow asked resources schedule
  rw [outcome?_eq asked begun.task]
  cases going : t.ending? with
  | none => exact nomatch ends.symm.trans (moment?_of_going begun.task going)
  | some ending => rfl

end Fleet

end AvatarVault
