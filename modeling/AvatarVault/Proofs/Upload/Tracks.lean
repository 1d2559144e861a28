import Mathlib.Data.List.Induction
import Mathlib.Data.List.Perm.Basic
import AvatarVault.Proofs.Upload.Alone
/-!
Uploads side by side, one of them looked at.  A track is what a fleet holds of one upload.  A step
of another upload leaves it as it is (`track_advance_of_ne`), a step of its own adds what the step
does (`track_advance`).  So after any schedule a track tells the beginning of what the upload does
alone with what it drew (`begun_follow`).
-/
namespace AvatarVault

/-- An upload that is asked for. -/
structure UploadRequest where
  plaintext : ByteArray
  entry : Entry
  /-- When it starts. -/
  start : Nat := 0
  cancellation : Cancellation := none

/-- The upload before its first step. -/
def UploadRequest.task (q : UploadRequest) : Task :=
  { plaintext := q.plaintext, key := q.entry.key, cancellation := q.cancellation
    moment := q.start }

/-- The upload with the resources for itself. -/
def UploadRequest.alone (q : UploadRequest) (cipher : Aead) (p : Pipeline) (clock : Nat → UInt64)
    (own : Resources) : UploadRun :=
  p.enter cipher clock q.plaintext q.start q.cancellation own q.entry

/-- Whether the upload gets a task of its own. -/
def Entry.isSpawned : Entry → Bool
  | .run _ => false
  | .upload _ => true
  | .withProvider _ => true
  | .withAnswer _ => true

/-- What the one who started an upload gets from its end: a task of its own turns a breakdown into
a failure. -/
def Entry.resolve (entry : Entry) (ending : Ending UploadSuccess) : Ending UploadSuccess :=
  if entry.isSpawned then
    match ending.settle with
    | .ok s => .succeeded s
    | .error e => .failed e
  else ending

theorem UploadRequest.alone_eq (q : UploadRequest) (cipher : Aead) (p : Pipeline)
    (clock : Nat → UInt64) (own : Resources) :
    q.alone cipher p clock own =
      { q.task.rest cipher p clock own with
        ending := q.entry.resolve (q.task.rest cipher p clock own).ending } := by
  unfold UploadRequest.alone UploadRequest.task
  cases q.entry with
  | run key => rfl
  | upload key => rfl
  | withProvider provider => rfl
  | withAnswer answer => rfl

/-- What a fleet holds of one upload. -/
structure Track where
  task : Option Task
  /-- The headers that it drew. -/
  headers : List (Bytes 24)
  /-- Its calls, each with its reply. -/
  exchanges : List (Call × Reply)
  /-- The records that it made. -/
  records : List UploadMetadata

namespace Track

def calls (k : Track) : List Call := k.exchanges.map (·.1)

def replies (k : Track) : List Reply := k.exchanges.map (·.2)

/-- How the upload resolved, if it is over. -/
def resolved? (k : Track) (q : UploadRequest) : Option (Ending UploadSuccess) :=
  k.task.bind fun t => t.ending?.map q.entry.resolve

/-- The track after a step of the upload. -/
def push (k : Track) (r : Resources) (s : StepResult) : Track :=
  { task := some s.task, headers := k.headers ++ s.headers r
    exchanges := k.exchanges ++ s.call.toList, records := k.records ++ s.record.toList }

/-- Whether resources begin with what the upload drew. -/
def Fed (k : Track) (own : Resources) : Prop :=
  own.ivs.take k.headers.length = k.headers ∧ own.replies.take k.replies.length = k.replies

/-- What the upload drew, with others after it. -/
def own (k : Track) (header : Bytes 24) (reply : Reply) : Resources :=
  { ivs := .ofList k.headers header, replies := .ofList k.replies reply }

/-- The resources without what the upload drew. -/
def leftOf (k : Track) (own : Resources) : Resources :=
  { ivs := own.ivs.drop k.headers.length, replies := own.replies.drop k.replies.length }

end Track

/-- The entries of a log that belong to the upload at place `i`. -/
def entriesOf {α : Type} (log : List (Nat × α)) (i : Nat) : List α :=
  (log.filter fun entry => entry.1 == i).map (·.2)

namespace Fleet

/-- The uploads that are asked for, before their first steps. -/
def launch (requests : List UploadRequest) (resources : Resources) : Fleet :=
  { tasks := requests.map UploadRequest.task, resources }

/-- The calls, each with its reply and the place of its upload. -/
def callLog (f : Fleet) : List (Nat × Call × Reply) :=
  f.exchanges.map fun e => (e.upload, e.call, e.reply)

/-- What the fleet holds of the upload at place `i`. -/
def track (f : Fleet) (i : Nat) : Track :=
  { task := f.tasks[i]?, headers := entriesOf f.headers i, exchanges := entriesOf f.callLog i
    records := entriesOf f.records i }

/-- How the upload at place `i` resolved, if it is over. -/
def outcome? (requests : List UploadRequest) (f : Fleet) (i : Nat) :
    Option (Ending UploadSuccess) :=
  requests[i]?.bind (f.track i).resolved?

end Fleet

/-! ## Logs -/

section

variable {α : Type}

theorem entriesOf_append (log log' : List (Nat × α)) (i : Nat) :
    entriesOf (log ++ log') i = entriesOf log i ++ entriesOf log' i := by
  simp only [entriesOf, List.filter_append, List.map_append]

theorem entriesOf_tagged (l : List α) (i : Nat) :
    entriesOf (l.map fun x => (i, x)) i = l := by
  simp [entriesOf, List.filter_map, Function.comp_def]

theorem entriesOf_tagged_of_ne (l : List α) {i j : Nat} (ne : i ≠ j) :
    entriesOf (l.map fun x => (j, x)) i = [] := by
  simp [entriesOf, List.filter_map, Function.comp_def, ne.symm]

theorem entriesOf_cons (entry : Nat × α) (log : List (Nat × α)) (i : Nat) :
    entriesOf (entry :: log) i = entriesOf [entry] i ++ entriesOf log i :=
  entriesOf_append [entry] log i

theorem flatMap_entriesOf_singleton {entry : Nat × α} {n : Nat} (within : entry.1 < n) :
    ((List.range n).flatMap fun i => (entriesOf [entry] i).map fun x => (i, x)) = [entry] := by
  obtain ⟨j, x⟩ := entry
  induction n with
  | zero => exact absurd within (Nat.not_lt_zero j)
  | succ n ih =>
    rw [List.range_succ, List.flatMap_append, List.flatMap_singleton]
    rcases Nat.lt_succ_iff_lt_or_eq.mp within with less | rfl
    · have other : entriesOf [(j, x)] n = [] := entriesOf_tagged_of_ne [x] (Nat.ne_of_gt less)
      rw [ih less, other]
      rfl
    · have others : ((List.range j).flatMap fun i =>
          (entriesOf [(j, x)] i).map fun x => (i, x)) = [] := by
        refine List.flatMap_eq_nil_iff.mpr fun i mem => ?_
        have other : entriesOf [(j, x)] i = [] :=
          entriesOf_tagged_of_ne [x] (Nat.ne_of_lt (List.mem_range.mp mem))
        rw [other]
        rfl
      have own : entriesOf [(j, x)] j = [x] := entriesOf_tagged [x] j
      rw [others, own]
      rfl

theorem within_append {log : List (Nat × α)} {l : List α} {j n : Nat}
    (before : ∀ entry ∈ log, entry.1 < n) (within : j < n) :
    ∀ entry ∈ log ++ l.map fun x => (j, x), entry.1 < n := by
  intro entry mem
  rcases List.mem_append.mp mem with old | new
  · exact before entry old
  · obtain ⟨x, -, rfl⟩ := List.mem_map.mp new
    exact within

/-- A log holds the entries of each upload, in some order. -/
theorem perm_entriesOf {log : List (Nat × α)} {n : Nat} (within : ∀ entry ∈ log, entry.1 < n) :
    log.Perm ((List.range n).flatMap fun i => (entriesOf log i).map fun x => (i, x)) := by
  induction log with
  | nil => simp [entriesOf]
  | cons entry log ih =>
    -- The first entry and the rest of the log are sorted apart, and put together upload by upload.
    have first := flatMap_entriesOf_singleton (within entry List.mem_cons_self)
    have rest := ih fun other mem => within other (List.mem_cons_of_mem entry mem)
    have parts : (fun i => (entriesOf (entry :: log) i).map fun x => (i, x)) = fun i =>
        ((entriesOf [entry] i).map fun x => (i, x)) ++ (entriesOf log i).map fun x => (i, x) := by
      funext i
      rw [entriesOf_cons, List.map_append]
    rw [parts]
    refine List.Perm.trans ?_ (List.flatMap_append_perm (List.range n) _ _)
    rw [first]
    exact rest.cons entry

end

/-! ## Steps and tracks -/

variable {cipher : Aead} {p : Pipeline} {clock : Nat → UInt64} {f : Fleet} {t : Task} {i j : Nat}
  {q : UploadRequest}

namespace Fleet

theorem advance_of_none (none : f.tasks[i]? = none) : f.advance cipher p clock i = f := by
  rw [advance, none]

theorem callLog_advance (standing : f.tasks[i]? = some t) :
    (f.advance cipher p clock i).callLog
      = f.callLog ++ (t.step cipher p clock f.resources).call.toList.map fun e => (i, e) := by
  simp only [advance, standing, callLog, List.map_append]
  cases (t.step cipher p clock f.resources).call with
  | none => rfl
  | some e => rfl

theorem records_advance (standing : f.tasks[i]? = some t) :
    (f.advance cipher p clock i).records
      = f.records ++ (t.step cipher p clock f.resources).record.toList.map fun e => (i, e) := by
  simp only [advance, standing]
  cases (t.step cipher p clock f.resources).record with
  | none => rfl
  | some e => rfl

theorem headers_advance (standing : f.tasks[i]? = some t) :
    (f.advance cipher p clock i).headers
      = f.headers ++ ((t.step cipher p clock f.resources).headers f.resources).map
          fun e => (i, e) := by
  simp only [advance, standing]
  rfl

theorem tasks_advance (standing : f.tasks[i]? = some t) :
    (f.advance cipher p clock i).tasks
      = f.tasks.set i (t.step cipher p clock f.resources).task := by
  simp only [advance, standing]

/-- A step of an upload adds what it does to the track of the upload. -/
theorem track_advance (standing : f.tasks[i]? = some t) :
    (f.advance cipher p clock i).track i
      = (f.track i).push f.resources (t.step cipher p clock f.resources) := by
  have within : i < f.tasks.length := (List.getElem?_eq_some_iff.mp standing).1
  simp only [track, Track.push, tasks_advance standing, headers_advance standing,
    callLog_advance standing, records_advance standing, entriesOf_append, entriesOf_tagged,
    List.getElem?_set_self within]

/-- A step of another upload leaves a track as it is. -/
theorem track_advance_of_ne (ne : i ≠ j) :
    (f.advance cipher p clock j).track i = f.track i := by
  cases standing : f.tasks[j]? with
  | none => rw [advance_of_none standing]
  | some t =>
    simp only [track, tasks_advance standing, headers_advance standing, callLog_advance standing,
      records_advance standing, entriesOf_append, entriesOf_tagged_of_ne _ ne, List.append_nil,
      List.getElem?_set_ne ne.symm]

theorem outcome?_eq {requests : List UploadRequest} (asked : requests[i]? = some q)
    (standing : (f.track i).task = some t) :
    f.outcome? requests i = t.ending?.map q.entry.resolve := by
  rw [outcome?, asked, Option.bind_some, Track.resolved?, standing, Option.bind_some]

theorem outcome?_advance_of_ne (requests : List UploadRequest) (ne : i ≠ j) :
    (f.advance cipher p clock j).outcome? requests i = f.outcome? requests i := by
  rw [outcome?, track_advance_of_ne ne, outcome?]

theorem outcome?_advance {requests : List UploadRequest} (asked : requests[i]? = some q)
    (standing : (f.track i).task = some t) :
    (f.advance cipher p clock i).outcome? requests i
      = (t.step cipher p clock f.resources).task.ending?.map q.entry.resolve := by
  refine outcome?_eq asked ?_
  rw [track_advance standing]
  rfl

theorem follow_append (f : Fleet) (schedule later : List Nat) :
    f.follow cipher p clock (schedule ++ later)
      = (f.follow cipher p clock schedule).follow cipher p clock later :=
  List.foldl_append

theorem follow_append_singleton (f : Fleet) (schedule : List Nat) (j : Nat) :
    f.follow cipher p clock (schedule ++ [j])
      = (f.follow cipher p clock schedule).advance cipher p clock j :=
  f.follow_append schedule [j]

/-- There are `n` uploads, and nothing is logged of others. -/
structure Sized (n : Nat) (f : Fleet) : Prop where
  tasks : f.tasks.length = n
  calls : ∀ entry ∈ f.callLog, entry.1 < n
  records : ∀ entry ∈ f.records, entry.1 < n

theorem Sized.advance {n : Nat} (sized : Sized n f) (j : Nat) :
    Sized n (f.advance cipher p clock j) := by
  cases standing : f.tasks[j]? with
  | none =>
    rw [advance_of_none standing]
    exact sized
  | some t =>
    have within : j < n := sized.tasks ▸ (List.getElem?_eq_some_iff.mp standing).1
    constructor
    · rw [tasks_advance standing, List.length_set]
      exact sized.tasks
    · rw [callLog_advance standing]
      exact within_append sized.calls within
    · rw [records_advance standing]
      exact within_append sized.records within

theorem sized_follow (requests : List UploadRequest) (resources : Resources)
    (schedule : List Nat) :
    Sized requests.length ((launch requests resources).follow cipher p clock schedule) := by
  induction schedule using List.reverseRecOn with
  | nil =>
    exact ⟨List.length_map _, fun _ mem => absurd mem List.not_mem_nil,
      fun _ mem => absurd mem List.not_mem_nil⟩
  | append_singleton schedule j ih =>
    rw [follow_append_singleton]
    exact ih.advance j

end Fleet

/-! ## What a track tells -/

namespace Track

variable {k : Track} {own r : Resources} {s : StepResult}

theorem fed_own (k : Track) (header : Bytes 24) (reply : Reply) : k.Fed (k.own header reply) :=
  ⟨Supply.take_ofList _ _, Supply.take_ofList _ _⟩

theorem exists_fed (k : Track) : ∃ own, k.Fed own :=
  ⟨_, k.fed_own ⟨replicateByte 24 0, size_replicateByte 24 0⟩ .unavailable⟩

theorem length_calls (k : Track) : k.calls.length = k.replies.length := by
  rw [calls, replies, List.length_map, List.length_map]

theorem calls_push : (k.push r s).calls = k.calls ++ s.call.toList.map (·.1) := List.map_append

theorem replies_push : (k.push r s).replies = k.replies ++ s.replies := List.map_append

/-- Resources feed an upload for another step if they feed it so far and go on with what the step
draws. -/
theorem fed_push : (k.push r s).Fed own ↔ k.Fed own ∧
    (k.leftOf own).ivs.take (s.headers r).length = s.headers r ∧
    (k.leftOf own).replies.take s.replies.length = s.replies := by
  unfold Fed
  rw [replies_push, Supply.take_append_iff]
  rw [show (k.push r s).headers = k.headers ++ s.headers r from rfl, Supply.take_append_iff]
  constructor
  · rintro ⟨⟨headers, more⟩, replies, others⟩
    exact ⟨⟨headers, replies⟩, more, others⟩
  · rintro ⟨⟨headers, replies⟩, more, others⟩
    exact ⟨⟨headers, more⟩, replies, others⟩

theorem leftOf_push : (k.push r s).leftOf own =
    { ivs := (k.leftOf own).ivs.drop (s.headers r).length
      replies := (k.leftOf own).replies.drop s.replies.length } := by
  simp only [leftOf, replies_push, Supply.drop_drop, ← List.length_append]
  rfl

end Track

theorem UploadRun.after_after (run : UploadRun) (calls calls' : List Call)
    (recorded recorded' : List UploadMetadata) :
    (run.after calls' recorded').after calls recorded
      = run.after (calls ++ calls') (recorded ++ recorded') := by
  simp only [after, List.append_assoc]

/-- No upload begins twice. -/
theorem Task.step_ne_fresh (t : Task) (r : Resources) :
    (t.step cipher p clock r).task.stage ≠ .fresh := by
  cases standing : t.stage with
  | fresh =>
    simp only [step, standing]
    split <;> simp [close]
  | due avatar attempt =>
    simp only [step, standing]
    split <;> simp [close]
  | calling avatar attempt answer =>
    simp only [step, standing]
    fun_cases receive p t avatar attempt answer <;> simp [close]
  | stored avatar receipt => simp [step, standing]
  | recorded s => simp [step, standing, close]
  | finished ending => simp [step, standing]

/-- Once an upload has begun, it draws no other header. -/
theorem Task.rest_ivs (begun : t.stage ≠ .fresh) (r : Resources) :
    (t.rest cipher p clock r).resources.ivs = r.ivs := by
  cases standing : t.stage with
  | fresh => exact absurd standing begun
  | due avatar attempt => simp only [rest, standing, Pipeline.complete]
  | calling avatar attempt answer => simp only [rest, standing, Pipeline.complete]
  | stored avatar receipt => simp only [rest, standing, Pipeline.complete]
  | recorded s => simp only [rest, standing]
  | finished ending => simp only [rest, standing]

/-- A track tells the beginning of what the upload does alone with what it drew. -/
structure Begun (cipher : Aead) (p : Pipeline) (clock : Nat → UInt64) (q : UploadRequest)
    (k : Track) (t : Task) : Prop where
  task : k.task = some t
  /-- No call is made before the first step. -/
  fresh : t.stage = .fresh → k.exchanges = []
  rest : ∀ own, k.Fed own → q.task.rest cipher p clock own =
    (t.rest cipher p clock (k.leftOf own)).after k.calls k.records

theorem task_launch {requests : List UploadRequest} (asked : requests[i]? = some q)
    (resources : Resources) :
    ((Fleet.launch requests resources).track i).task = some q.task := by
  simp [Fleet.track, Fleet.launch, asked]

theorem begun_launch {requests : List UploadRequest} (asked : requests[i]? = some q)
    (resources : Resources) :
    Begun cipher p clock q ((Fleet.launch requests resources).track i) q.task where
  task := task_launch asked resources
  fresh := fun _ => rfl
  rest := fun _ _ => rfl

/-- What a step of the upload adds to a track is what the upload does next alone. -/
theorem Begun.push {k : Track} (begun : Begun cipher p clock q k t) (r : Resources) :
    Begun cipher p clock q (k.push r (t.step cipher p clock r)) (t.step cipher p clock r).task where
  task := rfl
  fresh := fun fresh => absurd fresh (t.step_ne_fresh r)
  rest := by
    intro own fed
    obtain ⟨before, headers, replies⟩ := Track.fed_push.mp fed
    rw [begun.rest own before, rest_of_step headers replies, StepResult.before,
      UploadRun.after_after, Track.calls_push, Track.leftOf_push]
    rfl

/-- After any schedule, the track of an upload tells the beginning of what it does alone. -/
theorem begun_follow {requests : List UploadRequest} (asked : requests[i]? = some q)
    (resources : Resources) (schedule : List Nat) :
    ∃ t, Begun cipher p clock q
      (((Fleet.launch requests resources).follow cipher p clock schedule).track i) t := by
  -- The last step is one of the upload, which `Begun.push` takes in, or one of another upload,
  -- which leaves the track alone.
  induction schedule using List.reverseRecOn with
  | nil => exact ⟨q.task, begun_launch asked resources⟩
  | append_singleton schedule j ih =>
    obtain ⟨t, begun⟩ := ih
    rw [Fleet.follow_append_singleton]
    by_cases own : i = j
    · subst own
      rw [Fleet.track_advance begun.task]
      exact ⟨_, begun.push _⟩
    · rw [Fleet.track_advance_of_ne own]
      exact ⟨t, begun⟩

namespace Begun

variable {k : Track} {e : Ending UploadSuccess}

/-- When the upload is over, its track tells all that it does alone. -/
theorem whole (begun : Begun cipher p clock q k t) (closed : k.resolved? q = some e) :
    ∃ ending, e = q.entry.resolve ending ∧ ∀ own, k.Fed own →
      q.task.rest cipher p clock own =
        { ending, calls := k.calls, recorded := k.records, finish := t.moment
          cancellation := t.cancellation, resources := k.leftOf own } := by
  rw [Track.resolved?, begun.task] at closed
  obtain ⟨ending, ended, rfl⟩ := Option.map_eq_some_iff.mp closed
  refine ⟨ending, rfl, fun own fed => ?_⟩
  have finished : t.stage = .finished ending := by
    unfold Task.ending? at ended
    split at ended
    · rename_i same
      rw [same, Option.some.inj ended]
    · exact nomatch ended
  rw [begun.rest own fed, Task.rest, finished]
  simp only [UploadRun.after, List.append_nil]

/-- The records of an upload that is over are those that its end calls for, and the replies to its
calls tell the end. -/
theorem reported (begun : Begun cipher p clock q k t) (closed : k.resolved? q = some e) :
    ∃ ending, e = q.entry.resolve ending ∧ k.records = Pipeline.records ending ∧
      Reported k.replies ending := by
  obtain ⟨ending, resolved, whole⟩ := begun.whole closed
  obtain ⟨own, fed⟩ := k.exists_fed
  have alone : p.execute cipher clock q.plaintext q.entry.key q.start q.cancellation own = _ :=
    whole own fed
  have recorded := Pipeline.execute_recorded cipher p clock q.plaintext q.entry.key q.start
    q.cancellation own
  have reported := Pipeline.reported_execute cipher p clock q.plaintext q.entry.key q.start
    q.cancellation own
  rw [alone] at recorded reported
  dsimp only at reported
  rw [k.length_calls, fed.2] at reported
  exact ⟨ending, resolved, recorded, reported⟩

end Begun

end AvatarVault
