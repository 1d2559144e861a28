import AvatarVault.Upload.Pipeline
/-!
Uploads that are under way side by side.  They share the random headers, the host and the
metadata store, and nothing else.  An upload moves on in steps, each at a moment of its own; any
order of the steps of several uploads is a schedule, and `Fleet.run` takes them by the clock.
-/
namespace AvatarVault

/-- Where an upload stands. -/
inductive Stage where
  /-- Nothing is done yet. -/
  | fresh
  /-- Call number `attempt` is due, unless the upload is cancelled. -/
  | due (avatar : SealedAvatar) (attempt : Nat)
  /-- Call number `attempt` is in flight and will get this answer. -/
  | calling (avatar : SealedAvatar) (attempt : Nat) (answer : Answer)
  /-- The host has the avatar, and the record is still to be made. -/
  | stored (avatar : SealedAvatar) (receipt : Receipt)
  /-- The record is made, and the upload is about to end. -/
  | recorded (success : UploadSuccess)
  | finished (ending : Ending UploadSuccess)

/-- One of several uploads. -/
structure Task where
  plaintext : ByteArray
  key : Except UploadError ProfileKey
  cancellation : Cancellation := none
  /-- The moment of the next step, or of the last one when the upload is over. -/
  moment : Nat := 0
  stage : Stage := .fresh

/-- What a step of an upload leaves behind. -/
structure StepResult where
  task : Task
  resources : Resources
  /-- The call that starts with the step, and its reply. -/
  call : Option (Call × Reply) := none
  /-- The record that is made in the step. -/
  record : Option UploadMetadata := none

namespace Task

/-- How the upload ended, if it is over. -/
def ending? (t : Task) : Option (Ending UploadSuccess) :=
  match t.stage with
  | .finished ending => some ending
  | _ => none

/-- The upload at its end. -/
def close (t : Task) (ending : Ending UploadSuccess) : Task := { t with stage := .finished ending }

/-- The moment at which a wait ends: when it is over, or earlier by a cancellation. -/
def wake (t : Task) (delay : Nat) : Nat :=
  match t.cancellation with
  | some moment => if moment ≤ t.moment + delay then max t.moment moment else t.moment + delay
  | none => t.moment + delay

/-- The upload after the answer to call number `attempt`. -/
def receive (p : Pipeline) (t : Task) (avatar : SealedAvatar) (attempt : Nat) : Answer → Task
  | .accepted id => { t with stage := .stored avatar { id, attempts := attempt } }
  | .crashed => t.close .crashed
  | .refused cause =>
    if !cause.transient then t.close (.failed (.transport cause))
    else if p.policy.budget ≤ attempt then t.close (.failed (.exhaustedRetries attempt cause))
    else
      { t with
        stage := .due avatar (attempt + 1)
        moment := t.wake (p.timer.wait (p.policy.backoff attempt.toUInt32)) }

/-- The next step of an upload. -/
def step (cipher : Aead) (p : Pipeline) (clock : Nat → UInt64) (t : Task) (r : Resources) :
    StepResult :=
  match t.stage with
  | .fresh =>
    let (prepared, ivs) := Pipeline.prepare cipher t.plaintext t.key r.ivs
    match prepared with
    | .error e => { task := t.close (.failed e), resources := { r with ivs } }
    | .ok avatar => { task := { t with stage := .due avatar 1 }, resources := { r with ivs } }
  | .due avatar attempt =>
    if t.cancellation.isDue t.moment then { task := t.close (.failed .cancelled), resources := r }
    else
      let reply := r.replies.head
      let cancellation :=
        if reply.cancels then t.cancellation.latest t.moment else t.cancellation
      { task := { t with
          cancellation
          stage := .calling avatar attempt reply.answer
          moment := t.moment + reply.latency }
        resources := { r with replies := r.replies.tail }
        call := some ({ start := t.moment, payload := avatar.ciphertext }, reply) }
  | .calling avatar attempt answer =>
    { task := t.receive p avatar attempt answer, resources := r }
  | .stored avatar receipt =>
    let record : UploadMetadata :=
      { timestampMillis := clock t.moment, url := fileUrl p.baseUrl receipt.id }
    { task := { t with stage := .recorded (p.success avatar receipt record.timestampMillis) }
      resources := r
      record := some record }
  | .recorded success => { task := t.close (.succeeded success), resources := r }
  | .finished _ => { task := t, resources := r }

end Task

/-- A call of one of several uploads. -/
structure Exchange where
  /-- The place of the upload among the others. -/
  upload : Nat
  call : Call
  reply : Reply

/-- Uploads side by side, with all that they did so far. -/
structure Fleet where
  tasks : List Task
  resources : Resources
  /-- The headers drawn, in order, each with the place of its upload. -/
  headers : List (Nat × Bytes 24) := []
  /-- The calls made, in order. -/
  exchanges : List Exchange := []
  /-- The records made, in order, each with the place of its upload. -/
  records : List (Nat × UploadMetadata) := []

namespace Fleet

/-- The fleet after a step of the upload at place `i`. -/
def advance (cipher : Aead) (p : Pipeline) (clock : Nat → UInt64) (f : Fleet) (i : Nat) : Fleet :=
  match f.tasks[i]? with
  | none => f
  | some t =>
    let s := t.step cipher p clock f.resources
    { tasks := f.tasks.set i s.task
      resources := s.resources
      headers := f.headers ++ (f.resources.ivs.upTo s.resources.ivs).map fun header => (i, header)
      exchanges := f.exchanges ++
        (s.call.map fun (call, reply) => ({ upload := i, call, reply } : Exchange)).toList
      records := f.records ++ (s.record.map fun record => (i, record)).toList }

/-- The fleet after the steps of a schedule, which names an upload for each step. -/
def follow (cipher : Aead) (p : Pipeline) (clock : Nat → UInt64) (f : Fleet)
    (schedule : List Nat) : Fleet :=
  schedule.foldl (advance cipher p clock) f

/-- The moment of the next step of the upload at place `i`, if it is not over. -/
def moment? (f : Fleet) (i : Nat) : Option Nat :=
  match f.tasks[i]? with
  | none => none
  | some t => if t.ending?.isSome then none else some t.moment

/-- Of a choice, with its moment, and the upload at place `i` the one whose step comes first. -/
def sooner (f : Fleet) (best : Option (Nat × Nat)) (i : Nat) : Option (Nat × Nat) :=
  match best, f.moment? i with
  | none, some moment => some (i, moment)
  | some (_, least), some moment => if moment < least then some (i, moment) else best
  | _, none => best

/-- The upload whose step is next, of equal ones the first in the queue. -/
def next? (f : Fleet) (queue : List Nat) : Option Nat := (queue.foldl f.sooner none).map (·.1)

/-- The queue after a step of the upload at place `i`: an upload that waits goes to the end, one
that does not wait keeps its place. -/
def requeue (before after : Fleet) (queue : List Nat) (i : Nat) : List Nat :=
  if before.moment? i == after.moment? i then queue else queue.erase i ++ [i]

/-- Takes steps by the clock, at most `fuel` of them. -/
def runQueue (cipher : Aead) (p : Pipeline) (clock : Nat → UInt64) :
    (fuel : Nat) → List Nat → Fleet → Fleet
  | 0, _, f => f
  | fuel + 1, queue, f =>
    match f.next? queue with
    | none => f
    | some i =>
      let g := f.advance cipher p clock i
      runQueue cipher p clock fuel (requeue f g queue i) g

/-- The largest number of steps that one upload takes: one to seal, two for each call, and two
for the record and the end. -/
def stepLimit (p : Pipeline) : Nat := 2 * p.policy.budget + 3

/-- Runs all uploads to their ends. -/
def run (cipher : Aead) (p : Pipeline) (clock : Nat → UInt64) (f : Fleet) : Fleet :=
  runQueue cipher p clock (f.tasks.length * stepLimit p) (List.range f.tasks.length) f

/-- The moment at which the last upload is over. -/
def finish (f : Fleet) : Nat := (f.tasks.map (·.moment)).foldl max 0

end Fleet

end AvatarVault
