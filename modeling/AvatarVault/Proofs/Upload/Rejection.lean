import AvatarVault.Proofs.Upload.Agreement
import AvatarVault.Proofs.Upload.Tracks
/-!
Uploads that are rejected before anything is sealed, for an empty image or else for what is wrong
with the key.  They use up nothing (`alone_of_rejected`), so in a sequence of uploads over one
supply of headers and replies they can come and go, and every other upload does what it does without
them (`rejections_leave_no_trace`).  What an upload does, its times left out, does not depend on
when it starts (`effect_fromStart`): a run that starts later is the same run later
(`retryFrom_delayed`).
-/
namespace AvatarVault

/-! ## Runs that start later -/

/-- The cancellation, later by a span. -/
def Cancellation.delayed (c : Cancellation) (span : Nat) : Cancellation := c.map (· + span)

/-- The cancellation, counted from a moment on; one that is past counts as one at that moment. -/
def Cancellation.since (c : Cancellation) (start : Nat) : Cancellation := c.map (· - start)

/-- The run with all its moments later by a span. -/
def RetryRun.delayed (run : RetryRun) (span : Nat) : RetryRun :=
  { run with
    calls := run.calls.map fun call => { call with start := call.start + span }
    finish := run.finish + span
    cancellation := run.cancellation.delayed span }

section

variable {timer : Timer} {policy : RetryPolicy} {payload : ByteArray} {more attempt now : Nat}
  {cancellation : Cancellation} {replies : Supply Reply}

theorem isDue_delayed (c : Cancellation) (now span : Nat) :
    (c.delayed span).isDue (now + span) = c.isDue now := by
  cases c with
  | none => rfl
  | some moment => simp [Cancellation.delayed, Cancellation.isDue]

theorem afterCall_delayed (c : Cancellation) (reply : Reply) (now span : Nat) :
    (c.delayed span).afterCall reply (now + span) = (c.afterCall reply now).delayed span := by
  unfold Cancellation.afterCall
  split
  · cases c with
    | none => rfl
    | some moment =>
      simp [Cancellation.delayed, Cancellation.latest, Nat.add_min_add_right]
  · rfl

theorem getD_delayed (c : Cancellation) (wake span : Nat) :
    (c.delayed span).getD (wake + span) = c.getD wake + span := by
  cases c <;> rfl

theorem wakeAfter_delayed (timer : Timer) (policy : RetryPolicy) (attempt done span : Nat) :
    wakeAfter timer policy attempt (done + span) = wakeAfter timer policy attempt done + span :=
  Nat.add_right_comm _ _ _

/-- **A run that starts later, and is cancelled later by the same span, is the same run later.** -/
theorem retryFrom_delayed (span : Nat) :
    retryFrom timer policy payload more attempt (now + span) (cancellation.delayed span) replies
      = (retryFrom timer policy payload more attempt now cancellation replies).delayed span := by
  induction more, attempt, now, cancellation, replies using
    retryFrom_induct timer policy payload with
  | due more attempt now cancellation replies due run =>
    rw [run, retryFrom_due (by rw [isDue_delayed, due])]
    rfl
  | last more attempt now cancellation replies quiet last run =>
    rw [run, retryFrom_call (by rw [isDue_delayed, quiet]), resume_last last, afterCall_delayed,
      Nat.add_right_comm]
    rfl
  | cut more attempt now cancellation replies quiet transient later run =>
    rw [run, retryFrom_call (by rw [isDue_delayed, quiet]), afterCall_delayed, Nat.add_right_comm,
      resume_cut transient (by rw [wakeAfter_delayed, isDue_delayed, later]), wakeAfter_delayed,
      getD_delayed, Nat.add_max_add_right]
    rfl
  | again more attempt now cancellation replies quiet transient later run ih =>
    rw [run, retryFrom_call (by rw [isDue_delayed, quiet]), afterCall_delayed, Nat.add_right_comm,
      resume_again transient (by rw [wakeAfter_delayed, isDue_delayed, later]), wakeAfter_delayed,
      ih]
    rfl

end

/-! ## What an upload does, its times left out -/

/-- What an upload comes to and what it leaves, with its times left out. -/
structure Effect where
  ending : Ending UploadSuccess
  payloads : List ByteArray
  records : List UploadMetadata
  /-- What is left for the uploads after it. -/
  resources : Resources

def UploadRun.effect (r : UploadRun) : Effect :=
  { ending := r.ending.timeless, payloads := r.calls.map (·.payload)
    records := r.recorded.map (·.timeless), resources := r.resources }

/-- The request with its cancellation counted from its start. -/
def UploadRequest.fromStart (q : UploadRequest) : UploadRequest :=
  { q with start := 0, cancellation := q.cancellation.since q.start }

section

variable {cipher : Aead} {p : Pipeline} {plaintext : ByteArray} {start : Nat}
  {cancellation : Cancellation} {r : Resources}

/-- What the calls of a sealed image do does not depend on when they start. -/
theorem send_since (avatar : SealedAvatar) (start : Nat) (cancellation : Cancellation)
    (replies : Supply Reply) :
    let run := p.send avatar start cancellation replies
    let run' := p.send avatar 0 (cancellation.since start) replies
    run.ending = run'.ending ∧ run.calls.map (·.payload) = run'.calls.map (·.payload) ∧
      run.replies = run'.replies := by
  intro run run'
  by_cases due : cancellation.isDue start = true
  · -- A cancellation before the start counts as one at the start: no call is made.
    have due' : (cancellation.since start).isDue 0 = true := by
      cases cancellation with
      | none => exact due
      | some moment =>
        have past : moment ≤ start := of_decide_eq_true due
        exact decide_eq_true (Nat.le_of_eq (Nat.sub_eq_zero_of_le past))
    simp only [run, run', Pipeline.send, uploadWithRetries, retryFrom_due due, retryFrom_due due',
      List.map_nil, and_self]
  · have back : (cancellation.since start).delayed start = cancellation := by
      cases cancellation with
      | none => rfl
      | some moment =>
        have after : ¬ moment ≤ start := fun past => due (decide_eq_true past)
        exact congrArg some (Nat.sub_add_cancel (Nat.le_of_not_le after))
    have late : run = run'.delayed start := by
      have delayed : retryFrom p.timer p.policy avatar.ciphertext (p.policy.budget - 1) 1
          (0 + start) ((cancellation.since start).delayed start) replies = run'.delayed start :=
        retryFrom_delayed start
      rwa [Nat.zero_add, back] at delayed
    rw [late]
    exact ⟨rfl, by simp [RetryRun.delayed], rfl⟩

theorem effect_complete {avatar : SealedAvatar} {ivs : Supply (Bytes 24)} {run run' : RetryRun}
    (ending : run.ending = run'.ending)
    (payloads : run.calls.map (·.payload) = run'.calls.map (·.payload))
    (replies : run.replies = run'.replies) (clock clock' : Nat → UInt64) :
    (p.complete clock avatar ivs run).effect = (p.complete clock' avatar ivs run').effect := by
  simp only [Pipeline.complete, UploadRun.effect, payloads, replies, Pipeline.conclude, ending]
  cases run'.ending <;> rfl

theorem effect_execute {key : Except UploadError ProfileKey} (clock clock' : Nat → UInt64) :
    (p.execute cipher clock plaintext key start cancellation r).effect
      = (p.execute cipher clock' plaintext key 0 (cancellation.since start) r).effect := by
  rw [Pipeline.execute_eq, Pipeline.execute_eq]
  rcases Pipeline.prepare cipher plaintext key r.ivs with ⟨e | avatar, ivs⟩
  · rfl
  · obtain ⟨ending, payloads, replies⟩ := send_since avatar start cancellation r.replies
    exact effect_complete ending payloads replies clock clock'

/-- A task of its own makes a difference to the ending only. -/
theorem effect_enter (clock : Nat → UInt64) (entry : Entry) :
    (p.enter cipher clock plaintext start cancellation r entry).effect
      = { (p.execute cipher clock plaintext entry.key start cancellation r).effect with
          ending := entry.resolve
            (p.execute cipher clock plaintext entry.key start cancellation r).effect.ending } := by
  have spawned (key : Except UploadError ProfileKey) :
      (p.spawn cipher clock plaintext key start cancellation r).effect
        = { (p.execute cipher clock plaintext key start cancellation r).effect with
            ending := (Entry.withAnswer key).resolve
              (p.execute cipher clock plaintext key start cancellation r).effect.ending } := by
    unfold Pipeline.spawn
    generalize p.execute cipher clock plaintext key start cancellation r = run
    rcases run with ⟨ending, calls, recorded, finish, cancellation, resources⟩
    cases ending <;> rfl
  cases entry with
  | run key => rfl
  | upload key => exact spawned _
  | withProvider provider => exact spawned _
  | withAnswer answer => exact spawned _

/-- **When an upload starts makes no difference to what it does**, its times left out. -/
theorem effect_fromStart (q : UploadRequest) (clock clock' : Nat → UInt64) :
    (q.alone cipher p clock r).effect = (q.fromStart.alone cipher p clock' r).effect := by
  unfold UploadRequest.alone UploadRequest.fromStart
  rw [effect_enter, effect_enter, effect_execute clock clock']

end

/-! ## Rejected and admitted uploads -/

namespace UploadRequest

/-- What an upload is rejected for: an image that is empty, whatever the key is, or else what is
wrong with the key. -/
inductive Rejected (q : UploadRequest) : UploadError → Prop where
  | image (empty : q.plaintext.isEmpty = true) :
    Rejected q (.validation "avatar image is empty")
  | key {e : UploadError} (filled : q.plaintext.isEmpty = false) (failed : q.entry.key = .error e) :
    Rejected q e

/-- Whether an upload has an image that is not empty, and this key. -/
structure Admitted (q : UploadRequest) (k : ProfileKey) : Prop where
  filled : q.plaintext.isEmpty = false
  given : q.entry.key = .ok k

/-- Whether an upload is not rejected. -/
def isAdmitted (q : UploadRequest) : Bool := !q.plaintext.isEmpty && q.entry.key.toBool

variable {q : UploadRequest} {e : UploadError} {k : ProfileKey} {cipher : Aead} {p : Pipeline}
  {clock : Nat → UInt64} {r : Resources}

theorem Rejected.unique {e' : UploadError} (h : q.Rejected e) (h' : q.Rejected e') : e' = e := by
  cases h with
  | image empty =>
    cases h' with
    | image _ => rfl
    | key filled _ => simp [empty] at filled
  | key filled failed =>
    cases h' with
    | image empty => simp [empty] at filled
    | key _ failed' => exact Except.error.inj (failed'.symm.trans failed)

/-- An upload is rejected for one fault, or admitted with one key. -/
theorem rejected_or_admitted (q : UploadRequest) :
    (q.isAdmitted = false ∧ ∃! e, q.Rejected e) ∨ (q.isAdmitted = true ∧ ∃! k, q.Admitted k) := by
  unfold isAdmitted
  cases filled : q.plaintext.isEmpty with
  | true =>
    have empty : q.Rejected _ := .image filled
    exact .inl ⟨rfl, _, empty, fun _ other => empty.unique other⟩
  | false =>
    cases given : q.entry.key with
    | error e =>
      have failed : q.Rejected e := .key filled given
      exact .inl ⟨rfl, e, failed, fun _ other => failed.unique other⟩
    | ok k =>
      exact .inr ⟨rfl, k, ⟨filled, given⟩, fun _ other =>
        Except.ok.inj (other.given.symm.trans given)⟩

theorem prepare_of_rejected (h : q.Rejected e) (ivs : Supply (Bytes 24)) :
    Pipeline.prepare cipher q.plaintext q.entry.key ivs = (.error e, ivs) := by
  unfold Pipeline.prepare
  cases h with
  | image empty =>
    rw [if_pos empty]
    rfl
  | key filled failed => rw [failed, if_neg (by simp [filled])]

/-- **A rejected upload ends at once and does nothing else.** -/
theorem alone_of_rejected (h : q.Rejected e) :
    q.alone cipher p clock r
      = { ending := .failed e, finish := q.start, cancellation := q.cancellation
          resources := r } := by
  have rest : q.task.rest cipher p clock r
      = { ending := .failed e, finish := q.start, cancellation := q.cancellation
          resources := r } := by
    show p.execute cipher clock q.plaintext q.entry.key q.start q.cancellation r = _
    rw [Pipeline.execute_eq, prepare_of_rejected h]
  rw [alone_eq, rest]
  cases q.entry <;> rfl

/-- An upload that is admitted draws one header, whatever becomes of it, and each of its calls
brings the image sealed under that header. -/
theorem ivs_alone_of_admitted (h : q.Admitted k) :
    (q.alone cipher p clock r).resources.ivs = r.ivs.tail ∧
      ∀ call ∈ (q.alone cipher p clock r).calls, ∃ avatar,
        sealAvatar cipher q.plaintext k r.ivs.head = .ok avatar ∧
          call.payload = avatar.ciphertext := by
  rw [alone_eq]
  show (p.execute cipher clock q.plaintext q.entry.key q.start q.cancellation r).resources.ivs = _ ∧
    ∀ call ∈ (p.execute cipher clock q.plaintext q.entry.key q.start q.cancellation r).calls, _
  constructor
  · rw [Pipeline.execute_eq, Pipeline.prepare.eq_def, h.given, if_neg (by simp [h.filled])]
    dsimp only
    cases sealAvatar cipher q.plaintext k r.ivs.head <;> rfl
  · intro call made
    obtain ⟨k', avatar, given, sealed, sent, -⟩ := Pipeline.sealed_of_mem_execute made
    rw [h.given] at given
    rw [Except.ok.inj given]
    exact ⟨avatar, sealed, sent⟩

/-- An upload that is admitted but cancelled before its start draws its header and ends at once. -/
theorem alone_of_cancelled (seals : cipher.Seals segmentSize) (h : q.Admitted k)
    (size : q.plaintext.size < 2 ^ 63) (due : q.cancellation.isDue q.start = true) :
    q.alone cipher p clock r
      = { ending := .failed .cancelled, finish := q.start, cancellation := q.cancellation
          resources := { r with ivs := r.ivs.tail } } := by
  obtain ⟨segments, -, made⟩ :=
    exists_sealed seals q.plaintext k r.ivs.head (sealedSize_lt size)
  have rest : q.task.rest cipher p clock r
      = { ending := .failed .cancelled, finish := q.start, cancellation := q.cancellation
          resources := { r with ivs := r.ivs.tail } } := by
    show p.execute cipher clock q.plaintext q.entry.key q.start q.cancellation r = _
    rw [h.given, Pipeline.execute_of_sealed h.filled made]
    simp only [Pipeline.send, uploadWithRetries, retryFrom_due due]
    rfl
  rw [alone_eq, rest]
  cases q.entry <;> rfl

end UploadRequest

/-! ## Uploads one after the other -/

/-- Uploads one after the other over one supply of headers and replies. -/
def uploadsInTurn (cipher : Aead) (p : Pipeline) (clock : Nat → UInt64) :
    List UploadRequest → Resources → List (UploadRequest × UploadRun)
  | [], _ => []
  | q :: requests, r =>
    let run := q.alone cipher p clock r
    (q, run) :: uploadsInTurn cipher p clock requests run.resources

/-- What uploads do that are not rejected. -/
def admittedEffects (runs : List (UploadRequest × UploadRun)) : List Effect :=
  (runs.filter (·.1.isAdmitted)).map (·.2.effect)

/-- The records of several uploads, in order, their times left out. -/
def recordsOf (runs : List (UploadRequest × UploadRun)) : List UploadMetadata :=
  runs.flatMap (·.2.effect.records)

section

variable {cipher : Aead} {p : Pipeline} {clock : Nat → UInt64}

/-- Rejected uploads make no records. -/
theorem recordsOf_uploadsInTurn (requests : List UploadRequest) (r : Resources) :
    recordsOf (uploadsInTurn cipher p clock requests r)
      = (admittedEffects (uploadsInTurn cipher p clock requests r)).flatMap (·.records) := by
  induction requests generalizing r with
  | nil => rfl
  | cons q requests ih =>
    have later := ih (q.alone cipher p clock r).resources
    unfold recordsOf admittedEffects at later ⊢
    rw [uploadsInTurn, List.flatMap_cons, List.filter_cons, later]
    rcases q.rejected_or_admitted with ⟨rejected, e, fault, -⟩ | ⟨admitted, -⟩
    · simp only [rejected, UploadRequest.alone_of_rejected fault]
      rfl
    · simp only [admitted]
      rfl

/-- What uploads do that are not rejected is what they do without the others, each from its own
start: by induction on the sequence, as a rejected upload leaves what it found. -/
theorem admittedEffects_uploadsInTurn (requests : List UploadRequest) (r : Resources) :
    admittedEffects (uploadsInTurn cipher p clock requests r)
      = (uploadsInTurn cipher p (fun _ => 0)
          ((requests.filter (·.isAdmitted)).map (·.fromStart)) r).map (·.2.effect) := by
  induction requests generalizing r with
  | nil => rfl
  | cons q requests ih =>
    have later := ih (q.alone cipher p clock r).resources
    unfold admittedEffects at later ⊢
    rw [uploadsInTurn, List.filter_cons, List.filter_cons]
    rcases q.rejected_or_admitted with ⟨rejected, e, fault, -⟩ | ⟨admitted, -⟩
    · rw [UploadRequest.alone_of_rejected fault] at later ⊢
      simpa only [rejected, Bool.false_eq_true, if_false] using later
    · have same : (q.alone cipher p clock r).effect
          = (q.fromStart.alone cipher p (fun _ => 0) r).effect :=
        effect_fromStart q clock fun _ => 0
      have left : (q.alone cipher p clock r).resources
          = (q.fromStart.alone cipher p (fun _ => 0) r).resources :=
        congrArg Effect.resources same
      rw [left] at later
      simp only [admitted, if_true, List.map_cons, uploadsInTurn, same, left, later]

end

/-- What a pipeline does with uploads that it rejects, and with all others. -/
structure Pipeline.Screens (cipher : Aead) (p : Pipeline) : Prop where
  /-- An upload is rejected for one fault, or it is not rejected and has one key. -/
  decided : ∀ q : UploadRequest,
    (q.isAdmitted = false ∧ ∃! e, q.Rejected e) ∨ (q.isAdmitted = true ∧ ∃! k, q.Admitted k)
  /-- A rejected upload ends at once, for the image rather than the key, whether it is cancelled or
  not.  It draws no header, makes no call and no record. -/
  rejected : ∀ (clock : Nat → UInt64) (q : UploadRequest) (r : Resources) (e : UploadError),
    q.Rejected e → q.alone cipher p clock r
      = { ending := .failed e, calls := [], recorded := [], finish := q.start
          cancellation := q.cancellation, resources := r }
  /-- Any other upload draws one header, however many calls it makes. -/
  drawn : ∀ (clock : Nat → UInt64) (q : UploadRequest) (r : Resources) (k : ProfileKey),
    q.Admitted k → (q.alone cipher p clock r).resources.ivs = r.ivs.tail ∧
      ∀ call ∈ (q.alone cipher p clock r).calls, ∃ avatar,
        sealAvatar cipher q.plaintext k r.ivs.head = .ok avatar ∧
          call.payload = avatar.ciphertext
  /-- If it was cancelled before its start, that is all that it does. -/
  cancelled : ∀ (clock : Nat → UInt64) (q : UploadRequest) (r : Resources) (k : ProfileKey),
    q.Admitted k → q.plaintext.size < 2 ^ 63 → q.cancellation.isDue q.start = true →
    q.alone cipher p clock r
      = { ending := .failed .cancelled, calls := [], recorded := [], finish := q.start
          cancellation := q.cancellation, resources := { r with ivs := r.ivs.tail } }
  /-- Two sequences that differ only in rejected uploads, and in when the others start, are the same
  for all that are not rejected: what they resolve to, what they send, what they record and what
  they leave for the next one. -/
  others : ∀ (clock clock' : Nat → UInt64) (requests requests' : List UploadRequest)
    (r : Resources),
    (requests.filter (·.isAdmitted)).map (·.fromStart)
      = (requests'.filter (·.isAdmitted)).map (·.fromStart) →
    let runs := uploadsInTurn cipher p clock requests r
    let runs' := uploadsInTurn cipher p clock' requests' r
    admittedEffects runs = admittedEffects runs' ∧ recordsOf runs = recordsOf runs'

/-- **Rejected uploads leave no trace**, and every other upload draws one header: whatever the key,
the provider of the key, the host, the base address and the cancellation are. -/
theorem rejections_leave_no_trace {cipher : Aead} (seals : cipher.Seals segmentSize)
    (p : Pipeline) : p.Screens cipher where
  decided := UploadRequest.rejected_or_admitted
  rejected clock q r e fault := UploadRequest.alone_of_rejected fault
  drawn clock q r k admitted := UploadRequest.ivs_alone_of_admitted admitted
  cancelled clock q r k admitted size due :=
    UploadRequest.alone_of_cancelled seals admitted size due
  others clock clock' requests requests' r same := by
    intro runs runs'
    have effects : admittedEffects runs = admittedEffects runs' := by
      simp only [runs, runs', admittedEffects_uploadsInTurn, same]
    refine ⟨effects, ?_⟩
    simp only [runs, runs', recordsOf_uploadsInTurn] at effects ⊢
    rw [effects]

open Pipeline (examplePipeline exampleResources)

/-- An upload that is rejected for its image, though its key is too short and it is cancelled. -/
def blankRequest : UploadRequest :=
  { plaintext := .empty, entry := .upload ⟨#[1, 2, 3]⟩, cancellation := some 0 }

/-- An upload that is rejected for its key, though it is cancelled. -/
def keylessRequest : UploadRequest :=
  { plaintext := ⟨#[1, 2, 3]⟩, entry := .withProvider (.encoded "AAAA"), start := 50
    cancellation := some 0 }

/-- An upload that is not rejected. -/
def soundRequest (start : Nat) (cancellation : Cancellation) : UploadRequest :=
  { plaintext := ⟨#[1, 2, 3]⟩, entry := .run exampleKey.bytes.val, start, cancellation }

/-- Amid rejected uploads, the third one makes its two calls and succeeds as it does by itself; an
upload of the same image that is cancelled before its start draws a header all the same. -/
theorem rejections_leave_no_trace_third_of_four :
    XChaCha20Poly1305.aead.Seals segmentSize ∧
      blankRequest.Rejected (.validation "avatar image is empty") ∧
      keylessRequest.Rejected (.validation "profile key must be 32 bytes, got 3") ∧
      (soundRequest 70 (some 60)).Admitted exampleKey ∧
      (blankRequest.alone XChaCha20Poly1305.aead examplePipeline (fun _ => 0)
        exampleResources).ending = .failed (.validation "avatar image is empty") ∧
      ((soundRequest 70 (some 60)).alone XChaCha20Poly1305.aead examplePipeline (fun _ => 0)
        exampleResources).ending = .failed .cancelled ∧
      ((soundRequest 70 (some 60)).alone XChaCha20Poly1305.aead examplePipeline (fun _ => 0)
        exampleResources).resources.ivs = exampleResources.ivs.tail ∧
      (∃ s, ((soundRequest 0 none).alone XChaCha20Poly1305.aead examplePipeline (fun _ => 0)
          exampleResources).ending = .succeeded s ∧ s.attempts = 2) ∧
      admittedEffects (uploadsInTurn XChaCha20Poly1305.aead examplePipeline (fun _ => 0)
          [blankRequest, keylessRequest, soundRequest 70 none, keylessRequest] exampleResources)
        = admittedEffects (uploadsInTurn XChaCha20Poly1305.aead examplePipeline
          (fun _ => 1700000000000) [soundRequest 0 none] exampleResources) := by
  have seals := xchacha_lawful.toSeals
  have blank : blankRequest.Rejected (.validation "avatar image is empty") := .image rfl
  have keyless : keylessRequest.Rejected (.validation "profile key must be 32 bytes, got 3") :=
    .key rfl rfl
  have given (start : Nat) (cancellation : Cancellation) :
      (soundRequest start cancellation).entry.key = .ok exampleKey := by
    rw [soundRequest, Entry.key, ProfileKey.ofBytes_eq_ok_iff.mpr rfl]
    rfl
  have sound : (soundRequest 70 (some 60)).Admitted exampleKey := ⟨rfl, given _ _⟩
  have screens := rejections_leave_no_trace seals examplePipeline
  refine ⟨seals, blank, keyless, sound, ?_, ?_, (screens.drawn _ _ _ _ sound).1, ?_,
    (screens.others _ _ _ _ _ ?_).1⟩
  · rw [screens.rejected _ _ _ _ blank]
  · rw [screens.cancelled _ _ _ _ sound (by decide) (by decide)]
  · obtain ⟨segments, -, made⟩ := exists_sealed seals ⟨#[1, 2, 3]⟩ exampleKey
      exampleResources.ivs.head (sealedSize_lt (by decide))
    obtain ⟨s, executed, attempts⟩ : ∃ s, (examplePipeline.execute XChaCha20Poly1305.aead
        (fun _ => 0) ⟨#[1, 2, 3]⟩ (soundRequest 0 none).entry.key 0 none
        exampleResources).ending = .succeeded s ∧ s.attempts = 2 := by
      rw [given, Pipeline.execute_of_sealed rfl made]
      dsimp only
      rw [Pipeline.conclude_eq_succeeded_iff.mpr ⟨_, Pipeline.send_exampleResources _, rfl⟩]
      exact ⟨_, rfl, rfl⟩
    exact ⟨s, Pipeline.enter_ending_of_succeeded executed, attempts⟩
  · have admitted (start : Nat) : (soundRequest start none).isAdmitted = true := by
      rw [UploadRequest.isAdmitted, given]
      rfl
    have unblank : blankRequest.isAdmitted = false := rfl
    have unkeyed : keylessRequest.isAdmitted = false := rfl
    simp only [List.filter_cons, unblank, unkeyed, admitted]
    rfl

end AvatarVault
