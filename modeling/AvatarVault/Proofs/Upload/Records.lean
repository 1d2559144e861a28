import AvatarVault.Proofs.Upload.Success
import AvatarVault.Proofs.Upload.Tracks
import AvatarVault.Record.Store
/-!
The records of uploads side by side.  A success is recorded once, before it comes out, and nothing
else is recorded, whatever the order of the steps (`successes_recorded`).
-/
namespace AvatarVault

variable {cipher : Aead} {p : Pipeline} {clock : Nat → UInt64} {f : Fleet} {t : Task} {i j : Nat}
  {q : UploadRequest} {k : Track} {s : UploadSuccess} {requests : List UploadRequest}

namespace Entry

theorem resolve_succeeded (entry : Entry) (s : UploadSuccess) :
    entry.resolve (.succeeded s) = .succeeded s := by
  cases entry with
  | run key => rfl
  | upload key => rfl
  | withProvider provider => rfl
  | withAnswer answer => rfl

theorem resolve_eq_succeeded_iff {entry : Entry} {ending : Ending UploadSuccess} :
    entry.resolve ending = .succeeded s ↔ ending = .succeeded s := by
  unfold resolve
  cases entry.isSpawned with
  | false => rfl
  | true => cases ending <;> simp [Ending.settle]

theorem records_resolve (entry : Entry) (ending : Ending UploadSuccess) :
    Pipeline.records (entry.resolve ending) = Pipeline.records ending := by
  unfold resolve
  cases entry.isSpawned with
  | false => rfl
  | true => cases ending <;> rfl

end Entry

namespace Task

/-- An upload that has made no record will make those that its end calls for. -/
theorem rest_recorded (ahead : ∀ s, t.stage ≠ .recorded s) (going : t.ending? = none)
    (r : Resources) :
    (t.rest cipher p clock r).recorded = Pipeline.records (t.rest cipher p clock r).ending := by
  cases standing : t.stage with
  | fresh =>
    simp only [rest, standing]
    exact Pipeline.execute_recorded cipher p clock _ _ _ _ r
  | due avatar attempt => simp only [rest, standing, Pipeline.complete]
  | calling avatar attempt answer => simp only [rest, standing, Pipeline.complete]
  | stored avatar receipt => simp only [rest, standing, Pipeline.complete]
  | recorded s => exact absurd standing (ahead s)
  | finished ending => simp [ending?, standing] at going

theorem receive_not_succeeded (avatar : SealedAvatar) (attempt : Nat) (answer : Answer) :
    (t.receive p avatar attempt answer).ending? ≠ some (.succeeded s) := by
  fun_cases receive p t avatar attempt answer <;> simp [close, ending?]

/-- An upload succeeds with the step after its record. -/
theorem recorded_of_step {r : Resources} (going : t.ending? = none)
    (succeeds : (t.step cipher p clock r).task.ending? = some (.succeeded s)) :
    t.stage = .recorded s := by
  cases standing : t.stage with
  | fresh =>
    simp only [step, standing] at succeeds
    split at succeeds <;> simp [close, ending?] at succeeds
  | due avatar attempt =>
    simp only [step, standing] at succeeds
    split at succeeds <;> simp [close, ending?] at succeeds
  | calling avatar attempt answer =>
    simp only [step, standing] at succeeds
    exact absurd succeeds (receive_not_succeeded avatar attempt answer)
  | stored avatar receipt => simp [step, standing, ending?] at succeeds
  | recorded made =>
    simp only [step, standing, close, ending?] at succeeds
    rw [Ending.succeeded.inj (Option.some.inj succeeds)]
  | finished ending => simp [ending?, standing] at going

end Task

namespace Begun

/-- The records made and those to come are those that the end calls for. -/
theorem records_append (begun : Begun cipher p clock q k t) :
    ∃ left, k.records ++ (t.rest cipher p clock left).recorded
      = Pipeline.records (t.rest cipher p clock left).ending := by
  obtain ⟨own, fed⟩ := k.exists_fed
  have all : (q.task.rest cipher p clock own).recorded
      = Pipeline.records (q.task.rest cipher p clock own).ending :=
    Pipeline.execute_recorded cipher p clock _ _ _ _ own
  rw [begun.rest own fed] at all
  exact ⟨k.leftOf own, all⟩

theorem records_eq_nil (begun : Begun cipher p clock q k t) (ahead : ∀ s, t.stage ≠ .recorded s)
    (going : t.ending? = none) : k.records = [] := by
  obtain ⟨left, all⟩ := begun.records_append
  rw [Task.rest_recorded ahead going] at all
  exact List.append_left_eq_self.mp all

theorem records_of_recorded (begun : Begun cipher p clock q k t) (made : t.stage = .recorded s) :
    k.records = [s.metadata] := by
  obtain ⟨left, all⟩ := begun.records_append
  simpa only [Task.rest, made, List.append_nil, Pipeline.records] using all

end Begun

namespace Fleet

/-- The successes of a fleet, in the order of its uploads. -/
def successes (requests : List UploadRequest) (f : Fleet) : List UploadSuccess :=
  (List.range requests.length).filterMap fun i => (f.outcome? requests i).bind Ending.value?

/-- A store that was empty and took in the records as they were made. -/
def store (f : Fleet) : MemoryStore :=
  f.records.foldl (fun store entry => store.record entry.2) {}

theorem store_records (f : Fleet) : f.store.records = f.records.map (·.2) := by
  have gather : ∀ (log : List (Nat × UploadMetadata)) (store : MemoryStore),
      (log.foldl (fun store entry => store.record entry.2) store).records
        = store.records ++ log.map (·.2) := by
    intro log
    induction log with
    | nil => simp
    | cons entry log ih =>
      intro store
      rw [List.foldl_cons, ih]
      simp [MemoryStore.record]
  exact gather f.records {}

/-- What it means that a fleet records each success once, and nothing else. -/
structure RecordsSuccesses (cipher : Aead) (p : Pipeline) (clock : Nat → UInt64)
    (requests : List UploadRequest) (f : Fleet) : Prop where
  /-- An upload that is over has made the one record of its success, or none if it failed. -/
  closed : ∀ i e, f.outcome? requests i = some e → (f.track i).records = Pipeline.records e
  /-- One that goes on has made none, or the record of the success in which its next step ends. -/
  underWay : ∀ i < requests.length, f.outcome? requests i = none →
    (f.track i).records = [] ∨ ∃ s, (f.track i).records = [s.metadata] ∧
      (f.advance cipher p clock i).outcome? requests i = some (.succeeded s)
  /-- The record of a success is there before the success comes out. -/
  before : ∀ i j s, f.outcome? requests i = none →
    (f.advance cipher p clock j).outcome? requests i = some (.succeeded s) →
    (f.track i).records = [s.metadata]
  /-- When all uploads are over, the store holds the records of the successes. -/
  store : (∀ i < requests.length, (f.outcome? requests i).isSome = true) →
    f.store.records.Perm ((f.successes requests).map (·.metadata))

theorem records_of_outcome (asked : requests[i]? = some q)
    (begun : Begun cipher p clock q (f.track i) t) {e : Ending UploadSuccess}
    (closed : f.outcome? requests i = some e) : (f.track i).records = Pipeline.records e := by
  rw [outcome?, asked] at closed
  obtain ⟨ending, rfl, records, -⟩ := begun.reported closed
  rw [records, Entry.records_resolve]

/-- An upload that goes on has made no record, or its next step is the end that its record tells
of. -/
theorem records_of_going (asked : requests[i]? = some q)
    (begun : Begun cipher p clock q (f.track i) t) (going : f.outcome? requests i = none) :
    (f.track i).records = [] ∨ ∃ s, (f.track i).records = [s.metadata] ∧
      (f.advance cipher p clock i).outcome? requests i = some (.succeeded s) := by
  have still : t.ending? = none := by
    rw [outcome?_eq asked begun.task] at going
    exact Option.map_eq_none_iff.mp going
  by_cases made : ∃ s, t.stage = .recorded s
  · obtain ⟨s, made⟩ := made
    refine Or.inr ⟨s, begun.records_of_recorded made, ?_⟩
    rw [outcome?_advance asked begun.task, Task.step, made]
    exact congrArg some (Entry.resolve_succeeded _ s)
  · exact Or.inl (begun.records_eq_nil (fun s same => made ⟨s, same⟩) still)

/-- An upload that succeeds with its next step has made its record. -/
theorem records_of_succeeds (asked : requests[i]? = some q)
    (begun : Begun cipher p clock q (f.track i) t) (going : f.outcome? requests i = none)
    (succeeds : (f.advance cipher p clock i).outcome? requests i = some (.succeeded s)) :
    (f.track i).records = [s.metadata] := by
  rw [outcome?_eq asked begun.task] at going
  rw [outcome?_advance asked begun.task] at succeeds
  obtain ⟨ending, ended, resolved⟩ := Option.map_eq_some_iff.mp succeeds
  rw [Entry.resolve_eq_succeeded_iff.mp resolved] at ended
  exact begun.records_of_recorded
    (Task.recorded_of_step (Option.map_eq_none_iff.mp going) ended)

theorem perm_store (sized : f.Sized requests.length)
    (records : ∀ i e, f.outcome? requests i = some e → (f.track i).records = Pipeline.records e)
    (closed : ∀ i < requests.length, (f.outcome? requests i).isSome = true) :
    f.store.records.Perm ((f.successes requests).map (·.metadata)) := by
  have own : ∀ i ∈ List.range requests.length, (f.track i).records =
      (((f.outcome? requests i).bind Ending.value?).map UploadSuccess.metadata).toList := by
    intro i mem
    obtain ⟨e, resolved⟩ := Option.isSome_iff_exists.mp (closed i (List.mem_range.mp mem))
    rw [records i e resolved, resolved]
    cases e with
    | succeeded s => rfl
    | failed e => rfl
    | crashed => rfl
  -- Sorted by upload, the log holds for each upload the one record of its success, or nothing.
  have parts := (perm_entriesOf sized.records).map Prod.snd
  simp only [List.map_flatMap, List.map_map, Function.comp_def, List.map_id'] at parts
  rw [store_records, successes, List.map_filterMap, List.filterMap_eq_flatMap_toList,
    ← List.flatMap_congr own]
  exact parts

end Fleet

/-- However uploads on one pipeline take turns, whatever the host answers and whenever they are
cancelled: each success is recorded once, before it comes out, and nothing else is recorded. -/
theorem successes_recorded (cipher : Aead) (p : Pipeline) (clock : Nat → UInt64)
    (requests : List UploadRequest) (resources : Resources) (schedule : List Nat) :
    Fleet.RecordsSuccesses cipher p clock requests
      ((Fleet.launch requests resources).follow cipher p clock schedule) := by
  generalize reached : (Fleet.launch requests resources).follow cipher p clock schedule = f
  have begun : ∀ i q, requests[i]? = some q → ∃ t, Begun cipher p clock q (f.track i) t := by
    intro i q asked
    rw [← reached]
    exact begun_follow asked resources schedule
  have closed : ∀ i e, f.outcome? requests i = some e →
      (f.track i).records = Pipeline.records e := by
    intro i e resolved
    obtain ⟨q, asked, -⟩ := Option.bind_eq_some_iff.mp resolved
    obtain ⟨t, begun⟩ := begun i q asked
    exact Fleet.records_of_outcome asked begun resolved
  refine ⟨closed, ?_, ?_, ?_⟩
  · intro i within going
    have asked : requests[i]? = some requests[i] := List.getElem?_eq_getElem within
    obtain ⟨t, begun⟩ := begun i _ asked
    exact Fleet.records_of_going asked begun going
  · intro i j s going succeeds
    by_cases own : i = j
    · subst own
      obtain ⟨q, asked, -⟩ := Option.bind_eq_some_iff.mp succeeds
      obtain ⟨t, begun⟩ := begun i q asked
      exact Fleet.records_of_succeeds asked begun going succeeds
    · -- A step of another upload does not bring out a success.
      rw [Fleet.outcome?_advance_of_ne requests own, going] at succeeds
      cases succeeds
  · have sized : f.Sized requests.length := reached ▸ Fleet.sized_follow requests resources schedule
    exact Fleet.perm_store sized closed

/-! ## Three uploads -/

/-- An image that is refused, one that the host stores, and one whose call breaks down. -/
def exampleRequests : List UploadRequest :=
  [{ plaintext := ByteArray.empty, entry := .run exampleKey.bytes.val },
   { plaintext := replicateByte 1 1, entry := .withProvider (.held exampleKey) },
   { plaintext := replicateByte 2 2, entry := .withProvider (.held exampleKey) }]

/-- A host whose first call breaks down. -/
def sharedResources : Resources :=
  { ivs := { item := fun _ => exampleHeader }
    replies := .ofList [{ answer := .crashed }, { answer := .accepted (.ofNat 7) }] .unavailable }

/-- They are sealed or refused first.  Then the last upload makes the first call, and breaks down
while the call of another one is in flight. -/
def exampleSchedule : List Nat := [1, 0, 2] ++ [2, 1, 2, 1, 1, 1]

/-- All three side by side. -/
def exampleFleet (cipher : Aead) : Fleet :=
  (Fleet.launch exampleRequests sharedResources).follow cipher Pipeline.examplePipeline (fun _ => 0)
    exampleSchedule

theorem exists_prepared (seals : cipher.Seals segmentSize) (plaintext : ByteArray)
    (filled : plaintext.isEmpty = false) (size : plaintext.size < 2 ^ 63) :
    ∃ avatar, ∀ used, Pipeline.prepare cipher plaintext (.ok exampleKey)
      { item := fun _ => exampleHeader, used }
        = (.ok avatar, { item := fun _ => exampleHeader, used := used + 1 }) := by
  obtain ⟨segments, -, made⟩ := exists_sealed seals plaintext exampleKey exampleHeader
    (sealedSize_lt size)
  exact ⟨_, fun used => Pipeline.prepare_of_sealed filled made⟩

theorem outcomes_exampleFleet (seals : cipher.Seals segmentSize) :
    ∃ s, s.id = .ofNat 7 ∧
      (exampleFleet cipher).outcome? exampleRequests 0 = some (.failed Pipeline.emptyImage) ∧
      (exampleFleet cipher).outcome? exampleRequests 1 = some (.succeeded s) ∧
      (exampleFleet cipher).outcome? exampleRequests 2
        = some (.failed (.worker "task panicked")) := by
  obtain ⟨avatar, prepared⟩ := exists_prepared seals (replicateByte 1 1)
    (by simp [ByteArray.isEmpty]) (by simp)
  obtain ⟨avatar', prepared'⟩ := exists_prepared seals (replicateByte 2 2)
    (by simp [ByteArray.isEmpty]) (by simp)
  have refused (key ivs) : Pipeline.prepare cipher ByteArray.empty key ivs
      = (.error Pipeline.emptyImage, ivs) := rfl
  -- The two sealed images are not computed: the steps after the sealing take them as they are.
  have launched : (Fleet.launch exampleRequests sharedResources).follow cipher
      Pipeline.examplePipeline (fun _ => 0) [1, 0, 2] =
      { tasks :=
          [{ plaintext := ByteArray.empty, key := (Entry.run exampleKey.bytes.val).key
             stage := .finished (.failed Pipeline.emptyImage) },
           { plaintext := replicateByte 1 1, key := .ok exampleKey, stage := .due avatar 1 },
           { plaintext := replicateByte 2 2, key := .ok exampleKey, stage := .due avatar' 1 }]
        resources :=
          { sharedResources with ivs := { item := fun _ => exampleHeader, used := 2 } }
        headers := [(1, exampleHeader), (2, exampleHeader)] } := by
    simp [Fleet.follow, Fleet.launch, exampleRequests, UploadRequest.task, Fleet.advance,
      Task.step, sharedResources, Entry.key, KeyProvider.encryptionKey, refused, prepared,
      prepared', Supply.upTo, Supply.take, Supply.head, Task.close]
  rw [exampleFleet, exampleSchedule, Fleet.follow_append, launched]
  simp [Fleet.follow, Fleet.advance, Task.step, sharedResources, Cancellation.isDue, Supply.ofList,
    Supply.head, Supply.tail, Task.receive, Task.close, Fleet.outcome?, Fleet.track,
    Track.resolved?, exampleRequests, Task.ending?, Entry.resolve, Entry.isSpawned, Ending.settle,
    Pipeline.success]

/-- The one record of the three is that of the success. -/
theorem successes_recorded_beside_breakdown :
    let f := exampleFleet XChaCha20Poly1305.aead
    Fleet.RecordsSuccesses XChaCha20Poly1305.aead Pipeline.examplePipeline (fun _ => 0)
        exampleRequests f ∧
      f.outcome? exampleRequests 0 = some (.failed Pipeline.emptyImage) ∧
      f.outcome? exampleRequests 2 = some (.failed (.worker "task panicked")) ∧
      ∃ s, f.outcome? exampleRequests 1 = some (.succeeded s) ∧
        f.store.records = [s.metadata] := by
  intro f
  have law : Fleet.RecordsSuccesses XChaCha20Poly1305.aead Pipeline.examplePipeline (fun _ => 0)
      exampleRequests f :=
    successes_recorded XChaCha20Poly1305.aead Pipeline.examplePipeline (fun _ => 0)
      exampleRequests sharedResources exampleSchedule
  obtain ⟨s, -, refused, stored, broken⟩ := outcomes_exampleFleet xchacha_lawful.toSeals
  have closed : ∀ i < exampleRequests.length, (f.outcome? exampleRequests i).isSome = true
    | 0, _ => refused ▸ rfl
    | 1, _ => stored ▸ rfl
    | 2, _ => broken ▸ rfl
  have one : f.successes exampleRequests = [s] := by
    have three : List.range exampleRequests.length = [0, 1, 2] := rfl
    simp [Fleet.successes, three, f, refused, stored, broken, Ending.value?]
  refine ⟨law, refused, broken, s, stored, ?_⟩
  have same := law.store closed
  rw [one] at same
  exact List.perm_singleton.mp same

end AvatarVault
