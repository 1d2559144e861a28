import AvatarVault.Proofs.CommandLine.Needs
import AvatarVault.Proofs.Upload.Rejection
/-!
An upload that cannot start leaves no trace (`upload_starts_or_leaves_no_trace`).  A request to
upload is the making of the upload, which only looks at files (`checks_makeUpload`), and then the
record and the report of it.  An upload that is rejected for its image or its key does nothing and
has nothing to record (`on_tellUpload_of_rejected`).
-/
namespace AvatarVault.CommandLine

variable {fs : FileSystem}

/-! ## The upload itself -/

/-- The upload of an image with a key that is given as text. -/
def uploadOf (plaintext : ByteArray) (key : String) : UploadRequest :=
  { plaintext, entry := .withProvider (.encoded key) }

/-- A request to upload, up to the end of the upload itself: the store that is open, and what the
upload did. -/
def makeUpload (cipher : Aead) (s : Surroundings) (i : Invocation) (image : Path) (key : String) :
    Step (StateM FileSystem) (FileStore × UploadRun) := do
  let config ← orFail (fun e => [e.message]) (Config.load (i.config.expandHome (home s)))
  let plaintext ← orFail (fun _ => ["reading avatar: " ++ image.display]) (FileAccess.read image)
  let _ ← reachHost s config
  let store ← openStore s config
  return (store, (uploadOf plaintext key).alone cipher (Pipeline.ofConfig config) s.clock
    s.resources)

/-- What is left of the request: the records go to the store, and the end is told. -/
def tellUpload (made : FileStore × UploadRun) : Step (StateM FileSystem) String := do
  let _ ← (made.2.recorded.foldlM FileStore.record made.1 : StateM FileSystem FileStore)
  let success ← demand failing made.2.ending.settle
  return describeSuccess success

section

variable {cipher : Aead} {s : Surroundings} {i : Invocation} {image : Path} {key : String}

/-- A request to upload is made of these two parts. -/
theorem perform_eq (request : i.request = .upload image key) :
    (perform cipher s i : Step (StateM FileSystem) String)
      = makeUpload cipher s i image key >>= tellUpload := by
  unfold perform makeUpload
  rw [request]
  simp only [bind_assoc, pure_bind]
  rfl

theorem checks_makeUpload (cipher : Aead) (s : Surroundings) (i : Invocation) (fs : FileSystem)
    (image : Path) (key : String) :
    Checks (makeUpload cipher s i image key) fs
      (fun made => ∃ c plaintext, settingsOf s i fs = .ok c ∧ fs.read image = .ok plaintext ∧
        made.2 = (uploadOf plaintext key).alone cipher (Pipeline.ofConfig c) s.clock s.resources)
      (firstUnmetOf Need.beforehand s i fs image key) := by
  unfold makeUpload firstUnmetOf
  have load := load_settings s i fs
  cases loaded : settingsOf s i fs with
  | error e =>
    rw [loaded] at load
    exact bind_error (orFail_error load)
  | ok c =>
    rw [loaded] at load
    refine .congr (bind_ok (orFail_ok load)) ?_
    have chain : Need.beforehand.findSome? (complaint? s fs c image key)
        = (complaint? s fs c image key .image).or ((reachFailure? s c fs).or
          (complaint? s fs c image key .store)) := by
      simp only [Need.beforehand, findSome?_cons, List.findSome?_nil, complaint?, reachFailure?,
        Option.or_assoc, Option.or_none]
    dsimp only
    rw [chain, ← Option.or_none (o := complaint? s fs c image key .store)]
    have read : (FileAccess.read image : StateM FileSystem _) fs = (fs.read image, fs) := rfl
    refine (checks_orFail _ read).bind fun plaintext read_ok => ?_
    refine (checks_reachHost s c fs).bind fun _ _ => ?_
    refine (checks_openStore s c fs).bind fun store _ => ?_
    exact .pure ⟨c, plaintext, rfl, read_ok, rfl⟩

/-- Once all that is looked for beforehand is there, only the image and the key can be at fault. -/
theorem firstUnmet_of_loaded {c : Config} (loaded : settingsOf s i fs = .ok c) :
    firstUnmet s i fs image key = (firstUnmetOf Need.beforehand s i fs image key).or
      (Need.atLast.findSome? (complaint? s fs c image key)) := by
  simp only [firstUnmet, firstUnmetOf, loaded, Need.inOrder, List.findSome?_append]

theorem firstUnmet_of_beforehand {failure : RequestFailure}
    (unmet : firstUnmetOf Need.beforehand s i fs image key = some failure) :
    firstUnmet s i fs image key = some failure := by
  cases loaded : settingsOf s i fs with
  | error e =>
    simp only [firstUnmetOf, loaded] at unmet
    simp only [firstUnmet, firstUnmetOf, loaded, unmet]
  | ok c => rw [firstUnmet_of_loaded loaded, unmet, Option.some_or]

/-- An image and a key that are in order make an upload that is admitted, and others one that is
rejected for the first fault. -/
theorem rejected_or_admitted_of_read {plaintext : ByteArray} (read : fs.read image = .ok plaintext)
    (s : Surroundings) (c : Config) (key : String) :
    (∃ e, (uploadOf plaintext key).Rejected e ∧
      Need.atLast.findSome? (complaint? s fs c image key) = some (.told (failing e))) ∨
    (∃ k, (uploadOf plaintext key).Admitted k) ∧
      Need.atLast.findSome? (complaint? s fs c image key) = none := by
  simp only [Need.atLast, findSome?_cons, List.findSome?_nil, complaint?, read, Except.toOption,
    Option.any_some, Option.or_none]
  cases filled : plaintext.isEmpty with
  | true => exact .inl ⟨_, .image filled, rfl⟩
  | false =>
    cases given : ProfileKey.ofBase64 key with
    | error e =>
      have failed : (uploadOf plaintext key).entry.key = .error e.toUploadError := by
        simp only [uploadOf, Entry.key, KeyProvider.encryptionKey, given]
        rfl
      exact .inl ⟨_, .key filled failed, rfl⟩
    | ok k =>
      have key : (uploadOf plaintext key).entry.key = .ok k := by
        simp only [uploadOf, Entry.key, KeyProvider.encryptionKey, given]
        rfl
      exact .inr ⟨⟨k, filled, key⟩, rfl⟩

/-- What the making of an upload comes to: it ends for what is looked for beforehand, or the upload
is made, and is rejected or admitted. -/
theorem makeUpload_cases (cipher : Aead) (s : Surroundings) (i : Invocation) (fs : FileSystem)
    (image : Path) (key : String) :
    (∃ failure, firstUnmet s i fs image key = some failure ∧
      on (makeUpload cipher s i image key) fs = (.error failure, fs)) ∨
    ∃ store p plaintext,
      on (makeUpload cipher s i image key) fs
        = (.ok (store, (uploadOf plaintext key).alone cipher p s.clock s.resources), fs) ∧
      ((∃ e, (uploadOf plaintext key).Rejected e ∧
        firstUnmet s i fs image key = some (.told (failing e))) ∨
      (∃ k, (uploadOf plaintext key).Admitted k) ∧ firstUnmet s i fs image key = none) := by
  have checks := checks_makeUpload cipher s i fs image key
  cases beforehand : firstUnmetOf Need.beforehand s i fs image key with
  | some failure =>
    rw [beforehand] at checks
    exact .inl ⟨failure, firstUnmet_of_beforehand beforehand, checks⟩
  | none =>
    rw [beforehand] at checks
    obtain ⟨⟨store, run⟩, ⟨c, plaintext, loaded, read, rfl⟩, ended⟩ := checks
    rw [firstUnmet_of_loaded loaded, beforehand, Option.none_or]
    exact .inr ⟨store, _, plaintext, ended, rejected_or_admitted_of_read read s c key⟩

/-- An upload that is rejected has nothing to record. -/
theorem on_tellUpload_of_rejected {q : UploadRequest} {e : UploadError} (rejected : q.Rejected e)
    (cipher : Aead) (p : Pipeline) (clock : Nat → UInt64) (r : Resources) (store : FileStore)
    (fs : FileSystem) :
    on (tellUpload (store, q.alone cipher p clock r)) fs = (.error (.told (failing e)), fs) := by
  rw [UploadRequest.alone_of_rejected rejected]
  rfl

/-- A request that lacks something ends for the first need that is unmet, the files are as they
were, and an upload that was made all the same did nothing. -/
theorem on_perform_of_unmet (cipher : Aead) {failure : RequestFailure}
    (request : i.request = .upload image key)
    (unmet : firstUnmet s i fs image key = some failure) :
    on (perform cipher s i) fs = (.error failure, fs) ∧
      ∀ store u, (on (makeUpload cipher s i image key) fs).1 = .ok (store, u) →
        u.calls = [] ∧ u.recorded = [] ∧ u.resources = s.resources := by
  rw [perform_eq request]
  rcases makeUpload_cases cipher s i fs image key with
    ⟨failure', unmet', ended⟩ | ⟨store, p, plaintext, ended, ⟨e, rejected, unmet'⟩ | ⟨-, met⟩⟩
  · obtain rfl := Option.some.inj (unmet'.symm.trans unmet)
    refine ⟨bind_error ended, fun store u made => ?_⟩
    rw [ended] at made
    cases made
  · obtain rfl := Option.some.inj (unmet'.symm.trans unmet)
    refine ⟨(bind_ok ended).trans (on_tellUpload_of_rejected rejected ..), fun store' u made => ?_⟩
    rw [ended] at made
    obtain ⟨-, rfl⟩ := Prod.mk.inj (Except.ok.inj made)
    rw [UploadRequest.alone_of_rejected rejected]
    exact ⟨rfl, rfl, rfl⟩
  · cases met.symm.trans unmet

/-- A request that lacks nothing makes its upload, which draws one header. -/
theorem on_makeUpload_of_met (cipher : Aead) (met : firstUnmet s i fs image key = none) :
    ∃ store u, on (makeUpload cipher s i image key) fs = (.ok (store, u), fs) ∧
      u.resources.ivs = s.resources.ivs.tail := by
  rcases makeUpload_cases cipher s i fs image key with
    ⟨failure, unmet, -⟩ | ⟨store, p, plaintext, ended, ⟨e, -, unmet⟩ | ⟨⟨k, admitted⟩, -⟩⟩
  · cases met.symm.trans unmet
  · cases met.symm.trans unmet
  · exact ⟨store, _, ended, (UploadRequest.ivs_alone_of_admitted admitted).1⟩

end

/-! ## The program -/

/-- Whether the program makes this upload, with this store to record it. -/
def Makes (cipher : Aead) (s : Surroundings) (arguments : List RawText) (fs : FileSystem)
    (store : FileStore) (u : UploadRun) : Prop :=
  ∃ i image key, checkWorkers s.environment = .ok () ∧
    invocation s.environment arguments = .ok i ∧ i.request = .upload image key ∧
    (on (makeUpload cipher s i image key) fs).1 = .ok (store, u)

/-- Whether the program ends with this report without leaving a trace. -/
structure LeavesNoTrace (cipher : Aead) (s : Surroundings) (arguments : List RawText)
    (fs : FileSystem) (report : Report) : Prop where
  /-- The files are as they were, and neither the time nor a header nor a reply makes a
  difference. -/
  ended : ∀ s' : Surroundings, s'.environment = s.environment →
    (run cipher s' arguments : StateM FileSystem Report) fs = (report, fs)
  /-- An upload that was made did nothing. -/
  quiet : ∀ store u, Makes cipher s arguments fs store u →
    u.calls = [] ∧ u.recorded = [] ∧ u.resources = s.resources

theorem firstUnmet_congr {s s' : Surroundings} (same : s'.environment = s.environment)
    (i : Invocation) (fs : FileSystem) (image : Path) (key : String) :
    firstUnmet s' i fs image key = firstUnmet s i fs image key := by
  cases s
  cases s'
  cases same
  rfl

section

variable {cipher : Aead} {s : Surroundings} {arguments : List RawText} {i : Invocation}
  {image : Path} {key : String}

theorem leavesNoTrace_of_breakdown {cause : Breakdown}
    (faulty : checkWorkers s.environment = .error cause) :
    LeavesNoTrace cipher s arguments fs .breakdown where
  ended s' same := by
    rw [← same] at faulty
    exact run_of_breakdown faulty fs
  quiet := by
    rintro store u ⟨i, image, key, workers, -⟩
    cases faulty.symm.trans workers

theorem leavesNoTrace_of_stop {stop : Stop} (workers : checkWorkers s.environment = .ok ())
    (refused : invocation s.environment arguments = .error stop) :
    LeavesNoTrace cipher s arguments fs (.ofStop (wantsColour s.environment) stop) where
  ended s' same := by
    rw [← same] at workers refused ⊢
    exact run_of_stop workers refused fs
  quiet := by
    rintro store u ⟨i, image, key, -, asked, -⟩
    cases refused.symm.trans asked

theorem leavesNoTrace_of_unmet {failure : RequestFailure}
    (workers : checkWorkers s.environment = .ok ())
    (asked : invocation s.environment arguments = .ok i) (request : i.request = .upload image key)
    (unmet : firstUnmet s i fs image key = some failure) :
    LeavesNoTrace cipher s arguments fs failure.report where
  ended s' same := by
    rw [← firstUnmet_congr same] at unmet
    rw [← same] at workers asked
    rw [run_of_invocation workers asked, (on_perform_of_unmet cipher request unmet).1]
    rfl
  quiet := by
    rintro store u ⟨i', image', key', -, asked', request', made⟩
    cases Except.ok.inj (asked.symm.trans asked')
    cases request.symm.trans request'
    exact (on_perform_of_unmet cipher request unmet).2 store u made

/-- The program records and tells what the upload came to that it made. -/
theorem run_of_makes {store : FileStore} {u : UploadRun}
    (made : Makes cipher s arguments fs store u) :
    (run cipher s arguments : StateM FileSystem Report) fs
      = (reportOf (on (tellUpload (store, u)) fs).1, (on (tellUpload (store, u)) fs).2) := by
  obtain ⟨i, image, key, workers, asked, request, made⟩ := made
  have ended := (checks_makeUpload cipher s i fs image key).on_of_ok made
  rw [run_of_invocation workers asked, perform_eq request, bind_ok ended]

end

/-- **An upload that cannot start has no effect.**  The program ends at once where the number of
worker threads is of no use, and then where the command line is refused.  A request to upload ends
for the first need that is unmet, whatever else is amiss.  Each time the files are as they were, no
call is made and no header is drawn.  Where no need is unmet the upload is made, and its header is
drawn.  The report is then what comes of recording and telling the upload that was made. -/
theorem upload_starts_or_leaves_no_trace (cipher : Aead) (s : Surroundings)
    (arguments : List RawText) (fs : FileSystem) :
    (∀ cause, checkWorkers s.environment = .error cause →
      LeavesNoTrace cipher s arguments fs .breakdown) ∧
    (∀ stop, checkWorkers s.environment = .ok () →
      invocation s.environment arguments = .error stop →
      LeavesNoTrace cipher s arguments fs (.ofStop (wantsColour s.environment) stop)) ∧
    (∀ i image key, checkWorkers s.environment = .ok () →
      invocation s.environment arguments = .ok i → i.request = .upload image key →
      (∀ failure, firstUnmet s i fs image key = some failure →
        LeavesNoTrace cipher s arguments fs failure.report) ∧
      (firstUnmet s i fs image key = none →
        ∃ store u, Makes cipher s arguments fs store u ∧
          u.resources.ivs = s.resources.ivs.tail)) ∧
    ∀ store u, Makes cipher s arguments fs store u →
      (run cipher s arguments : StateM FileSystem Report) fs
        = (reportOf (on (tellUpload (store, u)) fs).1, (on (tellUpload (store, u)) fs).2) := by
  refine ⟨fun cause faulty => leavesNoTrace_of_breakdown faulty,
    fun stop workers refused => leavesNoTrace_of_stop workers refused, ?_,
    fun store u made => run_of_makes made⟩
  intro i image key workers asked request
  refine ⟨fun failure unmet => leavesNoTrace_of_unmet workers asked request unmet, fun met => ?_⟩
  obtain ⟨store, u, made, drawn⟩ := on_makeUpload_of_met cipher met
  exact ⟨store, u, ⟨i, image, key, workers, asked, request, congrArg Prod.fst made⟩, drawn⟩

/-- Surroundings with both credentials and maybe more. -/
def equippedSurroundings (more : List (String × RawText)) : Surroundings :=
  { bareSurroundings with
    environment :=
      ⟨("AWS_ACCESS_KEY_ID", .ofString "a") :: ("AWS_SECRET_ACCESS_KEY", .ofString "s") :: more⟩ }

/-- A request to upload the image `i` under the settings `c`. -/
def uploadArguments (key : String) : List RawText :=
  ["-c", "c", "upload", "i", "--key", key].map .ofString

/-- What these arguments ask for. -/
def uploadInvocation (key : String) : Invocation :=
  { config := settingsPath, request := .upload ⟨[105]⟩ key }

/-- Settings, an image, and the record of an earlier upload. -/
def avatarFiles (settings : String) (image : ByteArray) : FileSystem :=
  { entries := [([[99]], .file settings.toUTF8), ([[105]], .file image),
      ([[112]], .file (FileStore.contentOf FileStore.thornyRecord))] }

section

variable (more : List (String × RawText)) (text : String) (image : ByteArray) (key : String)

/-- The settings that such files hold. -/
theorem settingsOf_avatarFiles {c : Config} (decoded : Config.decode? text = some c)
    (kept : c.normalize.checked = .ok c) :
    settingsOf (equippedSurroundings more) (uploadInvocation key) (avatarFiles text image)
      = .ok c := by
  have path : (uploadInvocation key).config.expandHome (home (equippedSurroundings more))
      = settingsPath := by
    have name : settingsPath.belowHome? = none := by decide
    simp only [uploadInvocation, Path.expandHome, name]
  have there : (avatarFiles text image).nodeAt? settingsPath = some (.file text.toUTF8) := rfl
  simp only [settingsOf, path]
  exact (Config.loads_of_parses settingsPath (Config.parses_of_text decoded there)).trans kept

/-- The record among such files can be opened, so the other needs decide. -/
theorem findSome?_store_avatarFiles {c : Config} (place : c.metadata.path = "p") (path : Path)
    (before after : List Need) (met : before.findSome?
      (complaint? (equippedSurroundings more) (avatarFiles text image) c path key) = none) :
    (before ++ Need.store :: after).findSome?
        (complaint? (equippedSurroundings more) (avatarFiles text image) c path key)
      = after.findSome?
        (complaint? (equippedSurroundings more) (avatarFiles text image) c path key) := by
  have letters : Path.ofString "p" = ⟨[112]⟩ := by decide
  have name : Path.belowHome? ⟨[112]⟩ = none := by decide
  have there : (avatarFiles text image).nodeAt? ⟨[112]⟩
      = some (.file (FileStore.contentOf FileStore.thornyRecord)) := rfl
  have store : storePath (equippedSurroundings more) c = ⟨[112]⟩ := by
    simp only [storePath, place, letters, Path.expandHome, name]
  have opened : complaint? (equippedSurroundings more) (avatarFiles text image) c path key .store
      = none := by
    simp only [complaint?, store, there, FileStore.opens_contentOf, told]
  rw [List.findSome?_append, met, Option.none_or, findSome?_cons, opened, Option.none_or]

end

/-- Settings whose metadata file is `p`. -/
def localText : String := "[metadata]\npath = 'p'\n"

def localSettings : Config := { metadata := { path := "p" } }

theorem settingsOf_local (more : List (String × RawText)) (image : ByteArray) (key : String) :
    settingsOf (equippedSurroundings more) (uploadInvocation key) (avatarFiles localText image)
      = .ok localSettings :=
  settingsOf_avatarFiles more localText image key (by decide +kernel) (by decide +kernel)

/-- With such files nothing is amiss but what the upload itself looks for. -/
theorem firstUnmet_local (image : ByteArray) (key : String) :
    firstUnmet (equippedSurroundings []) (uploadInvocation key) (avatarFiles localText image)
        ⟨[105]⟩ key
      = Need.atLast.findSome? (complaint? (equippedSurroundings []) (avatarFiles localText image)
        localSettings ⟨[105]⟩ key) := by
  simp only [firstUnmet, firstUnmetOf, settingsOf_local]
  exact findSome?_store_avatarFiles [] localText image key rfl ⟨[105]⟩
    [.image, .accessKey, .secretKey, .endpoint, .bucket, .environment, .profile, .region]
    Need.atLast rfl

/-- With an empty image and a key of three bytes it is the image that is told, and the record stays.
An image of one byte with a key that is in order is uploaded.  A number of worker threads that is of
no use and a log format that is none end the program before that. -/
theorem upload_starts_or_leaves_no_trace_image_and_key :
    LeavesNoTrace XChaCha20Poly1305.aead (equippedSurroundings []) (uploadArguments "AAAA")
      (avatarFiles localText .empty)
      (.failure ["avatar upload failed", "validation error: avatar image is empty"]) ∧
    (∃ store u, Makes XChaCha20Poly1305.aead (equippedSurroundings [])
        (uploadArguments exampleKeyText) (avatarFiles localText ⟨#[1]⟩) store u ∧
      u.resources.ivs = bareSurroundings.resources.ivs.tail) ∧
    LeavesNoTrace XChaCha20Poly1305.aead
      (equippedSurroundings [("TOKIO_WORKER_THREADS", .ofString "0")]) (uploadArguments "AAAA")
      (avatarFiles localText .empty) .breakdown ∧
    ∃ report, report.exit = 2 ∧ LeavesNoTrace XChaCha20Poly1305.aead
      (equippedSurroundings [("AVAULT_LOG_FORMAT", .ofString "xml")]) (uploadArguments "AAAA")
      (avatarFiles localText .empty) report := by
  refine ⟨?_, ?_, ?_, ?_⟩
  · obtain ⟨-, -, asks, -⟩ := upload_starts_or_leaves_no_trace XChaCha20Poly1305.aead
      (equippedSurroundings []) (uploadArguments "AAAA") (avatarFiles localText .empty)
    have empty := firstUnmet_local .empty "AAAA"
    exact (asks (uploadInvocation "AAAA") ⟨[105]⟩ "AAAA" rfl (by decide +kernel) rfl).1
      (.told ["avatar upload failed", "validation error: avatar image is empty"]) empty
  · obtain ⟨-, -, asks, -⟩ := upload_starts_or_leaves_no_trace XChaCha20Poly1305.aead
      (equippedSurroundings []) (uploadArguments exampleKeyText) (avatarFiles localText ⟨#[1]⟩)
    have key : ProfileKey.ofBase64 exampleKeyText = .ok exampleKey := by decide +kernel
    have met : firstUnmet (equippedSurroundings []) (uploadInvocation exampleKeyText)
        (avatarFiles localText ⟨#[1]⟩) ⟨[105]⟩ exampleKeyText = none := by
      rw [firstUnmet_local]
      simp only [Need.atLast, findSome?_cons, complaint?, key, told]
      rfl
    exact (asks (uploadInvocation exampleKeyText) ⟨[105]⟩ exampleKeyText rfl (by decide +kernel)
      rfl).2 met
  · have faulty : checkWorkers (equippedSurroundings
        [("TOKIO_WORKER_THREADS", .ofString "0")]).environment = .error .workerCount := by
      decide +kernel
    exact (upload_starts_or_leaves_no_trace XChaCha20Poly1305.aead _ _ _).1 _ faulty
  · have refused : invocation (equippedSurroundings
        [("AVAULT_LOG_FORMAT", .ofString "xml")]).environment (uploadArguments "AAAA")
        = .error (.fault (.invalidValue "xml" "--log-format <LOG_FORMAT>")) := by
      decide +kernel
    exact ⟨_, rfl, (upload_starts_or_leaves_no_trace XChaCha20Poly1305.aead _ _ _).2.1 _ rfl
      refused⟩

/-- The needs without those that only the search for a region brings with it. -/
def Need.withoutRegion : List Need :=
  [image, accessKey, secretKey, endpoint, bucket, store, content, key]

/-- Settings without a region. -/
def placelessText : String := "[storage]\nregion = ''\n" ++ localText

def placelessSettings : Config := { localSettings with storage := { region := "" } }

theorem settingsOf_placeless (more : List (String × RawText)) (image : ByteArray) (key : String) :
    settingsOf (equippedSurroundings more) (uploadInvocation key) (avatarFiles placelessText image)
      = .ok placelessSettings :=
  settingsOf_avatarFiles more placelessText image key (by decide +kernel) (by decide +kernel)

/-- What is told of an empty image. -/
def emptyImageTold : RequestFailure := .told (failing (.validation "avatar image is empty"))

/-- Whether the first need that is unmet is an image that is not empty, the region left out, and
the program reports something else. -/
structure ReportsOtherwise (more : List (String × RawText)) (text : String) (report : Report) :
    Prop where
  asked : invocation (equippedSurroundings more).environment (uploadArguments "AAAA")
    = .ok (uploadInvocation "AAAA")
  first : firstUnmetOf Need.withoutRegion (equippedSurroundings more) (uploadInvocation "AAAA")
    (avatarFiles text .empty) ⟨[105]⟩ "AAAA" = some emptyImageTold
  ended : (run XChaCha20Poly1305.aead (equippedSurroundings more) (uploadArguments "AAAA")
    : StateM FileSystem Report) (avatarFiles text .empty) = (report, avatarFiles text .empty)
  other : report ≠ emptyImageTold.report

/-- Without a region, with any variable that is no text and with a faulty number of worker threads,
an empty image is not what is told. -/
theorem empty_image_not_told :
    ReportsOtherwise [] placelessText
      (.failure ["building storage operator", "creating S3 operator for bucket avatars"]) ∧
    ReportsOtherwise [("OTHER", ⟨[0xc3, 0x28]⟩)] localText .breakdown ∧
    ReportsOtherwise [("TOKIO_WORKER_THREADS", .ofString "0")] localText .breakdown := by
  have first_local (more : List (String × RawText))
      (met : [Need.image, .accessKey, .secretKey, .endpoint, .bucket].findSome?
        (complaint? (equippedSurroundings more) (avatarFiles localText .empty) localSettings
          ⟨[105]⟩ "AAAA") = none) :
      firstUnmetOf Need.withoutRegion (equippedSurroundings more) (uploadInvocation "AAAA")
        (avatarFiles localText .empty) ⟨[105]⟩ "AAAA" = some emptyImageTold := by
    simp only [firstUnmetOf, settingsOf_local]
    exact findSome?_store_avatarFiles more localText .empty "AAAA" rfl _
      [.image, .accessKey, .secretKey, .endpoint, .bucket] Need.atLast met
  refine ⟨⟨by decide +kernel, ?_, ?_, by decide⟩, ⟨by decide +kernel, first_local _ rfl, ?_,
    by decide⟩, ⟨by decide +kernel, first_local _ rfl, ?_, by decide⟩⟩
  · simp only [firstUnmetOf, settingsOf_placeless]
    exact findSome?_store_avatarFiles [] placelessText .empty "AAAA" rfl _
      [.image, .accessKey, .secretKey, .endpoint, .bucket] Need.atLast rfl
  · have unmet : firstUnmet (equippedSurroundings []) (uploadInvocation "AAAA")
        (avatarFiles placelessText .empty) ⟨[105]⟩ "AAAA"
          = some (.told (building (.noRegion "avatars"))) := by
      simp only [firstUnmet, firstUnmetOf, settingsOf_placeless]
      rfl
    rw [run_of_invocation rfl (i := uploadInvocation "AAAA") (by decide +kernel),
      (on_perform_of_unmet _ rfl unmet).1]
    rfl
  · have unmet : firstUnmet (equippedSurroundings [("OTHER", ⟨[0xc3, 0x28]⟩)])
        (uploadInvocation "AAAA") (avatarFiles localText .empty) ⟨[105]⟩ "AAAA"
          = some (.brokeDown (.variableNotText "OTHER")) := by
      simp only [firstUnmet, firstUnmetOf, settingsOf_local]
      rfl
    rw [run_of_invocation rfl (i := uploadInvocation "AAAA") (by decide +kernel),
      (on_perform_of_unmet _ rfl unmet).1]
    rfl
  · have faulty : checkWorkers (equippedSurroundings
        [("TOKIO_WORKER_THREADS", .ofString "0")]).environment = .error .workerCount := by
      decide +kernel
    exact run_of_breakdown faulty _

end AvatarVault.CommandLine
