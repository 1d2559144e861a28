import AvatarVault.Proofs.CommandLine.Steps
import AvatarVault.Proofs.Record.Persist
/-!
What an upload needs, in the order in which it is looked for (`Need.inOrder`).  A request that lacks
something ends for the first need that is unmet (`firstUnmet`).  The steps of a request that only
look leave the files as they are, and the failure of the first one counts (`Checks.bind`).
-/
namespace AvatarVault

namespace HostProfile

/-- The profile in use among these files. -/
def inUse (e : Environment) (fs : FileSystem) : Except Breakdown HostProfile :=
  match fileIn e with
  | none => .ok {}
  | some path =>
    match fs.read path with
    | .error _ => .ok {}
    | .ok content => ofFile content (nameIn e)

theorem load_eq (e : Environment) (fs : FileSystem) :
    (load e : StateM FileSystem _) fs = (inUse e fs, fs) := by
  unfold load inUse
  cases fileIn e with
  | none => rfl
  | some path =>
    dsimp only
    rw [stateM_bind]
    simp only [FileAccess.read]
    cases fs.read path <;> rfl

end HostProfile

namespace CommandLine

variable {α β ε : Type} {fs : FileSystem}

/-! ## Steps that only look -/

/-- Whether a step leaves the files as they are, and ends the request with the failure if there is
one, or else has a value of this kind. -/
def Checks (step : Step (StateM FileSystem) α) (fs : FileSystem) (P : α → Prop) :
    Option RequestFailure → Prop
  | some failure => on step fs = (.error failure, fs)
  | none => ∃ a, P a ∧ on step fs = (.ok a, fs)

namespace Checks

variable {step : Step (StateM FileSystem) α} {next : α → Step (StateM FileSystem) β} {P : α → Prop}
  {Q : β → Prop} {first rest : Option RequestFailure}

theorem congr {step' : Step (StateM FileSystem) α} (same : on step fs = on step' fs)
    (h : Checks step' fs P first) : Checks step fs P first := by
  cases first with
  | some failure => exact same.trans h
  | none =>
    obtain ⟨a, kind, ended⟩ := h
    exact ⟨a, kind, same.trans ended⟩

/-- The failure of the first of two steps counts before that of the second. -/
theorem bind (h : Checks step fs P first) (after : ∀ a, P a → Checks (next a) fs Q rest) :
    Checks (step >>= next) fs Q (first.or rest) := by
  cases first with
  | some failure => exact bind_error h
  | none =>
    obtain ⟨a, kind, ended⟩ := h
    exact (after a kind).congr (bind_ok ended)

theorem mono {P' : α → Prop} (h : Checks step fs P first) (wider : ∀ a, P a → P' a) :
    Checks step fs P' first := by
  cases first with
  | some failure => exact h
  | none =>
    obtain ⟨a, kind, ended⟩ := h
    exact ⟨a, wider a kind, ended⟩

theorem pure {a : α} (kind : P a) : Checks (pure a) fs P none := ⟨a, kind, rfl⟩

/-- A step that has a value has left the files as they are. -/
theorem on_of_ok {a : α} (h : Checks step fs P first) (value : (on step fs).1 = .ok a) :
    on step fs = (.ok a, fs) := by
  cases first with
  | some failure =>
    have failed : (on step fs).1 = .error failure := congrArg Prod.fst h
    cases failed.symm.trans value
  | none =>
    obtain ⟨a', -, ended⟩ := h
    rw [ended] at value ⊢
    rw [Except.ok.inj value]

end Checks

/-- What is told of an error. -/
def told (messages : ε → List String) : Except ε α → Option RequestFailure
  | .ok _ => none
  | .error e => some (.told (messages e))

/-- The end that a breakdown makes. -/
def broken : Except Breakdown α → Option RequestFailure
  | .ok _ => none
  | .error cause => some (.brokeDown cause)

theorem checks_demand (messages : ε → List String) (answer : Except ε α) (fs : FileSystem) :
    Checks (demand messages answer) fs (answer = .ok ·) (told messages answer) := by
  cases answer with
  | ok a => exact ⟨a, rfl, demand_ok messages a fs⟩
  | error e => exact demand_error messages e fs

theorem checks_orFail (messages : ε → List String) {step : StateM FileSystem (Except ε α)}
    {answer : Except ε α} (h : step fs = (answer, fs)) :
    Checks (orFail messages step) fs (answer = .ok ·) (told messages answer) := by
  cases answer with
  | ok a => exact ⟨a, rfl, orFail_ok h⟩
  | error e => exact orFail_error h

/-! ## What an upload needs -/

/-- What an upload needs besides the settings. -/
inductive Need where
  | image
  | accessKey
  | secretKey
  | endpoint
  | bucket
  /-- Variables that are all text, whatever they are for. -/
  | environment
  | profile
  | region
  /-- The metadata file. -/
  | store
  /-- An image that is not empty. -/
  | content
  | key
  deriving DecidableEq, Repr

namespace Need

/-- What is looked for before the upload itself is begun. -/
def beforehand : List Need :=
  [image, accessKey, secretKey, endpoint, bucket, environment, profile, region, store]

/-- What the upload itself looks for. -/
def atLast : List Need := [content, key]

/-- The order in which all is looked for. -/
def inOrder : List Need := beforehand ++ atLast

end Need

/-- What is told where neither of two variables holds a text. -/
def missing? (e : Environment) (first second : String) : Option RequestFailure :=
  if (e.text? first).isSome || (e.text? second).isSome then none
  else some (.told ["S3 credentials not set: export " ++ first ++ " or " ++ second])

/-- What is told while the way to the host is being made. -/
def building (e : ConnectionFault) : List String := ["building storage operator", e.message]

/-- What is told of a bucket without a name. -/
def unnamed? (settings : StorageSettings) : Option RequestFailure :=
  if settings.bucket.isEmpty then some (.told (building (.noBucket settings.bucket))) else none

/-- The end that a variable makes that is no text. -/
def untextual? (e : Environment) : Option RequestFailure :=
  (e.entries.find? (·.2.toString?.isNone)).map fun entry => .brokeDown (.variableNotText entry.1)

/-- The region that is found outside the settings. -/
def regionAround (e : Environment) (fs : FileSystem) : Option String :=
  (e.text? "AWS_REGION").or ((HostProfile.inUse e fs).toOption.bind (·.region))

/-- What is told where the bucket has no region. -/
def placeless? (settings : StorageSettings) (region : Option String) : Option RequestFailure :=
  if settings.region.isEmpty && region.isNone then
    some (.told (building (.noRegion settings.bucket)))
  else none

/-- The path of the metadata file. -/
def storePath (s : Surroundings) (c : Config) : Path :=
  (Path.ofString c.metadata.path).expandHome (home s)

/-- What is told of an upload that failed. -/
def failing (e : UploadError) : List String := ["avatar upload failed", e.message]

/-- How a request ends that lacks what it needs. -/
def complaint? (s : Surroundings) (fs : FileSystem) (c : Config) (image : Path) (key : String) :
    Need → Option RequestFailure
  | .image => told (fun _ => ["reading avatar: " ++ image.display]) (fs.read image)
  | .accessKey => missing? s.environment "AWS_ACCESS_KEY_ID" "AVAULT_ACCESS_KEY_ID"
  | .secretKey => missing? s.environment "AWS_SECRET_ACCESS_KEY" "AVAULT_SECRET_ACCESS_KEY"
  | .endpoint => told building (checkEndpoint c.storage)
  | .bucket => unnamed? c.storage
  | .environment => untextual? s.environment
  | .profile => broken (HostProfile.inUse s.environment fs)
  | .region => placeless? c.storage (regionAround s.environment fs)
  | .store =>
    told (fun e => ["opening metadata store: " ++ (storePath s c).display, e.message])
      (FileStore.opens (storePath s c) (fs.nodeAt? (storePath s c)))
  | .content =>
    if (fs.read image).toOption.any (·.isEmpty) then
      some (.told (failing (.validation "avatar image is empty")))
    else none
  | .key => told (fun e => failing e.toUploadError) (ProfileKey.ofBase64 key)

/-- How a request ends for the first of these needs that is unmet; the settings are loaded before
all else. -/
def firstUnmetOf (needs : List Need) (s : Surroundings) (i : Invocation) (fs : FileSystem)
    (image : Path) (key : String) : Option RequestFailure :=
  match settingsOf s i fs with
  | .error e => some (.told [e.message])
  | .ok c => needs.findSome? (complaint? s fs c image key)

/-- How a request to upload ends that lacks something: for the first need that is unmet. -/
def firstUnmet (s : Surroundings) (i : Invocation) (fs : FileSystem) (image : Path) (key : String) :
    Option RequestFailure :=
  firstUnmetOf Need.inOrder s i fs image key

/-! ## Looking for it -/

theorem findSome?_cons (f : α → Option β) (a : α) (l : List α) :
    (a :: l).findSome? f = (f a).or (l.findSome? f) := by
  rw [List.findSome?_cons]
  cases f a <;> rfl

theorem told_pick (e : Environment) (first second : String) :
    told (fun f => [f.message]) (StorageCredentials.pick e first second)
      = missing? e first second := by
  unfold StorageCredentials.pick missing?
  cases e.text? first <;> cases e.text? second <;> rfl

/-- The first credential counts before the second. -/
theorem told_ofEnvironment (e : Environment) :
    told (fun f => [f.message]) (StorageCredentials.ofEnvironment e)
      = (missing? e "AWS_ACCESS_KEY_ID" "AVAULT_ACCESS_KEY_ID").or
        (missing? e "AWS_SECRET_ACCESS_KEY" "AVAULT_SECRET_ACCESS_KEY") := by
  rw [← told_pick, ← told_pick]
  unfold StorageCredentials.ofEnvironment
  cases StorageCredentials.pick e "AWS_ACCESS_KEY_ID" "AVAULT_ACCESS_KEY_ID" with
  | error f => rfl
  | ok accessKey =>
    cases StorageCredentials.pick e "AWS_SECRET_ACCESS_KEY" "AVAULT_SECRET_ACCESS_KEY" <;> rfl

/-- The endpoint counts before the bucket. -/
theorem told_checkBucket (settings : StorageSettings) :
    told building (checkBucket settings)
      = (told building (checkEndpoint settings)).or (unnamed? settings) := by
  unfold checkBucket unnamed?
  cases checkEndpoint settings with
  | error f => rfl
  | ok done => cases settings.bucket.isEmpty <;> rfl

theorem told_connect {settings : StorageSettings} (accepted : checkBucket settings = .ok ())
    (credentials : StorageCredentials) (region : Option String) :
    told building (connect settings credentials region) = placeless? settings region := by
  unfold connect placeless?
  rw [accepted]
  cases settings.region.isEmpty <;> cases region <;> rfl

/-- The variables and the profile give a region, once nothing is wrong with them. -/
theorem checks_ambientRegion (s : Surroundings) (fs : FileSystem) :
    Checks (ambientRegion s) fs (· = regionAround s.environment fs)
      ((untextual? s.environment).or (broken (HostProfile.inUse s.environment fs))) := by
  have answer : on (ambientRegion s) fs
      = (((findRegion s.environment : StateM FileSystem _) fs).1.mapError .brokeDown,
        ((findRegion s.environment : StateM FileSystem _) fs).2) := rfl
  unfold findRegion at answer
  unfold untextual? regionAround
  cases untold : s.environment.entries.find? (·.2.toString?.isNone) with
  | some entry =>
    rw [untold] at answer
    exact answer
  | none =>
    rw [untold] at answer
    dsimp only at answer
    rw [stateM_bind, HostProfile.load_eq] at answer
    cases profile : HostProfile.inUse s.environment fs with
    | error cause =>
      rw [profile] at answer
      exact answer
    | ok profile' =>
      rw [profile] at answer
      exact ⟨_, rfl, answer⟩

/-- What ends the making of the way to the host, the credentials first. -/
def reachFailure? (s : Surroundings) (c : Config) (fs : FileSystem) : Option RequestFailure :=
  ((missing? s.environment "AWS_ACCESS_KEY_ID" "AVAULT_ACCESS_KEY_ID").or
    (missing? s.environment "AWS_SECRET_ACCESS_KEY" "AVAULT_SECRET_ACCESS_KEY")).or
    (((told building (checkEndpoint c.storage)).or (unnamed? c.storage)).or
      (((untextual? s.environment).or (broken (HostProfile.inUse s.environment fs))).or
        (placeless? c.storage (regionAround s.environment fs))))

theorem checks_reachHost (s : Surroundings) (c : Config) (fs : FileSystem) :
    Checks (reachHost s c) fs (fun _ => True) (reachFailure? s c fs) := by
  unfold reachFailure?
  rw [← told_ofEnvironment, ← told_checkBucket]
  refine (checks_demand _ _ fs).bind fun credentials _ => ?_
  refine (checks_demand building _ fs).bind fun done accepted => ?_
  refine (checks_ambientRegion s fs).bind fun region found => ?_
  rw [found, ← told_connect accepted credentials]
  exact (checks_demand building _ fs).mono fun _ _ => trivial

theorem checks_openStore (s : Surroundings) (c : Config) (fs : FileSystem) :
    Checks (openStore s c) fs (fun _ => True)
      (told (fun e => ["opening metadata store: " ++ (storePath s c).display, e.message])
        (FileStore.opens (storePath s c) (fs.nodeAt? (storePath s c)))) :=
  (checks_orFail _ (FileStore.openAt_eq (storePath s c) fs)).mono fun _ _ => trivial

end CommandLine

end AvatarVault
