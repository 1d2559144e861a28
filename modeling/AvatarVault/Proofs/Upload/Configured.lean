import AvatarVault.Proofs.Config.Load
import AvatarVault.Proofs.Record.Codec
import AvatarVault.Proofs.Upload.Agreement
import AvatarVault.Proofs.Upload.Backoff
import AvatarVault.Proofs.Upload.Schedule
/-!
Settings from their file to the calls of the host.  Loaded settings are sound, and a text that is
settings is refused for the first rule that it breaks.  The pipeline of loaded settings makes as
many calls as they allow, waits between them as they say, for thirty years at most, and finds
avatars under their base address (`loaded_settings_obeyed`).
-/
namespace AvatarVault

/-- The wait that settings ask for after failed attempt number `attempt`, in milliseconds. -/
def UploadSettings.waitMs (s : UploadSettings) (attempt : Nat) : Nat :=
  min (s.initialBackoffMs.toNat * 2 ^ (attempt - 1)) s.maxBackoffMs.toNat

/-- The address of a file: the base address, one slash, and the path of the file on the host. -/
def FileId.address (base : String) (id : FileId) : String := base ++ "/" ++ objectPath id

theorem fileUrl_eq_address (base : String) (id : FileId) : fileUrl base id = id.address base := by
  have prefixed : base ++ "/files/" = base ++ "/" ++ (filesDirectory ++ "/") := by
    rw [String.append_assoc]
    rfl
  rw [fileUrl, FileId.address, objectPath, prefixed, String.append_assoc]

/-- Doubling makes no wait shorter, and the longest wait is not shorter than the first. -/
theorem UploadSettings.initial_le_waitMs {s : UploadSettings}
    (ordered : s.initialBackoffMs.toNat ≤ s.maxBackoffMs.toNat) (attempt : Nat) :
    s.initialBackoffMs.toNat ≤ s.waitMs attempt :=
  Nat.le_min.mpr ⟨Nat.le_mul_of_pos_right _ (Nat.two_pow_pos _), ordered⟩

/-- The pipeline of settings asks the timer for the wait that they say, to the nanosecond. -/
theorem UploadSettings.toNanos_backoff (s : UploadSettings) {attempt : Nat} (few : attempt ≤ 32) :
    ((RetryPolicy.ofSettings s).backoff attempt.toUInt32).toNanos = s.waitMs attempt * 1000000 := by
  have number : attempt.toUInt32.toNat = attempt := toNat_toUInt32 (by omega)
  have low : attempt.toUInt32.toNat ≤ 32 := by rwa [number]
  have nanos := RetryPolicy.toNanos_backoff_ofSettings s low
  rwa [number] at nanos

namespace Pipeline

variable {cipher : Aead} {p : Pipeline} {clock : Nat → UInt64} {plaintext : ByteArray}
  {start : Nat} {cancellation : Cancellation} {resources : Resources} {entry : Entry}

/-- A task of its own makes the calls and the records of the upload on it. -/
theorem enter_made (entry : Entry) :
    (p.enter cipher clock plaintext start cancellation resources entry).calls
        = (p.execute cipher clock plaintext entry.key start cancellation resources).calls ∧
      (p.enter cipher clock plaintext start cancellation resources entry).recorded
        = (p.execute cipher clock plaintext entry.key start cancellation resources).recorded := by
  cases entry <;> exact ⟨rfl, rfl⟩

theorem execute_start_head {key : Except UploadError ProfileKey} {call : Call}
    (first : (p.execute cipher clock plaintext key start cancellation resources).calls[0]?
      = some call) : call.start = start := by
  rcases execute_cases cipher p clock plaintext key start cancellation resources with
    ⟨e, ivs, run⟩ | ⟨k, avatar, -, -, run⟩
  · rw [run] at first
    cases first
  · rw [run] at first
    exact start_head first

/-- Between two calls of an upload is the wait of its policy. -/
theorem execute_start_next {key : Except UploadError ProfileKey} {i : Nat} {call next : Call}
    (made : (p.execute cipher clock plaintext key start cancellation resources).calls[i]?
      = some call)
    (then_made : (p.execute cipher clock plaintext key start cancellation resources).calls[i + 1]?
      = some next) :
    next.start = wakeAfter p.timer p.policy (1 + i)
      (call.start + (resources.replies.ahead i).latency) := by
  rcases execute_cases cipher p clock plaintext key start cancellation resources with
    ⟨e, ivs, run⟩ | ⟨k, avatar, -, -, run⟩
  · rw [run] at made
    cases made
  · rw [run] at made then_made
    exact start_next made then_made

/-- Whatever the replies, an address that an upload returns or records is that of its file. -/
theorem execute_addresses {key : Except UploadError ProfileKey} :
    (∀ s, (p.execute cipher clock plaintext key start cancellation resources).ending
      = .succeeded s → s.url = s.id.address p.baseUrl) ∧
    ∀ m ∈ (p.execute cipher clock plaintext key start cancellation resources).recorded,
      ∃ id : FileId, m.url = id.address p.baseUrl := by
  have returned (s : UploadSuccess)
      (succeeded : (p.execute cipher clock plaintext key start cancellation resources).ending
        = .succeeded s) : s.url = s.id.address p.baseUrl := by
    rcases execute_cases cipher p clock plaintext key start cancellation resources with
      ⟨e, ivs, run⟩ | ⟨k, avatar, -, -, run⟩
    · rw [run] at succeeded
      cases succeeded
    · rw [run] at succeeded
      obtain ⟨receipt, -, rfl⟩ := conclude_eq_succeeded_iff.mp succeeded
      exact fileUrl_eq_address _ _
  refine ⟨returned, fun m mem => ?_⟩
  rw [execute_recorded] at mem
  cases ended : (p.execute cipher clock plaintext key start cancellation resources).ending with
  | succeeded s =>
    rw [ended] at mem
    rw [List.mem_singleton.mp mem]
    exact ⟨s.id, returned s ended⟩
  | failed e =>
    rw [ended] at mem
    cases mem
  | crashed =>
    rw [ended] at mem
    cases mem

/-- Over transient replies an upload that nobody cancels spends its whole budget. -/
theorem enter_of_transient (seals : cipher.Seals segmentSize) (filled : plaintext.isEmpty = false)
    (size : plaintext.size < 2 ^ 63) {k : ProfileKey} (given : entry.key = .ok k)
    (transient : resources.replies.Transient) :
    (p.enter cipher clock plaintext start none resources entry).calls.length = p.policy.budget ∧
      ∃ cause, (p.enter cipher clock plaintext start none resources entry).ending
        = .failed (.exhaustedRetries p.policy.budget cause) := by
  have calm (i : Nat) : (resources.replies.ahead i).answer ≠ .crashed :=
    Answer.ne_crashed_of_isTransient (transient.transient i)
  obtain ⟨segments, -, made⟩ :=
    exists_sealed seals plaintext k resources.ivs.head (sealedSize_lt size)
  have whole : p.policy.budget - 1 + 1 = p.policy.budget := Nat.sub_add_cancel p.policy.budget_pos
  rw [enter_of_calm calm, given, execute_of_sealed filled made]
  obtain ⟨calls, ending⟩ := retryFrom_of_transient p.timer p.policy
    (resources.ivs.head.val ++ joined segments) (p.policy.budget - 1) 1 start transient
  rw [whole] at calls
  refine ⟨calls, ?_⟩
  have last := transient.transient (p.policy.budget - 1)
  rw [Nat.add_comm 1, whole] at ending
  cases answered : resources.replies.answers (p.policy.budget - 1) with
  | accepted id =>
    rw [answered] at last
    cases last
  | crashed =>
    rw [answered] at last
    cases last
  | refused cause =>
    rw [answered] at last ending
    have again : cause.transient = true := last
    refine ⟨cause, ?_⟩
    dsimp only [conclude, send, uploadWithRetries]
    rw [ending]
    simp only [Answer.conclusion, again, if_true]

end Pipeline

/-- What the pipeline of settings does with them. -/
structure Config.Drives (cipher : Aead) (c : Config) : Prop where
  /-- Over transient replies an upload makes as many calls as are allowed, and then gives up. -/
  calls : ∀ (clock : Nat → UInt64) (plaintext : ByteArray) (entry : Entry) (k : ProfileKey)
    (start : Nat) (resources : Resources), plaintext.isEmpty = false → plaintext.size < 2 ^ 63 →
    entry.key = .ok k → resources.replies.Transient →
    let r := (Pipeline.ofConfig c).enter cipher clock plaintext start none resources entry
    r.calls.length = c.upload.maxAttempts.toNat ∧
      ∃ cause, r.ending = .failed (.exhaustedRetries c.upload.maxAttempts.toNat cause)
  /-- The first call is made at once. -/
  prompt : ∀ (clock : Nat → UInt64) (plaintext : ByteArray) (entry : Entry) (start : Nat)
    (cancellation : Cancellation) (resources : Resources) (call : Call),
    ((Pipeline.ofConfig c).enter cipher clock plaintext start cancellation resources
      entry).calls[0]? = some call → call.start = start
  /-- After each call but the last one an upload waits as the settings say, for thirty years at
  most. -/
  waits : ∀ (clock : Nat → UInt64) (plaintext : ByteArray) (entry : Entry) (start : Nat)
    (cancellation : Cancellation) (resources : Resources) (i : Nat) (call next : Call),
    let r := (Pipeline.ofConfig c).enter cipher clock plaintext start cancellation resources entry
    r.calls[i]? = some call → r.calls[i + 1]? = some next →
    next.start = call.start + (resources.replies.ahead i).latency
      + min (c.upload.waitMs (i + 1)) 946080000000
  /-- The timer is asked for the whole wait. -/
  delays : ∀ attempt ≤ c.upload.maxAttempts.toNat,
    ((Pipeline.ofConfig c).policy.backoff attempt.toUInt32).toNanos
      = c.upload.waitMs attempt * 1000000
  /-- No wait that the settings ask for is shorter than the first one. -/
  patient : ∀ attempt, c.upload.initialBackoffMs.toNat ≤ c.upload.waitMs attempt
  /-- Every address is the base address, a slash, and the path of the file on the host. -/
  addresses : ∀ (clock : Nat → UInt64) (plaintext : ByteArray) (entry : Entry) (start : Nat)
    (cancellation : Cancellation) (resources : Resources),
    let r := (Pipeline.ofConfig c).enter cipher clock plaintext start cancellation resources entry
    (∀ s, r.ending = .succeeded s → s.url = s.id.address c.server.baseUrl) ∧
      ∀ m ∈ r.recorded, ∃ id : FileId, m.url = id.address c.server.baseUrl

namespace Config

variable {cipher : Aead} {c : Config}

/-- The budget of a pipeline is the number of attempts that valid settings ask for. -/
theorem Valid.budget (valid : c.Valid) :
    (Pipeline.ofConfig c).policy.budget = c.upload.maxAttempts.toNat := by
  have bounds := valid.attempts
  have limit : maxUploadAttempts.toNat = 4 := rfl
  have asked : (Pipeline.ofConfig c).policy.maxAttempts = c.upload.maxAttempts := rfl
  rw [RetryPolicy.budget, asked, limit]
  omega

/-- An upload waits after call number `i + 1` as the settings say. -/
theorem start_next_ofConfig {clock : Nat → UInt64} {plaintext : ByteArray}
    {entry : Entry} {start : Nat} {cancellation : Cancellation} {resources : Resources} {i : Nat}
    {call next : Call}
    (made : ((Pipeline.ofConfig c).enter cipher clock plaintext start cancellation resources
      entry).calls[i]? = some call)
    (then_made : ((Pipeline.ofConfig c).enter cipher clock plaintext start cancellation resources
      entry).calls[i + 1]? = some next) :
    next.start = call.start + (resources.replies.ahead i).latency
      + min (c.upload.waitMs (i + 1)) 946080000000 := by
  rw [(Pipeline.enter_made entry).1] at made then_made
  have within := (List.getElem?_eq_some_iff.mp then_made).1
  have limit := Pipeline.length_calls_execute_le cipher (Pipeline.ofConfig c) clock plaintext
    entry.key start cancellation resources
  have few : i + 1 ≤ 32 := by omega
  have number : (i + 1).toUInt32.toNat = i + 1 := toNat_toUInt32 (by omega)
  have low : (i + 1).toUInt32.toNat ≤ 32 := by rwa [number]
  have wait := RetryPolicy.wait_backoff c.upload low
  rw [number] at wait
  rw [Pipeline.execute_start_next made then_made, Nat.add_comm 1 i, wakeAfter]
  exact congrArg (_ + ·) wait

theorem Valid.drives (valid : c.Valid) (seals : cipher.Seals segmentSize) : c.Drives cipher where
  calls clock plaintext entry k start resources filled size given transient := by
    rw [← valid.budget]
    exact Pipeline.enter_of_transient seals filled size given transient
  prompt clock plaintext entry start cancellation resources call first := by
    rw [(Pipeline.enter_made entry).1] at first
    exact Pipeline.execute_start_head first
  waits clock plaintext entry start cancellation resources i call next := start_next_ofConfig
  delays attempt few := c.upload.toNanos_backoff (Nat.le_trans few (by
    have bounds := valid.attempts
    omega))
  patient attempt := UploadSettings.initial_le_waitMs valid.backoffs attempt
  addresses clock plaintext entry start cancellation resources := by
    constructor
    · intro s succeeded
      rw [Pipeline.enter_eq_of_succeeded succeeded] at succeeded
      exact Pipeline.execute_addresses.1 s succeeded
    · rw [(Pipeline.enter_made entry).2]
      exact Pipeline.execute_addresses.2

end Config

/-- **Loaded settings are sound and obeyed.**  A text that is settings is loaded unless these break
a rule once the slashes at the end of their base address are gone, and then the first such rule is
reported; a missing file stands for the defaults; and whatever is loaded is sound and drives its
pipeline. -/
theorem loaded_settings_obeyed {cipher : Aead} (seals : cipher.Seals segmentSize) (path : Path)
    (fs : FileSystem) :
    let loaded := ((Config.load path : StateM FileSystem _) fs).1
    (∀ c₀, Config.Parses (fs.nodeAt? path) c₀ → ∃ c₁, Config.Trimmed c₀ c₁ ∧
      (∀ e, loaded = .error e ↔ ∃ f, Config.FirstBroken c₁ f ∧ e = .invalid f) ∧
      ∀ c, loaded = .ok c ↔ c₁ = c ∧ c₁.Valid) ∧
    (fs.nodeAt? path = none → loaded = .ok {}) ∧
    ∀ c, loaded = .ok c → c.Sound ∧ c.Drives cipher := by
  intro loaded
  have standing : loaded = Config.loads path (fs.nodeAt? path) := Config.fst_load path fs
  rw [standing]
  refine ⟨fun c₀ parses => ⟨c₀.normalize, Config.trimmed_iff.mpr rfl, ?_, ?_⟩, ?_, ?_⟩
  · intro e
    rw [Config.loads_of_parses path parses]
    exact Config.checked_eq_error_iff
  · intro c
    rw [Config.loads_of_parses path parses]
    exact Config.checked_eq_ok_iff
  · intro missing
    rw [missing]
    rfl
  · intro c ok
    have sound := Config.sound_of_loads ok
    exact ⟨sound, sound.toValid.drives seals⟩

/-! ## Files of settings -/

/-- A host that is away for good. -/
def absentHost : Resources :=
  { ivs := { item := fun _ => exampleHeader }, replies := { item := fun _ => .unavailable } }

theorem transient_absentHost : absentHost.replies.Transient :=
  ⟨fun _ => rfl, fun _ => rfl⟩

/-- Three attempts with waits that reach the longest one, and slashes at the end of the address. -/
def briskText : String :=
  "[server]\nbase_url = \"https://avatars.example//\"\n[upload]\nmax_attempts = 3\n"
    ++ "initial_backoff_ms = 3000\nmax_backoff_ms = 5000\n"

/-- The settings that this text is loaded as. -/
def briskSettings : Config :=
  { server := { baseUrl := "https://avatars.example" }
    upload := { maxAttempts := 3, initialBackoffMs := 3000, maxBackoffMs := 5000 } }

/-- Two attempts with a wait of more than thirty years between them. -/
def patientText : String :=
  "[upload]\nmax_attempts = 2\ninitial_backoff_ms = 1000000000000\n"
    ++ "max_backoff_ms = 1000000000000\n"

/-- The settings that this text is loaded as. -/
def patientSettings : Config :=
  { upload :=
      { maxAttempts := 2, initialBackoffMs := 1000000000000, maxBackoffMs := 1000000000000 } }

/-- The upload of one byte to a host that is away. -/
def absentRun (c : Config) : UploadRun :=
  (Pipeline.ofConfig c).enter XChaCha20Poly1305.aead (fun _ => 0) ⟨#[97]⟩ 0 none absentHost
    (.withProvider (.held exampleKey))

/-- The slashes are gone, and three calls are made: the second one after the first wait, the third
one after the longest. -/
theorem loaded_settings_obeyed_three_calls :
    XChaCha20Poly1305.aead.Seals segmentSize ∧
      ((Config.load settingsPath : StateM FileSystem _) (settingsFile briskText)).1
        = .ok briskSettings ∧
      briskSettings.Sound ∧
      ∃ first second third : Call, (absentRun briskSettings).calls = [first, second, third] ∧
        first.start = 0 ∧ second.start = 3000 ∧ third.start = 8000 := by
  have seals := xchacha_lawful.toSeals
  obtain ⟨parsed, -, obeyed⟩ :=
    loaded_settings_obeyed seals settingsPath (settingsFile briskText)
  have parses : Config.Parses ((settingsFile briskText).nodeAt? settingsPath)
      { briskSettings with server := { baseUrl := "https://avatars.example//" } } :=
    parses_settingsFile (by decide +kernel)
  obtain ⟨c₁, trimmed, -, accepted⟩ := parsed _ parses
  have normalized : c₁ = briskSettings := by
    rw [Config.trimmed_iff.mp trimmed]
    decide +kernel
  have valid : c₁.Valid := by
    rw [normalized]
    exact ⟨by decide, by decide, Config.isBlankText_eq_false.mp (by decide +kernel)⟩
  have loaded := (accepted c₁).mpr ⟨rfl, valid⟩
  rw [normalized] at loaded
  obtain ⟨sound, drives⟩ := obeyed _ loaded
  have calls := (drives.calls (fun _ => 0) ⟨#[97]⟩ (.withProvider (.held exampleKey)) exampleKey 0
    absentHost rfl (by decide) rfl transient_absentHost).1
  obtain ⟨first, second, third, made⟩ := List.length_eq_three.mp calls
  have start := drives.prompt (fun _ => 0) ⟨#[97]⟩ (.withProvider (.held exampleKey)) 0 none
    absentHost first (by rw [made]; rfl)
  have second_start := drives.waits (fun _ => 0) ⟨#[97]⟩ (.withProvider (.held exampleKey)) 0 none
    absentHost 0 first second (by rw [made]; rfl) (by rw [made]; rfl)
  have third_start := drives.waits (fun _ => 0) ⟨#[97]⟩ (.withProvider (.held exampleKey)) 0 none
    absentHost 1 second third (by rw [made]; rfl) (by rw [made]; rfl)
  have prompt (i : Nat) : (absentHost.replies.ahead i).latency = 0 := rfl
  have once : min (briskSettings.upload.waitMs 1) 946080000000 = 3000 := by decide
  have twice : min (briskSettings.upload.waitMs 2) 946080000000 = 5000 := by decide
  rw [start, prompt, once, Nat.zero_add] at second_start
  rw [second_start, prompt, twice] at third_start
  exact ⟨seals, loaded, sound, first, second, third, made, start, second_start, third_start⟩

/-- The next call need not wait as long as the settings ask for: a first wait of ten to the twelfth
milliseconds is cut off at thirty years. -/
theorem second_call_after_thirty_years :
    ((Config.load settingsPath : StateM FileSystem _) (settingsFile patientText)).1
        = .ok patientSettings ∧
      absentHost.replies.Transient ∧
      ∃ first second : Call, (absentRun patientSettings).calls = [first, second] ∧
        second.start = first.start + 946080000000 ∧
        second.start < first.start + (absentHost.replies.ahead 0).latency
          + patientSettings.upload.initialBackoffMs.toNat ∧
        patientSettings.upload.waitMs 1 = patientSettings.upload.initialBackoffMs.toNat := by
  have standing : Config.loads settingsPath ((settingsFile patientText).nodeAt? settingsPath)
      = .ok patientSettings := by
    rw [Config.loads_of_parses _ (parses_settingsFile (c := patientSettings) (by decide +kernel))]
    decide +kernel
  have loaded : ((Config.load settingsPath : StateM FileSystem _) (settingsFile patientText)).1
      = .ok patientSettings :=
    (Config.fst_load settingsPath (settingsFile patientText)).trans standing
  have sound : patientSettings.Sound := Config.sound_of_loads standing
  have drives := sound.toValid.drives xchacha_lawful.toSeals
  have calls := (drives.calls (fun _ => 0) ⟨#[97]⟩ (.withProvider (.held exampleKey)) exampleKey 0
    absentHost rfl (by decide) rfl transient_absentHost).1
  obtain ⟨first, second, made⟩ := List.length_eq_two.mp calls
  have second_start : second.start = first.start + (absentHost.replies.ahead 0).latency
      + min (patientSettings.upload.waitMs 1) 946080000000 :=
    drives.waits (fun _ => 0) ⟨#[97]⟩ (.withProvider (.held exampleKey)) 0 none absentHost 0 first
      second (by rw [made]; rfl) (by rw [made]; rfl)
  have prompt : (absentHost.replies.ahead 0).latency = 0 := rfl
  have cut : min (patientSettings.upload.waitMs 1) 946080000000 = 946080000000 := by decide
  have early : second.start = first.start + 946080000000 := by
    rw [second_start, prompt, Nat.add_zero, cut]
  refine ⟨loaded, transient_absentHost, first, second, made, early, ?_, by decide⟩
  rw [early, prompt, Nat.add_zero]
  exact Nat.add_lt_add_left (by decide) _

end AvatarVault
