import AvatarVault.CommandLine.Run
import AvatarVault.Proofs.Config.Load
import AvatarVault.Proofs.Sealed.RoundTrip
/-!
Requests on a file system, step by step.  A step that goes well hands on its value and its file
system, and one that fails ends the request (`bind_ok`, `bind_error`).  The program reports what
comes of the request of an invocation (`run_of_invocation`), which is carried out once the settings
are loaded (`perform_of_loaded`).
-/
namespace AvatarVault.CommandLine

variable {α β ε : Type} {fs fs' : FileSystem} {failure : RequestFailure} {a : α}

/-- What a step does to a file system. -/
def on (step : Step (StateM FileSystem) α) (fs : FileSystem) :
    Except RequestFailure α × FileSystem :=
  step.run fs

section Bind

variable {step : Step (StateM FileSystem) α} {next : α → Step (StateM FileSystem) β}

theorem bind_ok (h : on step fs = (.ok a, fs')) : on (step >>= next) fs = on (next a) fs' := by
  show (step.run >>= ExceptT.bindCont next : StateM FileSystem _) fs = _
  rw [stateM_bind]
  have went_well : step.run fs = (.ok a, fs') := h
  rw [went_well]
  rfl

theorem bind_error (h : on step fs = (.error failure, fs')) :
    on (step >>= next) fs = (.error failure, fs') := by
  show (step.run >>= ExceptT.bindCont next : StateM FileSystem _) fs = _
  rw [stateM_bind]
  have stopped : step.run fs = (.error failure, fs') := h
  rw [stopped]
  rfl

end Bind

section Fail

variable {messages : ε → List String} {e : ε}

theorem orFail_ok {step : StateM FileSystem (Except ε α)} (h : step fs = (.ok a, fs')) :
    on (orFail messages step) fs = (.ok a, fs') := by
  unfold orFail
  show (step >>= _ : StateM FileSystem _) fs = _
  rw [stateM_bind, h]
  rfl

theorem orFail_error {step : StateM FileSystem (Except ε α)} (h : step fs = (.error e, fs')) :
    on (orFail messages step) fs = (.error (.told (messages e)), fs') := by
  unfold orFail
  show (step >>= _ : StateM FileSystem _) fs = _
  rw [stateM_bind, h]
  rfl

theorem demand_ok (messages : ε → List String) (a : α) (fs : FileSystem) :
    on (demand messages (.ok a)) fs = (.ok a, fs) := rfl

theorem demand_error (messages : ε → List String) (e : ε) (fs : FileSystem) :
    on (demand messages (.error e) : Step (StateM FileSystem) α) fs
      = (.error (.told (messages e)), fs) := rfl

end Fail

/-! ## The program around a request -/

/-- The report of what came of a request. -/
def reportOf : Except RequestFailure String → Report
  | .ok output => .success output
  | .error failure => failure.report

variable {cipher : Aead} {s : Surroundings} {arguments : List RawText} {i : Invocation}

/-- A number of worker threads that is of no use ends the program at once. -/
theorem run_of_breakdown {cause : Breakdown} (faulty : checkWorkers s.environment = .error cause)
    (fs : FileSystem) :
    (run cipher s arguments : StateM FileSystem Report) fs = (.breakdown, fs) := by
  unfold run
  rw [faulty]
  rfl

/-- A command line that is no request ends the program next. -/
theorem run_of_stop {stop : Stop} (workers : checkWorkers s.environment = .ok ())
    (refused : invocation s.environment arguments = .error stop) (fs : FileSystem) :
    (run cipher s arguments : StateM FileSystem Report) fs
      = (.ofStop (wantsColour s.environment) stop, fs) := by
  unfold run
  rw [workers, refused]
  rfl

/-- The report of an invocation is that of its request. -/
theorem run_of_invocation (workers : checkWorkers s.environment = .ok ())
    (asked : invocation s.environment arguments = .ok i) (fs : FileSystem) :
    (run cipher s arguments : StateM FileSystem Report) fs
      = (reportOf (on (perform cipher s i) fs).1, (on (perform cipher s i) fs).2) := by
  unfold run
  rw [workers, asked]
  dsimp only
  rw [stateM_bind]
  rcases answer : on (perform cipher s i) fs with ⟨failure | output, fs'⟩
  · have failed : (perform cipher s i : Step (StateM FileSystem) _).run fs
        = (.error failure, fs') := answer
    rw [failed]
    rfl
  · have went_well : (perform cipher s i : Step (StateM FileSystem) _).run fs
        = (.ok output, fs') := answer
    rw [went_well]
    rfl

/-- What is loaded as the settings of an invocation. -/
def settingsOf (s : Surroundings) (i : Invocation) (fs : FileSystem) : Except ConfigError Config :=
  let path := i.config.expandHome (home s)
  Config.loads path (fs.nodeAt? path)

theorem load_settings (s : Surroundings) (i : Invocation) (fs : FileSystem) :
    (Config.load (i.config.expandHome (home s)) : StateM FileSystem _) fs
      = (settingsOf s i fs, fs) :=
  Config.load_eq _ fs

/-- What is left to do of an invocation once its settings are loaded. -/
def carryOut (cipher : Aead) (s : Surroundings) (i : Invocation) (c : Config) :
    Step (StateM FileSystem) String :=
  match i.request with
  | .upload image key => upload cipher s c image key
  | .decrypt source output key digest => decrypt cipher source output key digest
  | .last => last s c
  | .status => status s c
  | .showConfig => showConfig c (i.config.expandHome (home s))

theorem perform_of_loaded {c : Config} (loaded : settingsOf s i fs = .ok c) :
    on (perform cipher s i) fs = on (carryOut cipher s i c) fs := by
  have load := load_settings s i fs
  rw [loaded] at load
  exact bind_ok (orFail_ok load)

/-- Surroundings without variables. -/
def bareSurroundings : Surroundings :=
  { environment := ⟨[]⟩, clock := fun _ => 0
    resources :=
      { ivs := { item := fun _ => exampleHeader }, replies := { item := fun _ => .unavailable } } }

/-- The text of the key for concrete cases. -/
def exampleKeyText : String := "KioqKioqKioqKioqKioqKioqKioqKioqKioqKioqKio="

end AvatarVault.CommandLine
