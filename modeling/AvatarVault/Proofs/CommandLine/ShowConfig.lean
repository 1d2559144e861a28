import AvatarVault.Proofs.CommandLine.Steps
import AvatarVault.Proofs.Config.Codec
/-!
The settings that the program shows can be put in a file and loaded again, and are the same
(`settings_text_round_trip`).  Every text of settings is read back, and loaded settings have such a
text, since no document sets a wait that is too long to be written.
-/
namespace AvatarVault

namespace Config

variable {path : Path} {node : Option Node} {c : Config}

/-- Loaded settings can be written. -/
theorem shortWaits_of_loads (h : loads path node = .ok c) : c.ShortWaits := by
  unfold loads at h
  split at h
  · rw [← Except.ok.inj h]
    exact ⟨by decide, by decide⟩
  · cases h
  · split at h
    · cases h
    · split at h
      · cases h
      · rename_i c₀ decoded
        obtain ⟨same, -⟩ := checked_eq_ok_iff.mp h
        rw [← same]
        exact ⟨(shortWaits_of_decode? decoded).1, (shortWaits_of_decode? decoded).2⟩

end Config

namespace CommandLine

/-- What is shown of settings. -/
def shownText (path : Path) (text : String) : String :=
  "# config: " ++ path.display ++ "\n" ++ text ++ "\n"

theorem on_showConfig {c : Config} {text : String} (written : c.encode? = some text)
    (path : Path) (fs : FileSystem) :
    on (showConfig c path) fs = (.ok (shownText path text), fs) := by
  rw [showConfig, written]
  rfl

/-- What is shown is read as the settings themselves, if the path does not end the comment that
names it. -/
theorem decode?_shownText {c : Config} {text : String} (written : c.encode? = some text)
    {path : Path} (printable : ∀ ch ∈ path.display.toList, 0x20 ≤ ch.toNat ∧ ch.toNat ≠ 0x7f) :
    Config.decode? (shownText path text) = some c := by
  have plain : ∀ ch ∈ (" config: " ++ path.display).toList, Toml.isPlain ch = true := by
    have fixed : ∀ ch ∈ " config: ".toList, Toml.isPlain ch = true :=
      List.all_eq_true.mp (by decide)
    intro ch mem
    rw [String.toList_append, List.mem_append] at mem
    rcases mem with label | named
    · exact fixed ch label
    · have allowed := printable ch named
      simp [Toml.isPlain, allowed.1, allowed.2]
  have read := Config.decode?_commented written plain
  have shape : "#" ++ (" config: " ++ path.display) = "# config: " ++ path.display :=
    (String.append_assoc ..).symm
  rwa [shape] at read

/-- **Settings survive being written.**  Settings whose waits have at most 63 bits have a text, and
the text is read as these settings, whatever their texts hold; with a longer wait there is no text.
Loaded settings always have one, so the program shows it, and the very text it shows is loaded as
the same settings from any file that holds it. -/
theorem settings_text_round_trip (cipher : Aead) :
    (∀ c : Config, c.upload.initialBackoffMs.toNat < 0x8000000000000000 →
      c.upload.maxBackoffMs.toNat < 0x8000000000000000 →
      ∃ text, c.encode? = some text ∧ Config.decode? text = some c) ∧
    (∀ c : Config, 0x8000000000000000 ≤ c.upload.initialBackoffMs.toNat ∨
      0x8000000000000000 ≤ c.upload.maxBackoffMs.toNat → c.encode? = none) ∧
    ∀ (s : Surroundings) (arguments : List RawText) (i : Invocation) (c : Config)
      (fs : FileSystem),
      checkWorkers s.environment = .ok () → invocation s.environment arguments = .ok i →
      i.request = .showConfig → settingsOf s i fs = .ok c →
      (∀ ch ∈ (i.config.expandHome (home s)).display.toList, 0x20 ≤ ch.toNat ∧ ch.toNat ≠ 0x7f) →
      ∃ text, (run cipher s arguments : StateM FileSystem Report) fs = (.success text, fs) ∧
        ∀ (path : Path) (fs' : FileSystem), fs'.nodeAt? path = some (.file text.toUTF8) →
          (Config.load path : StateM FileSystem _) fs' = (.ok c, fs') := by
  refine ⟨?_, fun c => (Config.encode?_eq_none_iff c).mpr, ?_⟩
  · intro c initial longest
    obtain ⟨text, written⟩ := Config.exists_encode? ⟨initial, longest⟩
    exact ⟨text, written, Config.decode?_of_encode? written⟩
  · intro s arguments i c fs workers asked request loaded printable
    obtain ⟨text, written⟩ := Config.exists_encode? (Config.shortWaits_of_loads loaded)
    refine ⟨shownText (i.config.expandHome (home s)) text, ?_, ?_⟩
    · rw [run_of_invocation workers asked, perform_of_loaded loaded, carryOut, request]
      dsimp only
      rw [on_showConfig written]
      rfl
    · exact fun path fs' there => Config.load_of_text (Config.sound_of_loads loaded)
        (decode?_shownText written printable) there

/-- A request for the settings in a file. -/
def showArguments : List RawText := ["-c", "c", "config", "show"].map .ofString

/-- What these arguments ask for. -/
def showInvocation : Invocation := { config := settingsPath, request := .showConfig }

/-- The longest wait that can be written, and a text with characters of all kinds. -/
def thornyText : String :=
  "[upload]\nmax_backoff_ms = 9223372036854775807\n[log]\nlevel = \"\\\"\\\\\\n\\u0001\"\n"

/-- The settings that this text is loaded as. -/
def thornySettings : Config :=
  { upload := { maxBackoffMs := 9223372036854775807 }, log := { level := "\"\\\n\x01" } }

/-- Quotes, a backslash, a line end and a control character come through, as does the longest wait
that can be written; one millisecond more is refused. -/
theorem settings_text_round_trip_thorny :
    checkWorkers bareSurroundings.environment = .ok () ∧
      invocation bareSurroundings.environment showArguments = .ok showInvocation ∧
      settingsOf bareSurroundings showInvocation (settingsFile thornyText) = .ok thornySettings ∧
      (∃ text, thornySettings.encode? = some text ∧ Config.decode? text = some thornySettings) ∧
      Config.encode? { upload := { maxBackoffMs := 9223372036854775808 } } = none ∧
      ∃ text, (run XChaCha20Poly1305.aead bareSurroundings showArguments
          : StateM FileSystem Report) (settingsFile thornyText)
            = (.success text, settingsFile thornyText) ∧
        (Config.load settingsPath : StateM FileSystem _) (settingsFile text)
          = (.ok thornySettings, settingsFile text) := by
  obtain ⟨short, long, shown⟩ := settings_text_round_trip XChaCha20Poly1305.aead
  have workers : checkWorkers bareSurroundings.environment = .ok () := rfl
  have asked : invocation bareSurroundings.environment showArguments = .ok showInvocation := by
    decide +kernel
  have loaded : settingsOf bareSurroundings showInvocation (settingsFile thornyText)
      = .ok thornySettings := by
    have path : showInvocation.config.expandHome (home bareSurroundings) = settingsPath := by
      decide
    have parses : Config.Parses ((settingsFile thornyText).nodeAt? settingsPath) thornySettings :=
      parses_settingsFile (by decide +kernel)
    have kept : thornySettings.normalize.checked = .ok thornySettings := by
      decide +kernel
    simp only [settingsOf, path]
    exact (Config.loads_of_parses settingsPath parses).trans kept
  have name : (showInvocation.config.expandHome (home bareSurroundings)).display = "c" := by
    decide +kernel
  obtain ⟨text, success, loads⟩ := shown bareSurroundings showArguments showInvocation
    thornySettings (settingsFile thornyText) workers asked rfl loaded (by rw [name]; simp)
  exact ⟨workers, asked, loaded, short thornySettings (by decide) (by decide),
    long _ (.inr (by decide)), text, success,
    loads settingsPath (settingsFile text) (nodeAt?_settingsFile text)⟩

end CommandLine

end AvatarVault
