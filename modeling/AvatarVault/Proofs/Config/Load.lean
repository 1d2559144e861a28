import AvatarVault.Proofs.Config.Rules
import AvatarVault.Proofs.File.Disk
import AvatarVault.Proofs.Record.Codec
/-!
Loading settings depends on what stands at the path alone and changes nothing (`load_eq`).  What is
loaded is sound (`sound_of_loads`), and a text that is settings is refused for the rules only
(`loads_of_parses`).
-/
namespace AvatarVault

namespace Config

open FileSystem

variable {path : Path} {node : Option Node} {c c₀ : Config}

/-- What is loaded when this stands at the path. -/
def loads (path : Path) : Option Node → Except ConfigError Config
  | none => .ok {}
  | some .directory => .error (.reading path)
  | some (.file content) =>
    match String.fromUTF8? content with
    | none => .error (.reading path)
    | some text =>
      match decode? text with
      | none => .error (.parsing path)
      | some c => c.normalize.checked

theorem load_eq (path : Path) (fs : FileSystem) :
    (load path : StateM FileSystem _) fs = (loads path (fs.nodeAt? path), fs) := by
  unfold load FileAccess.readText
  simp only [stateM_bind, FileAccess.pathExists, FileAccess.read, pathExists_eq]
  cases node : fs.nodeAt? path with
  | none => rfl
  | some node' =>
    simp only [Option.isSome_some, if_true, stateM_bind]
    cases node' with
    | directory =>
      rw [read_directory node]
      rfl
    | file content =>
      rw [read_file node]
      dsimp only [loads]
      cases String.fromUTF8? content with
      | none => rfl
      | some text =>
        dsimp only [stateM_pure]
        cases decode? text <;> rfl

theorem fst_load (path : Path) (fs : FileSystem) :
    ((load path : StateM FileSystem _) fs).1 = loads path (fs.nodeAt? path) := by
  rw [load_eq]

/-- The defaults obey the rules. -/
theorem sound_default : Config.Sound {} := by
  have valid : Config.Valid {} :=
    ⟨by decide, by decide, isBlankText_eq_false.mp (by decide)⟩
  exact valid.sound (by decide)

theorem sound_of_checked {c₁ : Config} (h : c₀.normalize.checked = .ok c₁) : c₁.Sound := by
  obtain ⟨rfl, valid⟩ := checked_eq_ok_iff.mp h
  exact valid.sound (trimmed_iff.mpr rfl).bare

/-- Whatever stands at the path, loaded settings are sound. -/
theorem sound_of_loads (h : loads path node = .ok c) : c.Sound := by
  unfold loads at h
  split at h
  · rw [← Except.ok.inj h]
    exact sound_default
  · cases h
  · split at h
    · cases h
    · split at h
      · cases h
      · exact sound_of_checked h

/-- Whether a file stands there whose text is settings. -/
def Parses (node : Option Node) (c : Config) : Prop :=
  ∃ content text, node = some (.file content) ∧ String.fromUTF8? content = some text ∧
    decode? text = some c

theorem loads_of_parses (path : Path) (h : Parses node c) :
    loads path node = c.normalize.checked := by
  obtain ⟨content, text, rfl, read, decoded⟩ := h
  simp only [loads, read, decoded]

theorem parses_of_text {text : String} (decoded : decode? text = some c)
    (there : node = some (.file text.toUTF8)) : Parses node c :=
  ⟨text.toUTF8, text, there, fromUTF8?_toUTF8 text, decoded⟩

/-- A text that is read as sound settings is loaded as these settings, wherever it stands. -/
theorem load_of_text {text : String} (sound : c.Sound) (decoded : decode? text = some c)
    {fs : FileSystem} (there : fs.nodeAt? path = some (.file text.toUTF8)) :
    (load path : StateM FileSystem _) fs = (.ok c, fs) := by
  rw [load_eq, loads_of_parses path (parses_of_text decoded there), sound.fixed, sound.passes]

end Config

/-! ## A file of settings -/

/-- A path of settings. -/
def settingsPath : Path := ⟨[99]⟩

/-- Files of which one is at that path and holds a text. -/
def settingsFile (text : String) : FileSystem := { entries := [([[99]], .file text.toUTF8)] }

theorem nodeAt?_settingsFile (text : String) :
    (settingsFile text).nodeAt? settingsPath = some (.file text.toUTF8) := rfl

theorem parses_settingsFile {text : String} {c : Config} (decoded : Config.decode? text = some c) :
    Config.Parses ((settingsFile text).nodeAt? settingsPath) c :=
  Config.parses_of_text decoded (nodeAt?_settingsFile text)

end AvatarVault
