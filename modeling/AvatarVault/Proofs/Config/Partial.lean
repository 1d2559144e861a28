import Mathlib.Data.Finset.Insert
import AvatarVault.Proofs.Config.Codec
import AvatarVault.Proofs.Config.Load
/-!
Settings given in part.  A text that says some of the settings is read as these values and the
default of every other one, whatever its order and whatever else it holds
(`partial_settings_filled_in`).
-/
namespace AvatarVault.Config

open Toml (Scalar)

/-- A text is read as these settings, and a file that holds it is loaded as what the rules make of
them. -/
def ReadAs (text : String) (c : Config) : Prop :=
  decode? text = some c ∧
    ∀ (path : Path) (fs : FileSystem), fs.nodeAt? path = some (.file text.toUTF8) →
      (load path : StateM FileSystem _) fs = (c.normalize.checked, fs)

/-- A document in part is read by what it holds, whatever its text. -/
theorem readAs_of_holds {c : Config} {F : Finset Field} {text : String}
    {doc : List (String × Toml)} (parsed : Toml.parse text = some (.table doc))
    (holds : c.Holds F doc) : ReadAs text (c.filledIn F) := by
  have decoded : decode? text = some (c.filledIn F) := by
    rw [decode?, parsed, Option.bind_some, holds.ofToml?]
  refine ⟨decoded, fun path fs there => ?_⟩
  rw [load_eq, loads_of_parses path (parses_of_text decoded there)]

/-- **Settings given in part are filled in with the defaults.**  A document that holds some of the
settings is read as these values and the default of every other field.  This is so of every text
with such a document, and of tables that are written down, in any order, with or without empty
tables among them, and with anything in tables and keys without a meaning.  For every choice of
fields there are such tables, and they can be written if no wait among them is too long. -/
theorem partial_settings_filled_in (c : Config) (F : Finset Field) :
    (∀ f, (c.filledIn F).leaf f = if f ∈ F then c.leaf f else ({} : Config).leaf f) ∧
    (∀ (text : String) (doc : List (String × Toml)), Toml.parse text = some (.table doc) →
      c.Holds F doc → ReadAs text (c.filledIn F)) ∧
    (∀ tables : List (String × List (String × Scalar)), c.Arranges F tables → Writable tables →
      ∃ text, (Toml.renderTables? tables).map String.ofList = some text ∧
        ReadAs text (c.filledIn F)) ∧
    c.Arranges F (c.tablesOf F) ∧
    ((∀ f ∈ F, ¬ (c.leaf f).IsLong) → Writable (c.tablesOf F)) := by
  refine ⟨c.leaf_filledIn F, fun text doc => readAs_of_holds, ?_, arranges_tablesOf c F,
    writable_tablesOf⟩
  intro tables arranges writable
  obtain ⟨written, rendered, parsed⟩ := arranges.exists_text writable
  exact ⟨String.ofList written, by rw [rendered, Option.map_some],
    readAs_of_holds parsed arranges.holds⟩

/-- A text with characters of all kinds. -/
def thornyLevel : String := "\"\\\n\x01"

/-- Settings with the longest wait that can be written. -/
def thornyPart : Config :=
  { storage := { enforceTls := true }, upload := { maxBackoffMs := 9223372036854775807 },
    log := { level := thornyLevel } }

/-- Two of their fields, in tables out of order, among keys and a table without a meaning and a
table without entries. -/
def thornyTables : List (String × List (String × Scalar)) :=
  [("colours", [("endpoint", .natural 7)]),
    ("log", [("base_url", .bool true), ("level", .text thornyLevel)]),
    ("server", []),
    ("upload", [("max_backoff_ms", .natural 9223372036854775807)])]

theorem writable_thornyTables : Writable thornyTables := by
  simp [Writable, thornyTables, Scalar.IsLong, or_imp, forall_and]

theorem arranges_thornyTables :
    thornyPart.Arranges {.maxBackoffMs, .level} thornyTables where
  named := ⟨by decide, by decide, by decide, by decide⟩
  given := by simp [thornyTables, thornyPart, leaf, Field.table, Field.key]
  others f missing entries mem := by
    cases f <;> simp_all [thornyTables, Field.table, Field.key]

/-- The two fields are read, and the third, which is not among them, has its default. -/
theorem partial_settings_filled_in_thorny :
    thornyPart.Arranges {.maxBackoffMs, .level} thornyTables ∧ Writable thornyTables ∧
      ∃ text, (Toml.renderTables? thornyTables).map String.ofList = some text ∧
        ReadAs text { upload := { maxBackoffMs := 9223372036854775807 }
                      log := { level := thornyLevel } } := by
  obtain ⟨-, -, written, -⟩ := partial_settings_filled_in thornyPart {.maxBackoffMs, .level}
  exact ⟨arranges_thornyTables, writable_thornyTables,
    written thornyTables arranges_thornyTables writable_thornyTables⟩

/-- Tables may be written inline and by dotted keys as well. -/
example : decode? "log.level = 'debug'\nupload = \x7b max_attempts = 2, other = [] \x7d\n"
    = some { upload := { maxAttempts := 2 }, log := { level := "debug" } } := by
  decide +kernel

end AvatarVault.Config
