import AvatarVault.Proofs.Config.Fields
import AvatarVault.Proofs.Toml.Integers
/-!
The text that is written for settings gives back these settings, field by field
(`decode?_of_encode?`), and there is such a text exactly when both waits have at most 63 bits
(`encode?_eq_none_iff`).
-/
namespace AvatarVault.Config

open Toml (WellNamed document isPlain)

theorem wellNamed_tables (c : Config) : WellNamed c.tables :=
  wellNamed_tablesOf c Field.all.toFinset

/-- The settings are found by section and name. -/
theorem ofToml?_document (c : Config) : ofToml? (.table (document c.tables)) = some c := by
  have read := (arranges_tablesOf c Field.all.toFinset).holds.ofToml?
  rwa [tablesOf_all, filledIn_all] at read

/-- A wait beyond the limit, and only that, cannot be written. -/
theorem encode?_eq_none_iff (c : Config) :
    c.encode? = none ↔ 0x8000000000000000 ≤ c.upload.initialBackoffMs.toNat ∨
      0x8000000000000000 ≤ c.upload.maxBackoffMs.toNat := by
  have attempts : c.upload.maxAttempts.toNat < 0x8000000000000000 :=
    Nat.lt_trans c.upload.maxAttempts.toNat_lt_size (by decide)
  rw [encode?, Option.map_eq_none_iff, Toml.renderTables?_eq_none_iff]
  simp only [tables, List.mem_cons, List.not_mem_nil, or_false, exists_eq_or_imp, exists_eq_left,
    Toml.Scalar.render?_eq_none_iff, Toml.Scalar.IsLong, false_or, or_false]
  omega

/-- **Settings are read back from their text.** -/
theorem decode?_of_encode? {c : Config} {text : String} (h : c.encode? = some text) :
    decode? text = some c := by
  obtain ⟨written, render, rfl⟩ := Option.map_eq_some_iff.mp h
  rw [decode?, Toml.parse_renderTables? render (wellNamed_tables c), Option.bind_some,
    ofToml?_document]

/-- A comment before the text and a line end after it make no difference. -/
theorem decode?_commented {c : Config} {text comment : String} (h : c.encode? = some text)
    (plain : ∀ ch ∈ comment.toList, isPlain ch = true) :
    decode? ("#" ++ comment ++ "\n" ++ text ++ "\n") = some c := by
  obtain ⟨written, render, rfl⟩ := Option.map_eq_some_iff.mp h
  have shape : "#" ++ comment ++ "\n" ++ String.ofList written ++ "\n"
      = String.ofList ('#' :: (comment.toList ++ '\n' :: (written ++ ['\n']))) := by
    rw [← String.toList_inj]
    simp
  rw [decode?, shape, Toml.parse_commented render (wellNamed_tables c) plain, Option.bind_some,
    ofToml?_document]

/-! ## What documents can say -/

/-- Both waits have at most 63 bits. -/
def ShortWaits (c : Config) : Prop :=
  c.upload.initialBackoffMs.toNat < 0x8000000000000000 ∧
    c.upload.maxBackoffMs.toNat < 0x8000000000000000

theorem exists_encode? {c : Config} (h : c.ShortWaits) : ∃ text, c.encode? = some text := by
  rw [← Option.ne_none_iff_exists', Ne, encode?_eq_none_iff]
  exact fun long => long.elim (Nat.not_le_of_lt h.1) (Nat.not_le_of_lt h.2)

theorem Section.inRange_of_field? {s : Section} (h : s.value.InRange) {name : String} {place : Nat}
    {value : Toml} (found : s.field? name place = some value) : value.InRange := by
  rw [field?] at found
  split at found
  · rename_i entries same
    rw [same] at h
    cases h with
    | table each =>
      obtain ⟨e, first, rfl⟩ := Option.map_eq_some_iff.mp found
      exact each e (List.mem_of_find?_eq_some first)
  · rename_i items same
    rw [same] at h
    cases h with
    | array each => exact each value (List.mem_of_getElem? found)
  · cases found

/-- A number from a document has at most 63 bits, whatever the bound of its field. -/
theorem Section.natural?_lt {s : Section} (h : s.value.InRange) {name : String}
    {place bound otherwise n : Nat} (default : otherwise < 0x8000000000000000)
    (read : s.natural? name place bound otherwise = some n) : n < 0x8000000000000000 := by
  rw [natural?] at read
  split at read
  · cases read
    exact default
  · rename_i i found
    split at read
    · rename_i range
      cases read
      cases inRange_of_field? h found with
      | integer fits =>
        simp only [Toml.fits, Bool.and_eq_true, decide_eq_true_eq] at fits range
        omega
    · cases read
  · cases read

theorem sectionOf?_inRange {document : List (String × Toml)} {name : String} {s : Section}
    (h : Toml.InRange (.table document)) (found : sectionOf? document name = some s) :
    s.value.InRange := by
  rw [sectionOf?] at found
  split at found
  · cases found
    exact .table fun e mem => absurd mem List.not_mem_nil
  · rename_i key value first
    split at found
    · cases found
      cases h with
      | table each => exact each _ (List.mem_of_find?_eq_some first)
    · cases found

/-- **No document sets a wait of more than 63 bits.** -/
theorem shortWaits_of_decode? {text : String} {c : Config} (h : decode? text = some c) :
    c.ShortWaits := by
  obtain ⟨t, parsed, read⟩ := Option.bind_eq_some_iff.mp h
  have inside := Toml.parse_inRange parsed
  rw [ofToml?.eq_def] at read
  split at read
  · simp only [bind, Option.bind_eq_some_iff, pure, Option.some.injEq] at read
    obtain ⟨_, -, storage, -, u, section_found, upload, upload_read, _, -, _, -, _, -, _, -, _, -,
      _, -, rfl⟩ := read
    have inside := sectionOf?_inRange inside section_found
    simp only [upload?, bind, Option.bind_eq_some_iff, pure, Option.some.injEq] at upload_read
    obtain ⟨attempts, -, initial, first, longest, second, rfl⟩ := upload_read
    have first := Section.natural?_lt inside (by decide) first
    have second := Section.natural?_lt inside (by decide) second
    have short {n : Nat} (small : n < 0x8000000000000000) :
        n.toUInt64.toNat < 0x8000000000000000 := by
      rw [UInt64.toNat_ofNat']
      exact Nat.lt_of_le_of_lt (Nat.mod_le n _) small
    exact ⟨short first, short second⟩
  · cases read

end AvatarVault.Config
