import Mathlib.Data.Finset.Dedup
import AvatarVault.Config.Codec
import AvatarVault.Proofs.Toml.Document
/-!
The single settings, by table and key.  A document that holds some of them is read as settings that
have those values and the default of every other field (`Holds.ofToml?`): each field is looked up,
so nothing depends on the order of tables and keys, on empty tables, or on what a table or a key
without a meaning holds.
-/
namespace AvatarVault.Config

open Toml (Scalar WellNamed document)

/-! ## Fields -/

/-- The single settings. -/
inductive Field where
  | endpoint
  | region
  | bucket
  | enforceTls
  | maxAttempts
  | initialBackoffMs
  | maxBackoffMs
  | baseUrl
  | path
  | level
  | format
  deriving DecidableEq, Repr

namespace Field

/-- The name of the table that a field is in. -/
def table : Field → String
  | endpoint => "storage"
  | region => "storage"
  | bucket => "storage"
  | enforceTls => "storage"
  | maxAttempts => "upload"
  | initialBackoffMs => "upload"
  | maxBackoffMs => "upload"
  | baseUrl => "server"
  | path => "metadata"
  | level => "log"
  | format => "log"

/-- The key of a field in its table. -/
def key : Field → String
  | endpoint => "endpoint"
  | region => "region"
  | bucket => "bucket"
  | enforceTls => "enforce_tls"
  | maxAttempts => "max_attempts"
  | initialBackoffMs => "initial_backoff_ms"
  | maxBackoffMs => "max_backoff_ms"
  | baseUrl => "base_url"
  | path => "path"
  | level => "level"
  | format => "format"

/-- The names of the tables, in their order. -/
def tableNames : List String := ["storage", "upload", "server", "metadata", "log"]

theorem table_mem (f : Field) : f.table ∈ tableNames := by
  cases f <;> decide

/-- All fields. -/
def all : List Field :=
  [endpoint, region, bucket, enforceTls, maxAttempts, initialBackoffMs, maxBackoffMs, baseUrl,
    path, level, format]

theorem mem_all (f : Field) : f ∈ all := by
  cases f <;> decide

/-- No two fields have both names in common. -/
theorem eq_of_names {f g : Field} (table : f.table = g.table) (key : f.key = g.key) : f = g := by
  have distinct : ∀ f ∈ all, ∀ g ∈ all, f.table = g.table → f.key = g.key → f = g := by
    decide +kernel
  exact distinct f (mem_all f) g (mem_all g) table key

/-- Some of the fields of a table. -/
def inTable (name : String) (F : Finset Field) : List Field :=
  all.filter fun f => f.table == name && decide (f ∈ F)

theorem mem_inTable {name : String} {F : Finset Field} {f : Field} :
    f ∈ inTable name F ↔ f.table = name ∧ f ∈ F := by
  simp [inTable, mem_all]

/-- The fields of a table have different keys. -/
theorem nodup_keys_inTable (name : String) (F : Finset Field) :
    ((inTable name F).map key).Nodup := by
  have fields : all.Nodup := by decide
  refine List.Nodup.map_on (fun f one g other same => ?_) (fields.filter _)
  exact eq_of_names ((mem_inTable.mp one).1.trans (mem_inTable.mp other).1.symm) same

end Field

/-- The value of a field. -/
def leaf (c : Config) : Field → Scalar
  | .endpoint => .text c.storage.endpoint
  | .region => .text c.storage.region
  | .bucket => .text c.storage.bucket
  | .enforceTls => .bool c.storage.enforceTls
  | .maxAttempts => .natural c.upload.maxAttempts.toNat
  | .initialBackoffMs => .natural c.upload.initialBackoffMs.toNat
  | .maxBackoffMs => .natural c.upload.maxBackoffMs.toNat
  | .baseUrl => .text c.server.baseUrl
  | .path => .text c.metadata.path
  | .level => .text c.log.level
  | .format => .text c.log.format

/-- Some fields by table and key. -/
def tablesOf (c : Config) (F : Finset Field) : List (String × List (String × Scalar)) :=
  Field.tableNames.map fun name =>
    (name, (Field.inTable name F).map fun f => (f.key, c.leaf f))

/-- The fields are all that is written of settings. -/
theorem tablesOf_all (c : Config) : c.tablesOf Field.all.toFinset = c.tables := rfl

/-- Settings with the same value of every field are the same. -/
theorem eq_of_leaf {c c' : Config} (same : ∀ f, c.leaf f = c'.leaf f) : c = c' := by
  obtain ⟨⟨_, _, _, _⟩, ⟨_, _, _⟩, ⟨_⟩, ⟨_⟩, ⟨_, _⟩⟩ := c
  obtain ⟨⟨_, _, _, _⟩, ⟨_, _, _⟩, ⟨_⟩, ⟨_⟩, ⟨_, _⟩⟩ := c'
  congr 2
  · exact Scalar.text.inj (same .endpoint)
  · exact Scalar.text.inj (same .region)
  · exact Scalar.text.inj (same .bucket)
  · exact Scalar.bool.inj (same .enforceTls)
  · exact UInt32.toNat_inj.mp (Scalar.natural.inj (same .maxAttempts))
  · exact UInt64.toNat_inj.mp (Scalar.natural.inj (same .initialBackoffMs))
  · exact UInt64.toNat_inj.mp (Scalar.natural.inj (same .maxBackoffMs))
  · exact Scalar.text.inj (same .baseUrl)
  · exact Scalar.text.inj (same .path)
  · exact Scalar.text.inj (same .level)
  · exact Scalar.text.inj (same .format)

/-- The values of some fields, and the default of every other one. -/
def filledIn (c : Config) (F : Finset Field) : Config where
  storage := {
    endpoint := if .endpoint ∈ F then c.storage.endpoint else ({} : Config).storage.endpoint
    region := if .region ∈ F then c.storage.region else ({} : Config).storage.region
    bucket := if .bucket ∈ F then c.storage.bucket else ({} : Config).storage.bucket
    enforceTls :=
      if .enforceTls ∈ F then c.storage.enforceTls else ({} : Config).storage.enforceTls }
  upload := {
    maxAttempts :=
      if .maxAttempts ∈ F then c.upload.maxAttempts else ({} : Config).upload.maxAttempts
    initialBackoffMs :=
      if .initialBackoffMs ∈ F then c.upload.initialBackoffMs
      else ({} : Config).upload.initialBackoffMs
    maxBackoffMs :=
      if .maxBackoffMs ∈ F then c.upload.maxBackoffMs else ({} : Config).upload.maxBackoffMs }
  server := {
    baseUrl := if .baseUrl ∈ F then c.server.baseUrl else ({} : Config).server.baseUrl }
  metadata := {
    path := if .path ∈ F then c.metadata.path else ({} : Config).metadata.path }
  log := {
    level := if .level ∈ F then c.log.level else ({} : Config).log.level
    format := if .format ∈ F then c.log.format else ({} : Config).log.format }

theorem leaf_filledIn (c : Config) (F : Finset Field) (f : Field) :
    (c.filledIn F).leaf f = if f ∈ F then c.leaf f else ({} : Config).leaf f := by
  cases f <;> simp only [leaf, filledIn] <;> split <;> rfl

/-! ## Documents in part -/

/-- A document holds the values of these fields and nothing of the other ones.  Tables without a
meaning, and keys without one, may hold anything. -/
structure Holds (c : Config) (F : Finset Field) (doc : List (String × Toml)) : Prop where
  /-- What has the name of a table is one. -/
  tables : ∀ (f : Field) (value : Toml), doc.lookup f.table = some value →
    ∃ entries, value = .table entries
  /-- The fields stand in their tables. -/
  given : ∀ f ∈ F, ∃ entries, doc.lookup f.table = some (.table entries) ∧
    entries.lookup f.key = some (c.leaf f).toToml
  /-- Where there is a table, the other fields are not in it. -/
  others : ∀ f ∉ F, ∀ entries, doc.lookup f.table = some (.table entries) →
    entries.lookup f.key = none

theorem find?_eq_lookup (entries : List (String × Toml)) (name : String) :
    (entries.find? fun entry => entry.1 == name).map (·.2) = entries.lookup name := by
  induction entries with
  | nil => rfl
  | cons entry entries ih =>
    obtain ⟨key, value⟩ := entry
    rw [List.find?_cons, List.lookup_cons, Bool.beq_comm (a := name)]
    cases key == name with
    | true => rfl
    | false => exact ih

/-- A section shows these fields and none of the other ones. -/
def Section.Shows (s : Section) (c : Config) (F : Finset Field) (name : String) : Prop :=
  ∀ f : Field, f.table = name → ∀ place,
    s.field? f.key place = if f ∈ F then some (c.leaf f).toToml else none

/-- A document that holds some fields shows them in each of its sections. -/
theorem Holds.exists_section {c : Config} {F : Finset Field} {doc : List (String × Toml)}
    (holds : c.Holds F doc) (g : Field) :
    ∃ s, sectionOf? doc g.table = some s ∧ s.Shows c F g.table := by
  have found := find?_eq_lookup doc g.table
  cases there : doc.find? fun entry => entry.1 == g.table with
  | none =>
    rw [there, Option.map_none] at found
    refine ⟨.empty, by rw [sectionOf?, there], fun f same place => ?_⟩
    by_cases mem : f ∈ F
    · obtain ⟨entries, lookup, -⟩ := holds.given f mem
      rw [same, ← found] at lookup
      cases lookup
    · rw [if_neg mem]
      rfl
  | some entry =>
    obtain ⟨name, value⟩ := entry
    rw [there, Option.map_some] at found
    obtain ⟨entries, rfl⟩ := holds.tables g value found.symm
    refine ⟨⟨.table entries⟩, by rw [sectionOf?, there]; rfl, fun f same place => ?_⟩
    rw [Section.field?]
    dsimp only
    rw [find?_eq_lookup]
    by_cases mem : f ∈ F
    · obtain ⟨entries', lookup, value⟩ := holds.given f mem
      rw [same, ← found] at lookup
      cases lookup
      rw [if_pos mem, value]
    · rw [if_neg mem, holds.others f mem entries (by rw [same, ← found])]

theorem Section.natural?_of_field? {s : Section} {name : String} {place bound otherwise n : Nat}
    (found : s.field? name place = some (.integer n)) (small : n < bound) :
    s.natural? name place bound otherwise = some n := by
  have range : (decide ((0 : Int) ≤ n) && decide ((n : Int) < bound)) = true := by
    rw [Bool.and_eq_true, decide_eq_true_eq, decide_eq_true_eq]
    omega
  rw [natural?, found]
  dsimp only
  rw [if_pos range, Int.toNat_natCast]

section Shows

variable {s : Section} {c : Config} {F : Finset Field} {f : Field} {place : Nat}

theorem text?_of_shows {otherwise x : String}
    (shows : s.field? f.key place = if f ∈ F then some (c.leaf f).toToml else none)
    (leaf : c.leaf f = .text x) :
    s.text? f.key place otherwise = some (if f ∈ F then x else otherwise) := by
  by_cases mem : f ∈ F <;> simp [Section.text?, shows, leaf, mem, Scalar.toToml]

theorem bool?_of_shows {otherwise x : Bool}
    (shows : s.field? f.key place = if f ∈ F then some (c.leaf f).toToml else none)
    (leaf : c.leaf f = .bool x) :
    s.bool? f.key place otherwise = some (if f ∈ F then x else otherwise) := by
  by_cases mem : f ∈ F <;>
    simp only [Section.bool?, shows, leaf, mem, Scalar.toToml, if_true, if_false]

theorem natural?_of_shows {bound otherwise n : Nat}
    (shows : s.field? f.key place = if f ∈ F then some (c.leaf f).toToml else none)
    (leaf : c.leaf f = .natural n) (small : n < bound) :
    s.natural? f.key place bound otherwise = some (if f ∈ F then n else otherwise) := by
  by_cases mem : f ∈ F
  · rw [if_pos mem, leaf] at shows
    rw [if_pos mem, Section.natural?_of_field? shows small]
  · rw [if_neg mem] at shows
    rw [if_neg mem, Section.natural?, shows]

theorem storage?_of_shows (shows : s.Shows c F "storage") :
    storage? s = some (c.filledIn F).storage := by
  have endpoint (otherwise : String) : s.text? "endpoint" 0 otherwise
      = some (if .endpoint ∈ F then c.storage.endpoint else otherwise) :=
    text?_of_shows (shows .endpoint rfl 0) rfl
  have region (otherwise : String) : s.text? "region" 1 otherwise
      = some (if .region ∈ F then c.storage.region else otherwise) :=
    text?_of_shows (shows .region rfl 1) rfl
  have bucket (otherwise : String) : s.text? "bucket" 2 otherwise
      = some (if .bucket ∈ F then c.storage.bucket else otherwise) :=
    text?_of_shows (shows .bucket rfl 2) rfl
  have enforceTls (otherwise : Bool) : s.bool? "enforce_tls" 3 otherwise
      = some (if .enforceTls ∈ F then c.storage.enforceTls else otherwise) :=
    bool?_of_shows (shows .enforceTls rfl 3) rfl
  simp only [storage?, endpoint, region, bucket, enforceTls, filledIn, Option.bind_eq_bind,
    Option.bind_some, Option.pure_def]

theorem upload?_of_shows (shows : s.Shows c F "upload") :
    upload? s = some (c.filledIn F).upload := by
  have attempts (otherwise : Nat) : s.natural? "max_attempts" 0 UInt32.size otherwise
      = some (if .maxAttempts ∈ F then c.upload.maxAttempts.toNat else otherwise) :=
    natural?_of_shows (shows .maxAttempts rfl 0) rfl c.upload.maxAttempts.toNat_lt_size
  have initial (otherwise : Nat) : s.natural? "initial_backoff_ms" 1 UInt64.size otherwise
      = some (if .initialBackoffMs ∈ F then c.upload.initialBackoffMs.toNat else otherwise) :=
    natural?_of_shows (shows .initialBackoffMs rfl 1) rfl c.upload.initialBackoffMs.toNat_lt_size
  have longest (otherwise : Nat) : s.natural? "max_backoff_ms" 2 UInt64.size otherwise
      = some (if .maxBackoffMs ∈ F then c.upload.maxBackoffMs.toNat else otherwise) :=
    natural?_of_shows (shows .maxBackoffMs rfl 2) rfl c.upload.maxBackoffMs.toNat_lt_size
  rw [upload?]
  simp -implicitDefEqProofs only [attempts, initial, longest, filledIn, Option.bind_eq_bind,
    Option.bind_some, Option.pure_def, ← apply_ite UInt32.toNat, ← apply_ite UInt64.toNat,
    Nat.toUInt32, Nat.toUInt64, UInt32.ofNat_toNat, UInt64.ofNat_toNat]

theorem server?_of_shows (shows : s.Shows c F "server") :
    server? s = some (c.filledIn F).server := by
  have baseUrl (otherwise : String) : s.text? "base_url" 0 otherwise
      = some (if .baseUrl ∈ F then c.server.baseUrl else otherwise) :=
    text?_of_shows (shows .baseUrl rfl 0) rfl
  simp only [server?, baseUrl, filledIn, Option.bind_eq_bind, Option.bind_some, Option.pure_def]

theorem metadata?_of_shows (shows : s.Shows c F "metadata") :
    metadata? s = some (c.filledIn F).metadata := by
  have path (otherwise : String) : s.text? "path" 0 otherwise
      = some (if .path ∈ F then c.metadata.path else otherwise) :=
    text?_of_shows (shows .path rfl 0) rfl
  simp only [metadata?, path, filledIn, Option.bind_eq_bind, Option.bind_some, Option.pure_def]

theorem log?_of_shows (shows : s.Shows c F "log") : log? s = some (c.filledIn F).log := by
  have level (otherwise : String) : s.text? "level" 0 otherwise
      = some (if .level ∈ F then c.log.level else otherwise) :=
    text?_of_shows (shows .level rfl 0) rfl
  have format (otherwise : String) : s.text? "format" 1 otherwise
      = some (if .format ∈ F then c.log.format else otherwise) :=
    text?_of_shows (shows .format rfl 1) rfl
  simp only [log?, level, format, filledIn, Option.bind_eq_bind, Option.bind_some, Option.pure_def]

end Shows

/-- What a document holds is read, and the defaults are put in for the rest. -/
theorem Holds.ofToml? {c : Config} {F : Finset Field} {doc : List (String × Toml)}
    (holds : c.Holds F doc) : ofToml? (.table doc) = some (c.filledIn F) := by
  obtain ⟨storage, storageFound, storageShows⟩ := holds.exists_section .endpoint
  obtain ⟨upload, uploadFound, uploadShows⟩ := holds.exists_section .maxAttempts
  obtain ⟨server, serverFound, serverShows⟩ := holds.exists_section .baseUrl
  obtain ⟨metadata, metadataFound, metadataShows⟩ := holds.exists_section .path
  obtain ⟨log, logFound, logShows⟩ := holds.exists_section .level
  simp only [Field.table] at storageFound uploadFound serverFound metadataFound logFound
  rw [Config.ofToml?]
  simp -implicitDefEqProofs only [storageFound, uploadFound, serverFound, metadataFound, logFound,
    storage?_of_shows storageShows, upload?_of_shows uploadShows, server?_of_shows serverShows,
    metadata?_of_shows metadataShows, log?_of_shows logShows, Option.bind_eq_bind,
    Option.bind_some, Option.pure_def]

/-! ## Written parts -/

/-- Tables hold the values of these fields and nothing of the other ones, in any order.  There may
be tables without entries, and tables and keys without a meaning. -/
structure Arranges (c : Config) (F : Finset Field)
    (tables : List (String × List (String × Scalar))) : Prop where
  named : WellNamed tables
  given : ∀ f ∈ F, ∃ entries, (f.table, entries) ∈ tables ∧ (f.key, c.leaf f) ∈ entries
  others : ∀ f ∉ F, ∀ entries, (f.table, entries) ∈ tables → f.key ∉ entries.map Prod.fst

/-- No number in the tables is too long to be written. -/
def Writable (tables : List (String × List (String × Scalar))) : Prop :=
  ∀ t ∈ tables, ∀ e ∈ t.2, ¬ e.2.IsLong

section Lookup

variable {α : Type} {l : List (String × α)} {key : String} {a : α}

theorem mem_of_lookup (found : l.lookup key = some a) : (key, a) ∈ l := by
  obtain ⟨before, after, rfl, -⟩ := List.lookup_eq_some_iff.mp found
  exact List.mem_append_right _ List.mem_cons_self

theorem lookup_of_mem (distinct : (l.map Prod.fst).Nodup) (mem : (key, a) ∈ l) :
    l.lookup key = some a := by
  obtain ⟨before, after, rfl⟩ := List.append_of_mem mem
  refine List.lookup_eq_some_iff.mpr ⟨before, after, rfl, fun e early => ?_⟩
  rw [List.map_append, List.map_cons] at distinct
  have different := (List.nodup_append.mp distinct).2.2 e.1 (List.mem_map_of_mem early) key
    List.mem_cons_self
  exact bne_iff_ne.mpr different.symm

end Lookup

theorem mem_document {tables : List (String × List (String × Scalar))} {name : String}
    {value : Toml} (mem : (name, value) ∈ document tables) :
    ∃ entries, (name, entries) ∈ tables ∧
      value = .table (entries.map fun e => (e.1, e.2.toToml)) := by
  obtain ⟨t, table, same⟩ := List.mem_map.mp mem
  cases same
  exact ⟨t.2, table, rfl⟩

/-- The document that such tables make holds the same. -/
theorem Arranges.holds {c : Config} {F : Finset Field}
    {tables : List (String × List (String × Scalar))} (arranges : c.Arranges F tables) :
    c.Holds F (document tables) where
  tables f value found := by
    obtain ⟨entries, -, rfl⟩ := mem_document (mem_of_lookup found)
    exact ⟨_, rfl⟩
  given f mem := by
    obtain ⟨entries, table, entry⟩ := arranges.given f mem
    have names : ((document tables).map Prod.fst).Nodup := by
      rw [document, List.map_map]
      exact arranges.named.names
    have keys : ((entries.map fun e => (e.1, e.2.toToml)).map Prod.fst).Nodup := by
      rw [List.map_map]
      exact arranges.named.keys _ table
    exact ⟨_, lookup_of_mem names (List.mem_map_of_mem
        (f := fun t => (t.1, Toml.table (t.2.map fun e => (e.1, e.2.toToml)))) table),
      lookup_of_mem keys (List.mem_map_of_mem (f := fun e => (e.1, Scalar.toToml e.2)) entry)⟩
  others f missing entries' found := by
    obtain ⟨entries, table, same⟩ := mem_document (mem_of_lookup found)
    cases same
    rw [← Option.not_isSome_iff_eq_none]
    intro some
    obtain ⟨value, lookup⟩ := Option.isSome_iff_exists.mp some
    obtain ⟨e, entry, same⟩ := List.mem_map.mp (mem_of_lookup lookup)
    have key : e.1 = f.key := congrArg Prod.fst same
    exact arranges.others f missing entries table (key ▸ List.mem_map_of_mem entry)

/-- Such tables have a text, if they can be written. -/
theorem Arranges.exists_text {c : Config} {F : Finset Field}
    {tables : List (String × List (String × Scalar))} (arranges : c.Arranges F tables)
    (writable : Writable tables) :
    ∃ written, Toml.renderTables? tables = some written ∧
      Toml.parse (String.ofList written) = some (.table (document tables)) := by
  have rendered : Toml.renderTables? tables ≠ none := by
    rw [Ne, Toml.renderTables?_eq_none_iff]
    rintro ⟨t, table, e, entry, unwritten⟩
    exact writable t table e entry ((Scalar.render?_eq_none_iff e.2).mp unwritten)
  obtain ⟨written, rendered⟩ := Option.ne_none_iff_exists'.mp rendered
  exact ⟨written, rendered, Toml.parse_renderTables? rendered arranges.named⟩

theorem wellNamed_tablesOf (c : Config) (F : Finset Field) : WellNamed (c.tablesOf F) where
  bareNames := by
    have bare : ∀ name ∈ Field.tableNames, Toml.IsBare name := by decide
    intro t mem
    obtain ⟨name, known, rfl⟩ := List.mem_map.mp mem
    exact bare name known
  bareKeys := by
    have bare : ∀ f ∈ Field.all, Toml.IsBare f.key := by decide
    intro t mem e entry
    obtain ⟨name, -, rfl⟩ := List.mem_map.mp mem
    obtain ⟨f, -, rfl⟩ := List.mem_map.mp entry
    exact bare f f.mem_all
  names := by
    have distinct : Field.tableNames.Nodup := by decide
    exact distinct
  keys := by
    intro t mem
    obtain ⟨name, -, rfl⟩ := List.mem_map.mp mem
    rw [List.map_map]
    exact Field.nodup_keys_inTable name F

/-- The fields in their usual order, with all their tables. -/
theorem arranges_tablesOf (c : Config) (F : Finset Field) : c.Arranges F (c.tablesOf F) where
  named := wellNamed_tablesOf c F
  given f member :=
    ⟨_, List.mem_map_of_mem f.table_mem,
      List.mem_map_of_mem (Field.mem_inTable.mpr ⟨rfl, member⟩)⟩
  others f missing entries mem := by
    obtain ⟨name, known, same⟩ := List.mem_map.mp mem
    cases same
    rw [List.map_map]
    intro there
    obtain ⟨g, chosen, key⟩ := List.mem_map.mp there
    obtain ⟨table, member⟩ := Field.mem_inTable.mp chosen
    obtain rfl := Field.eq_of_names table key
    exact missing member

/-- Fields can be written if none of them is too long. -/
theorem writable_tablesOf {c : Config} {F : Finset Field} (short : ∀ f ∈ F, ¬ (c.leaf f).IsLong) :
    Writable (c.tablesOf F) := by
  intro t mem e entry
  obtain ⟨name, -, rfl⟩ := List.mem_map.mp mem
  obtain ⟨f, chosen, rfl⟩ := List.mem_map.mp entry
  exact short f (Field.mem_inTable.mp chosen).2

/-- Where all fields are given, no default is put in. -/
theorem filledIn_all (c : Config) : c.filledIn Field.all.toFinset = c := by
  apply eq_of_leaf
  intro f
  rw [leaf_filledIn, if_pos (List.mem_toFinset.mpr f.mem_all)]

end AvatarVault.Config
