import Mathlib.Data.List.Induction
import AvatarVault.File.System
import AvatarVault.Proofs.File.Parts
/-!
A tree of files: what stands at a place after a change (`node?_insert_of_ne` and the like), where
the parts of a path lead (`enter_eq_ok`, `walk_append_eq_ok`), and each operation by what it asks for
and what it leaves (`write_eq_ok`, `rename_eq_ok`).  A path leads to the same place as long as the
directories on its way stay (`KeepsDirectories`), and everything keeps standing in a directory
(`IsTree`).
-/
namespace AvatarVault.FileSystem

open AvatarVault.Path

variable {fs fs' fs'' : FileSystem} {l l' : Location} {p q : Path} {n : Node}

/-! ## What stands at a place after a change -/

/-- Taking away what stands at one place keeps what stands at another. -/
theorem find?_filter_of_ne (h : l' ≠ l) (entries : List (Location × Node)) :
    (entries.filter fun entry => entry.1 != l).find? (fun entry => entry.1 == l')
      = entries.find? fun entry => entry.1 == l' := by
  rw [List.find?_filter]
  congr 1
  funext entry
  by_cases at_ : entry.1 = l' <;> simp [at_, h]

theorem node?_insert_of_ne (h : l' ≠ l) : (fs.insert l n).node? l' = fs.node? l' := by
  have skipped : (l == l') = false := beq_eq_false_iff_ne.2 (Ne.symm h)
  simp only [node?, insert, List.find?_cons, skipped, find?_filter_of_ne h]

theorem node?_insert_self (h : l ≠ []) : (fs.insert l n).node? l = some n := by
  simp [node?, insert, h]

theorem node?_erase_of_ne (h : l' ≠ l) : (fs.erase l).node? l' = fs.node? l' := by
  simp only [node?, erase, find?_filter_of_ne h]

theorem node?_erase_self (h : l ≠ []) : (fs.erase l).node? l = none := by
  simp [node?, erase, h, List.find?_filter]

theorem isDirectoryAt_iff : fs.isDirectoryAt l = true ↔ fs.node? l = some .directory := by
  rw [isDirectoryAt]
  split <;> simp_all

/-- The root is a directory, whatever the entries say. -/
theorem ne_nil_of_node? (h : fs.node? l ≠ some .directory) : l ≠ [] := by
  rintro rfl
  exact h rfl

theorem noDirectory_erase (h : fs.node? l' ≠ some .directory) :
    (fs.erase l).node? l' ≠ some .directory := by
  by_cases same : l' = l
  · rw [← same, node?_erase_self (ne_nil_of_node? h)]
    simp
  · rwa [node?_erase_of_ne same]

/-! ## Where parts lead -/

/-- The place one part further, whatever stands there. -/
def onward (l : Location) (part : FileName) : Option Location :=
  if isIdle part then some l
  else if part == above then some l.dropLast
  else if maxName < part.length then none
  else some (l ++ [part])

theorem onward_idle {part : FileName} (h : isIdle part = true) : onward l part = some l := by
  rw [onward, if_pos h]

theorem onward_above (l : Location) : onward l above = some l.dropLast := rfl

theorem onward_name {part : FileName} (name : IsName part) (h : onward l part = some l') :
    l' = l ++ [part] := by
  rw [onward, if_neg (by simp [name.1]), if_neg (by simp [name.2])] at h
  split at h
  · cases h
  · exact (Option.some.inj h).symm

/-- A part stays, leads up, or names something. -/
theorem part_cases (part : FileName) : isIdle part = true ∨ part = above ∨ IsName part := by
  by_cases idle : isIdle part = true
  · exact .inl idle
  · by_cases up : part = above
    · exact .inr (.inl up)
    · exact .inr (.inr ⟨Bool.eq_false_iff.2 idle, up⟩)

theorem enter_eq_ok {part : FileName} :
    fs.enter l part = .ok l' ↔ fs.node? l = some .directory ∧ onward l part = some l' := by
  rw [enter, onward]
  split <;> rename_i e
  · simp [e]
  · simp [e]
  · simp only [e, true_and]
    repeat' split
    all_goals simp

/-- Parts lead on from directories only. -/
theorem walk_cons_eq_ok {part : FileName} {parts : List FileName} :
    fs.walk l (part :: parts) = .ok l' ↔ fs.node? l = some .directory ∧
      ∃ next, onward l part = some next ∧ fs.walk next parts = .ok l' := by
  have step : fs.walk l (part :: parts) = .ok l' ↔
      ∃ next, fs.enter l part = .ok next ∧ fs.walk next parts = .ok l' := by
    rw [walk, List.foldlM_cons]
    cases fs.enter l part <;> simp [bind, Except.bind, walk]
  simp only [step, enter_eq_ok, and_assoc, exists_and_left]

theorem walk_append_eq_ok {front back : List FileName} :
    fs.walk l (front ++ back) = .ok l' ↔
      ∃ next, fs.walk l front = .ok next ∧ fs.walk next back = .ok l' := by
  rw [walk, List.foldlM_append]
  change (fs.walk l front).bind _ = _ ↔ _
  cases fs.walk l front <;> simp [Except.bind, walk]

/-- Idle parts lead nowhere else. -/
theorem walk_idle {parts : List FileName} (all : ∀ part ∈ parts, isIdle part = true)
    (h : fs.walk l parts = .ok l') : l' = l := by
  induction parts generalizing l with
  | nil => exact (Except.ok.inj h).symm
  | cons part parts ih =>
    obtain ⟨-, next, stays, more⟩ := walk_cons_eq_ok.1 h
    rw [onward_idle (all part (List.mem_cons_self ..))] at stays
    rw [ih (fun q mem => all q (List.mem_cons_of_mem _ mem)) more, Option.some.inj stays]

/-- Without a part that leads up, parts lead down, one name for each part that counts. -/
theorem walk_below {parts : List FileName} (down : above ∉ parts)
    (h : fs.walk l parts = .ok l') : l' = l ++ parts.filter (!isIdle ·) := by
  induction parts generalizing l with
  | nil => simpa using (Except.ok.inj h).symm
  | cons part parts ih =>
    simp only [List.mem_cons, not_or] at down
    obtain ⟨-, next, further, more⟩ := walk_cons_eq_ok.1 h
    rw [ih down.2 more, List.filter_cons]
    rcases part_cases part with idle | up | name
    · rw [onward_idle idle] at further
      simp [idle, Option.some.inj further]
    · exact absurd up.symm down.1
    · rw [onward_name name further]
      simp [name.1]

/-- Where the walk along a path starts. -/
def start (fs : FileSystem) (p : Path) : Location := if p.isAbsolute then [] else fs.current

/-- Whether a path can lead anywhere, as far as its bytes go. -/
def Passable (p : Path) : Prop := p.bytes ≠ [] ∧ ¬ (p.bytes.contains 0 ∨ maxPath ≤ p.bytes.length)

theorem resolve_eq_ok :
    fs.resolve p = .ok l ↔ Passable p ∧ fs.walk (fs.start p) p.parts = .ok l := by
  rw [resolve, Passable]
  split
  · simp_all
  · split
    · simp_all
    · simp_all [start]

/-- A path leads to one part further from the directory that the parts before lead to. -/
theorem resolve_last {front : List FileName} {last : FileName} (found : fs.resolve p = .ok l)
    (parts_eq : p.parts = front ++ [last]) :
    ∃ m, fs.walk (fs.start p) front = .ok m ∧ fs.node? m = some .directory ∧
      onward m last = some l := by
  have walked := (resolve_eq_ok.1 found).2
  rw [parts_eq] at walked
  obtain ⟨m, early, late⟩ := walk_append_eq_ok.1 walked
  obtain ⟨directory, next, further, same⟩ := walk_cons_eq_ok.1 late
  rw [← Except.ok.inj same]
  exact ⟨m, early, directory, further⟩

/-- What stands at a path. -/
def nodeAt? (fs : FileSystem) (p : Path) : Option Node := (fs.resolve p).toOption.bind fs.node?

theorem nodeAt?_of_resolve (h : fs.resolve p = .ok l) : fs.nodeAt? p = fs.node? l := by
  rw [nodeAt?, h]
  rfl

theorem nodeAt?_eq_some_iff :
    fs.nodeAt? p = some n ↔ ∃ l, fs.resolve p = .ok l ∧ fs.node? l = some n := by
  rw [nodeAt?]
  cases fs.resolve p <;> simp [Except.toOption]

theorem nodeAt?_eq_none (h : ∀ l, fs.resolve p = .ok l → fs.node? l = none) :
    fs.nodeAt? p = none := by
  cases found : fs.resolve p with
  | error => rw [nodeAt?, found]; rfl
  | ok l => rw [nodeAt?_of_resolve found, h l found]

theorem pathExists_eq (fs : FileSystem) (p : Path) : fs.pathExists p = (fs.nodeAt? p).isSome := by
  rw [pathExists, nodeAt?]
  cases fs.resolve p <;> rfl

theorem read_directory (h : fs.nodeAt? p = some .directory) : fs.read p = .error .isDirectory := by
  obtain ⟨l, found, directory⟩ := nodeAt?_eq_some_iff.1 h
  simp only [read, found, bind, Except.bind, directory]

theorem read_file {content : ByteArray} (h : fs.nodeAt? p = some (.file content)) :
    fs.read p = .ok content := by
  obtain ⟨l, found, file⟩ := nodeAt?_eq_some_iff.1 h
  simp only [read, found, bind, Except.bind, file]

/-! ## Directories that stay -/

/-- Whether every directory is still there, the current one being the same. -/
structure KeepsDirectories (fs fs' : FileSystem) : Prop where
  current : fs'.current = fs.current
  directory : ∀ l, fs.node? l = some .directory → fs'.node? l = some .directory

namespace KeepsDirectories

theorem refl (fs : FileSystem) : KeepsDirectories fs fs := ⟨rfl, fun _ h => h⟩

theorem trans (first : KeepsDirectories fs fs') (second : KeepsDirectories fs' fs'') :
    KeepsDirectories fs fs'' :=
  ⟨second.current.trans first.current, fun l h => second.directory l (first.directory l h)⟩

theorem start_eq (h : KeepsDirectories fs fs') (p : Path) : fs'.start p = fs.start p := by
  rw [start, start, h.current]

theorem walk {parts : List FileName} (h : KeepsDirectories fs fs')
    (walked : fs.walk l parts = .ok l') : fs'.walk l parts = .ok l' := by
  induction parts generalizing l with
  | nil => exact walked
  | cons part parts ih =>
    obtain ⟨directory, next, further, more⟩ := walk_cons_eq_ok.1 walked
    exact walk_cons_eq_ok.2 ⟨h.directory l directory, next, further, ih more⟩

theorem resolve (h : KeepsDirectories fs fs') (found : fs.resolve p = .ok l) :
    fs'.resolve p = .ok l := by
  obtain ⟨passable, walked⟩ := resolve_eq_ok.1 found
  exact resolve_eq_ok.2 ⟨passable, by rw [h.start_eq]; exact h.walk walked⟩

/-- What is put in the place of no directory, or is one itself, takes none away. -/
theorem insert (h : n = .directory ∨ fs.node? l ≠ some .directory) :
    KeepsDirectories fs (fs.insert l n) := by
  refine ⟨rfl, fun m directory => ?_⟩
  by_cases same : m = l
  · subst same
    obtain rfl := h.resolve_right (not_not_intro directory)
    by_cases root : m = []
    · rw [root]; rfl
    · exact node?_insert_self root
  · rwa [node?_insert_of_ne same]

/-- A file is no directory before it is put somewhere either. -/
theorem of_insert_file {content : ByteArray} (h : fs.node? l ≠ some .directory) :
    KeepsDirectories (fs.insert l (.file content)) fs := by
  refine ⟨rfl, fun m directory => ?_⟩
  by_cases same : m = l
  · rw [same, node?_insert_self (ne_nil_of_node? h)] at directory
    cases directory
  · rwa [node?_insert_of_ne same] at directory

theorem erase (h : fs.node? l ≠ some .directory) : KeepsDirectories fs (fs.erase l) := by
  refine ⟨rfl, fun m directory => ?_⟩
  rwa [node?_erase_of_ne]
  rintro rfl
  exact h directory

end KeepsDirectories

/-! ## Trees -/

/-- Whether everything stands in a directory. -/
def IsTree (fs : FileSystem) : Prop :=
  ∀ l name, fs.node? (l ++ [name]) ≠ none → fs.node? l = some .directory

namespace IsTree

/-- A tree is known by its entries: each of them is in a directory. -/
theorem of_entries (h : ∀ entry ∈ fs.entries, fs.node? entry.1.dropLast = some .directory) :
    fs.IsTree := by
  intro l name present
  rw [node?, if_neg (by simp)] at present
  cases found : fs.entries.find? fun entry => entry.1 == l ++ [name] with
  | none => simp [found] at present
  | some entry =>
    have place : entry.1 = l ++ [name] := by simpa using List.find?_some found
    have around := h entry (List.mem_of_find?_eq_some found)
    rwa [place, List.dropLast_concat] at around

theorem above {below : Location} (tree : fs.IsTree) (h : fs.node? (l ++ below) ≠ none)
    (some_name : below ≠ []) : fs.node? l = some .directory := by
  induction below using List.reverseRecOn with
  | nil => contradiction
  | append_singleton below name ih =>
    rw [← List.append_assoc] at h
    have directory := tree _ _ h
    by_cases e : below = []
    · rwa [e, List.append_nil] at directory
    · exact ih (by simp [directory]) e

theorem dropLast (tree : fs.IsTree) (h : fs.node? l = some .directory) :
    fs.node? l.dropLast = some .directory := by
  rcases List.eq_nil_or_concat l with rfl | ⟨front, name, rfl⟩
  · rfl
  · rw [List.concat_eq_append] at h ⊢
    rw [List.dropLast_concat]
    exact tree front name (by simp [h])

/-- A path leads to a place in a directory. -/
theorem around (tree : fs.IsTree) (h : fs.resolve p = .ok l) :
    fs.node? l.dropLast = some .directory := by
  obtain ⟨front, last, parts_eq⟩ := (List.eq_nil_or_concat p.parts).resolve_left p.parts_ne_nil
  rw [List.concat_eq_append] at parts_eq
  obtain ⟨m, -, directory, further⟩ := resolve_last h parts_eq
  rcases part_cases last with idle | rfl | name
  · rw [onward_idle idle] at further
    rw [← Option.some.inj further]
    exact tree.dropLast directory
  · rw [onward_above] at further
    rw [← Option.some.inj further]
    exact tree.dropLast (tree.dropLast directory)
  · rw [onward_name name further, List.dropLast_concat]
    exact directory

theorem insert (tree : fs.IsTree) (around : fs.node? l.dropLast = some .directory)
    (h : n = .directory ∨ fs.node? l ≠ some .directory) : (fs.insert l n).IsTree := by
  intro m name present
  have kept := (KeepsDirectories.insert h).directory m
  by_cases same : m ++ [name] = l
  · rw [← same, List.dropLast_concat] at around
    exact kept around
  · rw [node?_insert_of_ne same] at present
    exact kept (tree m name present)

theorem erase (tree : fs.IsTree) (h : fs.node? l ≠ some .directory) : (fs.erase l).IsTree := by
  intro m name present
  refine (KeepsDirectories.erase h).directory m (tree m name ?_)
  by_cases same : m ++ [name] = l
  · rw [same, node?_erase_self (ne_nil_of_node? h)] at present
    contradiction
  · rwa [node?_erase_of_ne same] at present

end IsTree

/-! ## The operations -/

theorem makeDirectory_eq_ok :
    fs.makeDirectory p = .ok fs' ↔ ∃ l, fs.resolve (dropEndSlashes p) = .ok l ∧
      fs.node? l = none ∧ fs' = fs.insert l .directory := by
  rw [makeDirectory]
  cases fs.resolve (dropEndSlashes p) with
  | error => simp [bind, Except.bind]
  | ok l =>
    simp only [bind, Except.bind, Except.ok.injEq, exists_eq_left']
    cases e : fs.node? l <;> simp [eq_comm]

theorem write_eq_ok {content : ByteArray} :
    fs.write p content = .ok fs' ↔ ∃ l, fs.resolve p = .ok l ∧
      fs.node? l ≠ some .directory ∧ fs' = fs.insert l (.file content) := by
  rw [write]
  cases fs.resolve p with
  | error => simp [bind, Except.bind]
  | ok l =>
    simp only [bind, Except.bind, Except.ok.injEq, exists_eq_left', ne_eq, ← isDirectoryAt_iff]
    split <;> simp_all [eq_comm (a := fs')]

theorem rename_eq_ok :
    fs.rename p q = .ok fs' ↔ ∃ source target content, fs.resolve p = .ok source ∧
      fs.resolve q = .ok target ∧ fs.node? source = some (.file content) ∧
      fs.node? target ≠ some .directory ∧
      fs' = (fs.erase source).insert target (.file content) := by
  rw [rename]
  cases fs.resolve p with
  | error => simp [bind, Except.bind]
  | ok source =>
    cases fs.resolve q with
    | error => simp [bind, Except.bind]
    | ok target =>
      simp only [bind, Except.bind, Except.ok.injEq, exists_and_left, exists_eq_left', ne_eq,
        ← isDirectoryAt_iff]
      split
      · simp_all
      · simp_all
      · split <;> simp_all [eq_comm (a := fs')]

theorem keepsDirectories_write {content : ByteArray} (h : fs.write p content = .ok fs') :
    KeepsDirectories fs fs' ∧ KeepsDirectories fs' fs := by
  obtain ⟨l, -, noDirectory, rfl⟩ := write_eq_ok.1 h
  exact ⟨.insert (.inr noDirectory), .of_insert_file noDirectory⟩

theorem IsTree.write {content : ByteArray} (tree : fs.IsTree)
    (h : fs.write p content = .ok fs') : fs'.IsTree := by
  obtain ⟨l, found, noDirectory, rfl⟩ := write_eq_ok.1 h
  exact tree.insert (tree.around found) (.inr noDirectory)

/-- The file that is written is there. -/
theorem nodeAt?_write {content : ByteArray} (h : fs.write p content = .ok fs') :
    fs'.nodeAt? p = some (.file content) := by
  have kept := (keepsDirectories_write h).1
  obtain ⟨l, found, noDirectory, rfl⟩ := write_eq_ok.1 h
  rw [nodeAt?_of_resolve (kept.resolve found), node?_insert_self (ne_nil_of_node? noDirectory)]

theorem keepsDirectories_rename (h : fs.rename p q = .ok fs') : KeepsDirectories fs fs' := by
  obtain ⟨source, target, content, -, -, file, noDirectory, rfl⟩ := rename_eq_ok.1 h
  have erased : KeepsDirectories fs (fs.erase source) := .erase (by simp [file])
  exact erased.trans (.insert (.inr (noDirectory_erase noDirectory)))

theorem IsTree.rename (tree : fs.IsTree) (h : fs.rename p q = .ok fs') : fs'.IsTree := by
  obtain ⟨source, target, content, -, found, file, noDirectory, rfl⟩ := rename_eq_ok.1 h
  have erased : KeepsDirectories fs (fs.erase source) := .erase (by simp [file])
  exact (tree.erase (by simp [file])).insert (erased.directory _ (tree.around found))
    (.inr (noDirectory_erase noDirectory))

/-- A file that is moved is there. -/
theorem nodeAt?_rename (h : fs.rename p q = .ok fs') : fs'.nodeAt? q = fs.nodeAt? p := by
  have kept := keepsDirectories_rename h
  obtain ⟨source, target, content, found, foundTarget, file, noDirectory, rfl⟩ := rename_eq_ok.1 h
  rw [nodeAt?_of_resolve (kept.resolve foundTarget), nodeAt?_of_resolve found, file,
    node?_insert_self (ne_nil_of_node? noDirectory)]

end AvatarVault.FileSystem
