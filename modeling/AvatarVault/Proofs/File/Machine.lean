import AvatarVault.Proofs.File.Disk
/-!
A machine that may stop at any operation on its disk: before the operation, while it writes a file,
or right after it.  What is on the disk at that moment is what whoever comes next finds.  Every
operation is that of the disk (`step_cases`), so what a disk with faults keeps, such a machine keeps.
-/
namespace AvatarVault

/-- What befalls an operation: the fault that it ends in, and whether the machine stops behind it.
With both the machine stops before the operation, or while it writes. -/
structure Mishap where
  fault : Option Fault := none
  stops : Bool := false

/-- The machine stops while a file is written, and that is as far as it came. -/
def Mishap.writing (part : ByteArray) : Mishap :=
  { fault := some { error := .other, residue := some part }, stops := true }

/-- A tree of files, and what befalls each of the next operations on it. -/
structure Machine where
  tree : FileSystem
  mishaps : List Mishap := []

namespace Machine

/-- What befalls the next operation. -/
def mishap (m : Machine) : Mishap := m.mishaps.headD {}

/-- The disk that the next operation finds. -/
def disk (m : Machine) : Disk := { tree := m.tree, faults := [m.mishap.fault] }

/-- The machine after one more operation. -/
def next (m : Machine) (tree : FileSystem) : Machine := { tree, mishaps := m.mishaps.tail }

/-- An operation on the disk; where the machine stops, nothing after it is done. -/
def step {α : Type} (operation : StateM Disk α) : OptionT (StateM Machine) α := fun m =>
  (if m.mishap.stops then none else some (operation m.disk).1, m.next (operation m.disk).2.tree)

instance access : FileAccess (OptionT (StateM Machine)) where
  pathExists p := step (FileAccess.pathExists p)
  isDirectory p := step (FileAccess.isDirectory p)
  read p := step (FileAccess.read p)
  write p content := step (FileAccess.write p content)
  makeDirectory p := step (FileAccess.makeDirectory p)
  rename source target := step (FileAccess.rename source target)

variable {α β : Type} {m m' : Machine}

/-- Where the machine stops in the first of two computations, that is all. -/
theorem bind_of_stop {x : OptionT (StateM Machine) α} {f : α → OptionT (StateM Machine) β}
    (h : x m = (none, m')) : (x >>= f) m = (none, m') := by
  simp only [bind, OptionT.bind, OptionT.mk, StateT.bind, h]
  rfl

/-- Where it does not, the second one follows. -/
theorem bind_of_result {x : OptionT (StateM Machine) α} {f : α → OptionT (StateM Machine) β}
    {a : α} (h : x m = (some a, m')) : (x >>= f) m = f a m' := by
  simp only [bind, OptionT.bind, OptionT.mk, StateT.bind, h]

/-- An operation does on the machine what it does on the disk, and unless the machine stops, its
answer is told. -/
theorem step_cases {operation : StateM Disk α} {told : Option α}
    (h : step operation m = (told, m')) :
    ∃ a d, operation m.disk = (a, d) ∧ d.tree = m'.tree ∧ (told = none ∨ told = some a) := by
  rw [step] at h
  obtain ⟨ends, rfl⟩ := Prod.mk.inj h
  refine ⟨_, _, rfl, rfl, ?_⟩
  split at ends
  · exact .inl ends.symm
  · exact .inr ends.symm

variable {p q : Path} {content : ByteArray} {told : Option (Except FileError Unit)}

/-- A file is written as a whole, or it is left as it was or with any other content. -/
theorem write_cases
    (h : (FileAccess.write p content : OptionT (StateM Machine) _) m = (told, m')) :
    (m.tree.write p content = .ok m'.tree ∧ (told = none ∨ told = some (.ok ()))) ∨
      ∃ e, (m'.tree = m.tree ∨ ∃ part, m.tree.write p part = .ok m'.tree) ∧
        (told = none ∨ told = some (.error e)) := by
  obtain ⟨e | _, d, done, same, ends⟩ := step_cases h
  · refine .inr ⟨e, ?_, ends⟩
    rw [← same]
    exact Disk.write_error done
  · refine .inl ⟨?_, ends⟩
    rw [← same]
    exact Disk.write_ok done

/-- A file is moved, or it stays. -/
theorem rename_cases
    (h : (FileAccess.rename p q : OptionT (StateM Machine) _) m = (told, m')) :
    (m.tree.rename p q = .ok m'.tree ∧ (told = none ∨ told = some (.ok ()))) ∨
      ∃ e, m'.tree = m.tree ∧ (told = none ∨ told = some (.error e)) := by
  obtain ⟨e | _, d, done, same, ends⟩ := step_cases h
  · refine .inr ⟨e, ?_, ends⟩
    rw [← same]
    exact Disk.rename_error done
  · refine .inl ⟨?_, ends⟩
    rw [← same]
    exact Disk.rename_ok done

/-! ## What a computation may change -/

/-- Whether a computation changes the tree in a way that the relation allows, wherever it stops. -/
def Within (R : FileSystem → FileSystem → Prop) (x : OptionT (StateM Machine) α) : Prop :=
  ∀ m, R m.tree (x m).2.tree

section Within

variable {R : FileSystem → FileSystem → Prop}

theorem within_step {operation : StateM Disk α} (within : Disk.Within R operation) :
    Within R (step operation) := fun m => within m.disk

theorem within_bind {x : OptionT (StateM Machine) α} {f : α → OptionT (StateM Machine) β}
    (first : Within (Relation.ReflTransGen R) x)
    (more : ∀ a, Within (Relation.ReflTransGen R) (f a)) :
    Within (Relation.ReflTransGen R) (x >>= f) := by
  intro m
  have early := first m
  rcases ended : x m with ⟨_ | a, m'⟩
  all_goals rw [ended] at early
  · rw [bind_of_stop ended]
    exact early
  · rw [bind_of_result ended]
    exact early.trans (more a m')

end Within

/-- **Wherever it stops, making the directories above a path only adds directories on the way.** -/
theorem closedOnWay (p : Path) : FileAccess.ClosedOnWay (m := OptionT (StateM Machine))
    (fun _ x => Within (FileSystem.MakesWay p) x) p where
  pure _ _ := .refl
  bind := within_bind
  isDirectory _ := within_step ((Disk.closedOnWay p).isDirectory _)
  makeDirectory way := within_step ((Disk.closedOnWay p).makeDirectory way)

/-- What a file is left with when the machine stops while it is written. -/
theorem write_writing {fs fs' : FileSystem} {part : ByteArray} (left : fs.write p part = .ok fs')
    (content : ByteArray) (later : List Mishap) :
    (FileAccess.write p content : OptionT (StateM Machine) _)
        { tree := fs, mishaps := .writing part :: later }
      = (none, { tree := fs', mishaps := later }) := by
  show step (Disk.attempt (·.write p content) (·.leave p)) _ = _
  simp [step, mishap, disk, next, Mishap.writing, Disk.attempt, Disk.fault?, Disk.next,
    Fault.leave, left, Except.toOption]

/-! ## Without mishaps -/

section Quiet

open FileSystem

variable {fs : FileSystem} {l : Location}

/-- An operation that nothing befalls. -/
theorem step_quiet (operation : StateM Disk α) (later : List Mishap) :
    step operation { tree := fs, mishaps := {} :: later }
      = (some (operation { tree := fs, faults := [none] }).1,
        { tree := (operation { tree := fs, faults := [none] }).2.tree, mishaps := later }) := rfl

/-- Where a directory is there, nothing is made. -/
theorem makeDirectories_quiet (some_bytes : q.bytes ≠ []) (there : fs.resolve q = .ok l)
    (same : dropEndSlashes q = q) (directory : fs.node? l = some .directory) (later : List Mishap) :
    (FileAccess.makeDirectories q : OptionT (StateM Machine) _)
        { tree := fs, mishaps := {} :: {} :: later }
      = (some (.ok ()), { tree := fs, mishaps := later }) := by
  have occupied : fs.makeDirectory q = .error .alreadyExists := by
    rw [makeDirectory, same, there]
    simp [bind, Except.bind, directory]
  have first : (FileAccess.makeDirectory q : OptionT (StateM Machine) _)
      { tree := fs, mishaps := {} :: {} :: later }
        = (some (.error .alreadyExists), { tree := fs, mishaps := {} :: later }) := by
    show step (Disk.attempt (·.makeDirectory q) _) _ = _
    rw [step_quiet]
    simp [Disk.attempt, Disk.fault?, occupied, Disk.next]
  have second : (FileAccess.isDirectory q : OptionT (StateM Machine) _)
      { tree := fs, mishaps := {} :: later }
        = (some true, { tree := fs, mishaps := later }) := by
    show step (Disk.ask (·.isDirectory q) _) _ = _
    rw [step_quiet]
    simp [Disk.ask, Disk.fault?, Disk.next, isDirectory, there, isDirectoryAt_iff.2 directory]
  unfold FileAccess.makeDirectories
  generalize q.parts.length = depth
  unfold FileAccess.makeDirectoriesUpTo
  rw [if_neg (by simpa using some_bytes), bind_of_result first]
  unfold FileAccess.unlessDirectory
  dsimp only
  rw [bind_of_result second]
  rfl

end Quiet

end Machine

end AvatarVault
