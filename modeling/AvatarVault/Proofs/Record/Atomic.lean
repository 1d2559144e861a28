import AvatarVault.Proofs.File.Machine
import AvatarVault.Proofs.Record.Store
/-!
One record that is written to a metadata file on a machine that may stop anywhere.  A call that the
machine stops in leaves nothing behind that a call with faults could not leave (`persists_machine`),
so at every moment the file is the old one or the new one, each of them whole
(`replaced_atomically`).  That takes a temporary file of its own: a file that has the extension of
temporary files is written over where it stands, and can be torn (`torn_in_place`).
-/
namespace AvatarVault

open FileSystem FileStore

variable {path : Path} {fs fs' : FileSystem}

/-- What is read at a path, where a file stands there. -/
theorem FileSystem.toOption_read (fs : FileSystem) (p : Path) :
    (fs.read p).toOption = match fs.nodeAt? p with
      | some (.file content) => some content
      | _ => none := by
  cases found : fs.resolve p with
  | error => simp [read, nodeAt?, found, Except.toOption, bind, Except.bind]
  | ok l =>
    rw [nodeAt?_of_resolve found]
    simp only [read, found, bind, Except.bind]
    cases fs.node? l with
    | none => rfl
    | some node => cases node <;> rfl

/-- The move into its place, once the file beside is written. -/
theorem FileStore.moved_machine {path : Path} {content : ByteArray} {fs fs₁ : FileSystem}
    {m m' : Machine} {told : Option (Except FileError Unit)} (way : MakesWay path fs fs₁)
    (written : fs₁.write (temporaryPath path) content = .ok m.tree)
    (h : (FileAccess.rename (temporaryPath path) path : OptionT (StateM Machine) _) m
      = (told, m')) :
    ∃ answer, Persists path content fs answer m'.tree ∧ (told = none ∨ told = some answer) := by
  rcases Machine.rename_cases h with ⟨moved, ends⟩ | ⟨e, same, ends⟩
  · exact ⟨.ok (), .placed way written moved, ends⟩
  · refine ⟨.error e, ?_, ends⟩
    rw [same]
    exact .unplaced e way written

/-- The file beside and its move, once the directories are made. -/
theorem FileStore.placed_machine {path : Path} {content : ByteArray} {fs : FileSystem}
    {m m' : Machine} {told : Option (Except FileError Unit)} (way : MakesWay path fs m.tree)
    (h : (do
      match ← FileAccess.write (temporaryPath path) content with
      | .error e => return .error e
      | .ok () => FileAccess.rename (temporaryPath path) path :
        OptionT (StateM Machine) (Except FileError Unit)) m = (told, m')) :
    ∃ answer, Persists path content fs answer m'.tree ∧ (told = none ∨ told = some answer) := by
  rcases wrote : (FileAccess.write (temporaryPath path) content : OptionT (StateM Machine) _) m
    with ⟨written, m₂⟩
  rcases Machine.write_cases wrote with ⟨filled, ends⟩ | ⟨e, left, ends⟩
  · rcases ends with rfl | rfl
    · rw [Machine.bind_of_stop wrote] at h
      obtain ⟨rfl, rfl⟩ := Prod.mk.inj h
      exact ⟨.error .other, .unplaced _ way filled, .inl rfl⟩
    · rw [Machine.bind_of_result wrote] at h
      exact moved_machine way filled h
  · have unplaced : Persists path content fs (.error e) m₂.tree := by
      rcases left with same | ⟨part, spoiled⟩
      · rw [same]
        exact .unwritten e way
      · exact .unplaced e way spoiled
    rcases ends with rfl | rfl
    · rw [Machine.bind_of_stop wrote] at h
      obtain ⟨rfl, rfl⟩ := Prod.mk.inj h
      exact ⟨.error e, unplaced, .inl rfl⟩
    · rw [Machine.bind_of_result wrote] at h
      obtain ⟨rfl, rfl⟩ := Prod.mk.inj h
      exact ⟨.error e, unplaced, .inr rfl⟩

/-- **What a call can leave behind on a machine that may stop**, and what it answers if it comes to
its end. -/
theorem FileStore.persists_machine (path : Path) (record : UploadMetadata) {m m' : Machine}
    {told : Option (Except FileError Unit)}
    (h : (persist path record : OptionT (StateM Machine) _) m = (told, m')) :
    ∃ answer, Persists path (contentOf record) m.tree answer m'.tree ∧
      (told = none ∨ told = some answer) := by
  have way := closed_makeParent (Machine.closedOnWay path) m
  unfold persist at h
  rcases made : (makeParent path : OptionT (StateM Machine) _) m with ⟨_ | _ | _, m₁⟩
  all_goals rw [made] at way
  · rw [Machine.bind_of_stop made] at h
    obtain ⟨rfl, rfl⟩ := Prod.mk.inj h
    exact ⟨.error .other, .unwritten _ way, .inl rfl⟩
  · rename_i e
    rw [Machine.bind_of_result made] at h
    obtain ⟨rfl, rfl⟩ := Prod.mk.inj h
    exact ⟨.error e, .unwritten _ way, .inr rfl⟩
  · rw [Machine.bind_of_result made] at h
    exact placed_machine way h

/-- The same of a record, and of the store as it is once the record is made, if the machine comes
that far. -/
theorem FileStore.record_machine (s : FileStore) (record : UploadMetadata) (m : Machine) :
    ∃ answer, Persists s.path (contentOf record) m.tree answer
        ((s.record record : OptionT (StateM Machine) _) m).2.tree ∧
      (((s.record record : OptionT (StateM Machine) _) m).1 = none ∨
        ((s.record record : OptionT (StateM Machine) _) m).1
          = some (if answer.toBool then { s with last? := some record } else s)) := by
  rcases ended : (persist s.path record : OptionT (StateM Machine) _) m with ⟨told, m'⟩
  obtain ⟨answer, left, ends⟩ := persists_machine s.path record ended
  refine ⟨answer, ?_⟩
  unfold FileStore.record
  rcases ends with rfl | rfl
  · rw [Machine.bind_of_stop ended]
    exact ⟨left, .inl rfl⟩
  · rw [Machine.bind_of_result ended]
    cases answer <;> exact ⟨left, .inr rfl⟩

/-! ## Old or new -/

/-- What is found at a path after a call that has not replaced the file there. -/
structure Untouched (path : Path) (before after : FileSystem) : Prop where
  /-- The same stands there, and so the same is read and opened, unless a `..` of the path leads out
  of a directory that was missing. -/
  stays : before.LeavesDirectories path → after.nodeAt? path = before.nodeAt? path
  reads : before.LeavesDirectories path →
    (after.read path).toOption = (before.read path).toOption
  reopens : before.LeavesDirectories path →
    ((openAt path : StateM FileSystem _) after).1 = ((openAt path : StateM FileSystem _) before).1
  /-- In any case a file that is found there was there as a whole before the call, at the place that
  the path leads to now. -/
  whole : ∀ content, after.nodeAt? path = some (.file content) →
    ∃ l, after.resolve path = .ok l ∧ before.node? l = some (.file content)

theorem Untouched.of_stays (stays : fs.LeavesDirectories path → fs'.nodeAt? path = fs.nodeAt? path)
    (whole : ∀ content, fs'.nodeAt? path = some (.file content) →
      ∃ l, fs'.resolve path = .ok l ∧ fs.node? l = some (.file content)) :
    Untouched path fs fs' where
  stays := stays
  reads leaves := by rw [toOption_read, toOption_read, stays leaves]
  reopens leaves := by rw [openAt_eq, openAt_eq, stays leaves]
  whole := whole

/-- A file that is found when directories are made on the way was there before. -/
theorem FileSystem.file_of_makesWay (way : MakesWay path fs fs') {content : ByteArray}
    (found : fs'.nodeAt? path = some (.file content)) :
    ∃ l, fs'.resolve path = .ok l ∧ fs.node? l = some (.file content) := by
  obtain ⟨l, place, file⟩ := nodeAt?_eq_some_iff.1 found
  refine ⟨l, place, ?_⟩
  by_contra other
  have made := (way.changed (l := l) (by rw [file]; exact Ne.symm other)).2.1
  cases file.symm.trans made

/-- Directories on the way replace nothing. -/
theorem untouched_makesWay (tree : fs.IsTree) (way : MakesWay path fs fs') :
    Untouched path fs fs' :=
  .of_stays (fun leaves => nodeAt?_makesWay tree leaves way) fun _ => file_of_makesWay way

/-- Neither does the file beside. -/
theorem untouched_write (extension : path.extension? ≠ some temporary) (tree : fs.IsTree)
    {fs₁ : FileSystem} {part : ByteArray} (way : MakesWay path fs fs₁)
    (written : fs₁.write (temporaryPath path) part = .ok fs') : Untouched path fs fs' := by
  rcases beside_temporaryPath extension with beside | only
  · have same := nodeAt?_write_beside beside written
    refine .of_stays (fun leaves => ?_) fun content found => ?_
    · rw [same, nodeAt?_makesWay tree leaves way]
    · rw [same] at found
      obtain ⟨l, place, was⟩ := file_of_makesWay way found
      exact ⟨l, (keepsDirectories_write written).1.resolve place, was⟩
  · exact absurd written (write_ofDirectory (tree.makesWay way) only)

/-- What a call comes to, wherever the machine stops in it: a call that was not told to its end has
no answer. -/
inductive Replaced (s : FileStore) (record : UploadMetadata) (before : FileSystem) :
    Option FileStore → FileSystem → Prop where
  /-- The file was not replaced. -/
  | kept {told : Option FileStore} {after : FileSystem} (ends : told = none ∨ told = some s)
      (same : Untouched s.path before after) : Replaced s record before told after
  /-- The file was replaced, by the move alone and as a whole. -/
  | placed {told : Option FileStore} {mid after : FileSystem}
      (ends : told = none ∨ told = some { s with last? := some record })
      (same : Untouched s.path before mid)
      (moved : mid.rename (temporaryPath s.path) s.path = .ok after)
      (whole : after.nodeAt? s.path = some (.file (contentOf record)))
      (reopened : (openAt s.path : StateM FileSystem _) after
        = (.ok { s with last? := some record }, after)) :
      Replaced s record before told after

/-- **The file is replaced as a whole or not at all**, on every machine: whatever operation fails,
and wherever the machine stops.  The file must not have the extension of temporary files itself. -/
theorem replaced_atomically (s : FileStore) (record : UploadMetadata) {m : Machine}
    (extension : s.path.extension? ≠ some temporary) (tree : m.tree.IsTree) :
    Replaced s record m.tree ((s.record record : OptionT (StateM Machine) _) m).1
      ((s.record record : OptionT (StateM Machine) _) m).2.tree := by
  obtain ⟨answer, left, ends⟩ := s.record_machine record m
  cases left with
  | unwritten e way => exact .kept ends (untouched_makesWay tree way)
  | unplaced e way written => exact .kept ends (untouched_write extension tree way written)
  | placed way written moved =>
    have whole := (Persists.placed way written moved).nodeAt?_of_ok
    refine .placed ends (untouched_write extension tree way written) moved whole ?_
    rw [openAt_eq, whole, opens_contentOf]

/-- A tree with the file of a first record in a directory. -/
def filledTree : FileSystem where
  entries := [([(Path.ofString "state").bytes], .directory),
    ([(Path.ofString "state").bytes, (Path.ofString "profile.json").bytes],
      .file (contentOf firstRecord))]

/-- The store that is opened there. -/
def filledStore : FileStore :=
  { path := Path.ofString "state/profile.json", last? := some firstRecord }

/-- A machine that stops when one byte of the file beside is written. -/
def stoppedWriting : Machine where
  tree := filledTree
  mishaps := [{}, {}, .writing ⟨#[123]⟩]

theorem replaced_atomically_stopped_writing :
    filledStore.path.extension? ≠ some temporary ∧ stoppedWriting.tree.IsTree ∧
      ∃ told after, (filledStore.record secondRecord : OptionT (StateM Machine) _) stoppedWriting
          = (told, after) ∧
        Replaced filledStore secondRecord stoppedWriting.tree told after.tree ∧ told = none ∧
        after.tree.nodeAt? (temporaryPath filledStore.path) = some (.file ⟨#[123]⟩) ∧
        after.tree.nodeAt? filledStore.path = some (.file (contentOf firstRecord)) := by
  have extension : filledStore.path.extension? ≠ some temporary := by decide +kernel
  have tree : stoppedWriting.tree.IsTree := IsTree.of_entries (by decide +kernel)
  refine ⟨extension, tree, _, _, rfl,
    replaced_atomically filledStore secondRecord extension tree, ?_, ?_, ?_⟩
  all_goals decide +kernel

/-! ## Old and new in one place -/

section Torn

variable {old : ByteArray}

/-- A file that has the extension of temporary files is its own temporary file, unless its name is
that extension behind two dots. -/
theorem FileStore.temporaryPath_eq_self (tree : fs.IsTree)
    (extension : path.extension? = some temporary)
    (plain : path.fileName? ≠ some (Path.dot :: Path.dot :: temporary))
    (there : fs.nodeAt? path = some (.file old)) : temporaryPath path = path :=
  Path.withExtension_eq_self (not_ofDirectory_of_file tree there) extension plain

/-- On the way to a place that can be reached there is nothing to make. -/
theorem FileStore.makeParent_quiet {l : Location} (found : fs.resolve path = .ok l)
    (later : List Mishap) :
    ∃ mishaps, (makeParent path : OptionT (StateM Machine) _) { tree := fs, mishaps }
      = (some (.ok ()), { tree := fs, mishaps := later }) := by
  unfold makeParent
  cases above : path.parent? with
  | none => exact ⟨later, rfl⟩
  | some parent =>
    by_cases empty : parent.bytes = []
    · refine ⟨later, ?_⟩
      dsimp only
      unfold FileAccess.makeDirectories FileAccess.makeDirectoriesUpTo
      rw [if_pos (by simp [empty])]
      rfl
    · have way := Path.isAbove_of_parent? above
      obtain ⟨m, there, directory⟩ := resolve_above way empty found
      exact ⟨_, Machine.makeDirectories_quiet empty there (dropEndSlashes_of_isAbove way) directory
        later⟩

/-- **A file that is its own temporary file is not replaced but written over**: where the machine
stops while it writes, the old record is gone and any part of anything can stand there. -/
theorem torn_in_place (s : FileStore) (record : UploadMetadata) (tree : fs.IsTree)
    (extension : s.path.extension? = some temporary)
    (plain : s.path.fileName? ≠ some (Path.dot :: Path.dot :: temporary))
    (there : fs.nodeAt? s.path = some (.file old)) (part : ByteArray) :
    ∃ mishaps after, (s.record record : OptionT (StateM Machine) _) { tree := fs, mishaps }
        = (none, { tree := after }) ∧ after.nodeAt? s.path = some (.file part) := by
  have itself := temporaryPath_eq_self tree extension plain there
  obtain ⟨l, found, file⟩ := nodeAt?_eq_some_iff.1 there
  obtain ⟨after, written⟩ : ∃ after, fs.write s.path part = .ok after :=
    ⟨_, write_eq_ok.2 ⟨l, found, by simp [file], rfl⟩⟩
  obtain ⟨mishaps, quiet⟩ := makeParent_quiet found [.writing part]
  have spoiled : (FileAccess.write (temporaryPath s.path) (contentOf record)
      : OptionT (StateM Machine) _) { tree := fs, mishaps := [.writing part] }
        = (none, { tree := after }) := by
    rw [itself]
    exact Machine.write_writing written _ []
  have stopped : (persist s.path record : OptionT (StateM Machine) _) { tree := fs, mishaps }
      = (none, { tree := after }) := by
    unfold persist
    rw [Machine.bind_of_result quiet]
    exact Machine.bind_of_stop spoiled
  refine ⟨mishaps, after, ?_, nodeAt?_write written⟩
  unfold FileStore.record
  exact Machine.bind_of_stop stopped

end Torn

/-- What is left of a second record on a machine that may stop. -/
def leftOf (s : FileStore) (m : Machine) : FileSystem :=
  ((s.record secondRecord : OptionT (StateM Machine) _) m).2.tree

/-- A store at a path that is its own temporary path. -/
def tornStore : FileStore := { path := Path.ofString "profile.tmp", last? := some firstRecord }

/-- A machine that stops when it has emptied the file, to write it anew. -/
def stoppedEmptied : Machine where
  tree := { entries := [([(Path.ofString "profile.tmp").bytes], .file (contentOf firstRecord))] }
  mishaps := [.writing ⟨#[]⟩]

/-- **Not every path keeps its file while it is replaced.**  A file that is its own temporary file
is left empty when the machine stops before it is written, and no store can be opened on it. -/
theorem torn_when_stopped :
    stoppedEmptied.tree.IsTree ∧
      ((openAt tornStore.path : StateM FileSystem _) stoppedEmptied.tree).1 = .ok tornStore ∧
      (leftOf tornStore stoppedEmptied).nodeAt? tornStore.path = some (.file ⟨#[]⟩) ∧
      ((openAt tornStore.path : StateM FileSystem _) (leftOf tornStore stoppedEmptied)).1
        = .error (.parsing tornStore.path) := by
  have stood : stoppedEmptied.tree.nodeAt? tornStore.path = some (.file (contentOf firstRecord)) := by
    decide +kernel
  have emptied : (leftOf tornStore stoppedEmptied).nodeAt? tornStore.path = some (.file ⟨#[]⟩) := by
    decide +kernel
  have text : String.fromUTF8? ⟨#[]⟩ = some "" := by decide +kernel
  have nothing : Record.decode? "" = none := by decide +kernel
  refine ⟨IsTree.of_entries (by decide +kernel), ?_, emptied, ?_⟩
  · rw [openAt_eq, stood, opens_contentOf]
    rfl
  · rw [openAt_eq, emptied]
    simp only [opens, text, nothing]

/-- A store at `detourPath`, where no file is found. -/
def detourStore : FileStore := { path := detourPath, last? := none }

/-- A machine that stops when the missing directory of `detourPath` is made. -/
def stoppedOnDetour : Machine where
  tree := detourTree
  mishaps := [{}, {}, {}, { stops := true }]

/-- A directory that is made on the way can uncover another file. -/
theorem uncovered_when_stopped :
    stoppedOnDetour.tree.IsTree ∧ stoppedOnDetour.tree.nodeAt? detourStore.path = none ∧
      (leftOf detourStore stoppedOnDetour).nodeAt? detourStore.path
        = some (.file (contentOf firstRecord)) :=
  ⟨IsTree.of_entries (by decide +kernel), by decide +kernel, by decide +kernel⟩

end AvatarVault
