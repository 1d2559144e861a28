import AvatarVault.Record.Store
import AvatarVault.Proofs.File.Disk
import AvatarVault.Proofs.Record.Codec
/-!
One record that is written to a metadata file on a disk on which any operation may fail.
`Persists` lists all that a call can leave behind; that the record before is kept unless the call
succeeds, and that nothing else is touched, follows from it.
-/
namespace AvatarVault.FileStore

open FileSystem

variable {path : Path} {fs fs' : FileSystem} {l : Location}

/-! ## Opening -/

/-- The store that is opened when this stands at its path. -/
def opens (path : Path) : Option Node → Except StoreFault FileStore
  | none => .ok { path, last? := none }
  | some .directory => .error (.reading path)
  | some (.file content) =>
    match String.fromUTF8? content with
    | none => .error (.reading path)
    | some text =>
      match Record.decode? text with
      | none => .error (.parsing path)
      | some record => .ok { path, last? := some record }

/-- What is opened depends on what stands at the path alone, and opening changes nothing. -/
theorem openAt_eq (path : Path) (fs : FileSystem) :
    (openAt path : StateM FileSystem _) fs = (opens path (fs.nodeAt? path), fs) := by
  unfold openAt FileAccess.readText
  simp only [stateM_bind, FileAccess.pathExists, FileAccess.read, pathExists_eq]
  cases node : fs.nodeAt? path with
  | none => rfl
  | some node' =>
    simp only [Option.isSome_some, if_true, stateM_bind]
    cases node' with
    | directory =>
      rw [read_directory node]
      rfl
    | file content =>
      rw [read_file node]
      dsimp only [opens]
      cases String.fromUTF8? content with
      | none => rfl
      | some text =>
        dsimp only [stateM_pure]
        cases Record.decode? text <;> rfl

theorem opens_path {node : Option Node} {store : FileStore} (h : opens path node = .ok store) :
    store.path = path := by
  unfold opens at h
  repeat' split at h
  all_goals cases h <;> rfl

/-- The content of a metadata file that holds the record. -/
def contentOf (m : UploadMetadata) : ByteArray := (Record.encode m).toUTF8

theorem opens_contentOf (path : Path) (m : UploadMetadata) :
    opens path (some (.file (contentOf m))) = .ok { path, last? := some m } := by
  simp only [opens, contentOf, fromUTF8?_toUTF8, Record.decode?_encode]

/-! ## Writing -/

/-- What a call that writes a content leaves behind, by how it ends. -/
inductive Persists (path : Path) (content : ByteArray) (fs : FileSystem) :
    Except FileError Unit → FileSystem → Prop where
  /-- The file was not written: directories on the way are all there is. -/
  | unwritten {fs₁ : FileSystem} (e : FileError) (way : MakesWay path fs fs₁) :
    Persists path content fs (.error e) fs₁
  /-- The file beside was written in whole or in part, and is not in its place. -/
  | unplaced {fs₁ fs₂ : FileSystem} {part : ByteArray} (e : FileError)
    (way : MakesWay path fs fs₁) (written : fs₁.write (temporaryPath path) part = .ok fs₂) :
    Persists path content fs (.error e) fs₂
  | placed {fs₁ fs₂ fs₃ : FileSystem} (way : MakesWay path fs fs₁)
    (written : fs₁.write (temporaryPath path) content = .ok fs₂)
    (moved : fs₂.rename (temporaryPath path) path = .ok fs₃) :
    Persists path content fs (.ok ()) fs₃

/-- The directory of a metadata file is above its path. -/
theorem closed_makeParent {m : Type → Type} [Monad m] [FileAccess m] {P : (α : Type) → m α → Prop}
    (closed : FileAccess.ClosedOnWay P path) : P _ (makeParent path) := by
  unfold makeParent
  split
  · rename_i parent above
    exact closed.makeDirectoriesUpTo _ (Path.isAbove_of_parent? above)
  · exact closed.pure _

/-- **All that a call can leave behind**, whatever fails. -/
theorem persists (path : Path) (m : UploadMetadata) (d : Disk) :
    Persists path (contentOf m) d.tree ((persist path m : StateM Disk _) d).1
      ((persist path m : StateM Disk _) d).2.tree := by
  have way := closed_makeParent (Disk.closedOnWay path) d
  unfold persist
  simp only [stateM_bind]
  rcases made : (makeParent path : StateM Disk _) d with ⟨_ | _, d₁⟩
  all_goals rw [made] at way
  · exact .unwritten _ way
  · dsimp only
    rw [stateM_bind]
    rcases written : (FileAccess.write (temporaryPath path) (contentOf m) : StateM Disk _) d₁
      with ⟨_ | _, d₂⟩
    all_goals
      rw [contentOf] at written
      rw [written]
    · rcases Disk.write_error written with same | ⟨part, spoiled⟩
      · dsimp only [stateM_pure]
        rw [same]
        exact .unwritten _ way
      · exact .unplaced _ way spoiled
    · dsimp only
      have filled := Disk.write_ok written
      rcases moved : (FileAccess.rename (temporaryPath path) path : StateM Disk _) d₂
        with ⟨_ | _, d₃⟩
      · rw [Disk.rename_error moved]
        exact .unplaced _ way filled
      · exact .placed way filled (Disk.rename_ok moved)

theorem faultless_persist (path : Path) (m : UploadMetadata) :
    Disk.Faultless (persist path m) (persist path m) := by
  have parent : Disk.Faultless (makeParent path) (makeParent path) := by
    unfold makeParent
    cases path.parent? with
    | none => exact Disk.faultless_pure _
    | some parent => exact Disk.faultless_makeDirectories parent
  refine Disk.faultless_bind parent fun made => ?_
  rcases made with e | -
  · exact Disk.faultless_pure _
  · refine Disk.faultless_bind (Disk.faultless_write _ _) fun written => ?_
    rcases written with e | -
    · exact Disk.faultless_pure _
    · exact Disk.faultless_rename _ _

/-- **Without faults a record goes to a disk as it goes to the tree on it.** -/
theorem faultless_record (s : FileStore) (m : UploadMetadata) :
    Disk.Faultless (s.record m) (s.record m) := by
  refine Disk.faultless_bind (faultless_persist s.path m) fun answer => ?_
  rcases answer with e | - <;> exact Disk.faultless_pure _

/-! ## What a call keeps and what it touches -/

/-- The file beside is another file in the same directory, or cannot be written. -/
theorem beside_temporaryPath (extension : path.extension? ≠ some temporary) :
    Path.Beside (temporaryPath path) path ∨ Path.OfDirectory (temporaryPath path) :=
  Path.beside_withExtension (by decide) (by decide) extension

/-- A place that a call may make different: that of the file, that of the file beside, and one where
a directory on the way was missing. -/
def Touches (path : Path) (fs fs' : FileSystem) (l : Location) : Prop :=
  fs'.resolve path = .ok l ∨ fs'.resolve (temporaryPath path) = .ok l ∨
    (fs.node? l = none ∧ fs'.node? l = some .directory ∧
      ∃ q, Path.LeadsTo q path ∧ fs'.resolve q = .ok l)

theorem Touches.mono {fs'' : FileSystem} (h : Touches path fs fs' l)
    (kept : KeepsDirectories fs' fs'') : Touches path fs fs'' l := by
  rcases h with target | beside | ⟨missing, directory, q, leads, found⟩
  · exact .inl (kept.resolve target)
  · exact .inr (.inl (kept.resolve beside))
  · exact .inr (.inr ⟨missing, kept.directory l directory, q, leads, kept.resolve found⟩)

/-- The places that are different once the file beside is written. -/
theorem touches_write {fs₁ fs₂ : FileSystem} {content : ByteArray} (way : MakesWay path fs fs₁)
    (written : fs₁.write (temporaryPath path) content = .ok fs₂) (h : fs₂.node? l ≠ fs.node? l) :
    Touches path fs fs₂ l := by
  have kept := (keepsDirectories_write written).1
  obtain ⟨m, found, -, rfl⟩ := write_eq_ok.1 written
  by_cases same : l = m
  · exact .inr (.inl (by rw [same]; exact kept.resolve found))
  · rw [node?_insert_of_ne same] at h
    exact Touches.mono (.inr (.inr (way.changed h))) kept

namespace Persists

variable {content : ByteArray} {answer : Except FileError Unit}

theorem keepsDirectories (h : Persists path content fs answer fs') : KeepsDirectories fs fs' := by
  cases h with
  | unwritten e way => exact keepsDirectories_makesWay way
  | unplaced e way written =>
    exact (keepsDirectories_makesWay way).trans (keepsDirectories_write written).1
  | placed way written moved =>
    exact ((keepsDirectories_makesWay way).trans (keepsDirectories_write written).1).trans
      (keepsDirectories_rename moved)

theorem isTree (h : Persists path content fs answer fs') (tree : fs.IsTree) : fs'.IsTree := by
  cases h with
  | unwritten e way => exact tree.makesWay way
  | unplaced e way written => exact (tree.makesWay way).write written
  | placed way written moved => exact ((tree.makesWay way).write written).rename moved

/-- **A call that fails leaves at the path what stood there.** -/
theorem nodeAt?_of_error {e : FileError} (h : Persists path content fs (.error e) fs')
    (extension : path.extension? ≠ some temporary) (tree : fs.IsTree)
    (leaves : fs.LeavesDirectories path) : fs'.nodeAt? path = fs.nodeAt? path := by
  cases h with
  | unwritten e way => exact nodeAt?_makesWay tree leaves way
  | unplaced e way written =>
    rcases beside_temporaryPath extension with beside | only
    · rw [nodeAt?_write_beside beside written, nodeAt?_makesWay tree leaves way]
    · exact absurd written (write_ofDirectory (tree.makesWay way) only)

/-- **A call that succeeds puts the whole content there.** -/
theorem nodeAt?_of_ok (h : Persists path content fs (.ok ()) fs') :
    fs'.nodeAt? path = some (.file content) := by
  cases h with
  | placed way written moved => rw [nodeAt?_rename moved, nodeAt?_write written]

/-- After a call that succeeds, all directories of the path are there. -/
theorem leavesDirectories_of_ok (h : Persists path content fs (.ok ()) fs') :
    fs'.LeavesDirectories path := by
  cases h with
  | placed way written moved =>
    obtain ⟨source, target, content, -, found, -⟩ := rename_eq_ok.1 moved
    exact leavesDirectories_of_resolve ((keepsDirectories_rename moved).resolve found)

/-- **However it ends, a call touches nothing else.** -/
theorem touches (h : Persists path content fs answer fs') (changed : fs'.node? l ≠ fs.node? l) :
    Touches path fs fs' l := by
  cases h with
  | unwritten e way => exact .inr (.inr (way.changed changed))
  | unplaced e way written => exact touches_write way written changed
  | placed way written moved =>
    have kept := keepsDirectories_rename moved
    obtain ⟨source, target, content, foundSource, foundTarget, -, -, rfl⟩ := rename_eq_ok.1 moved
    by_cases atTarget : l = target
    · exact .inl (by rw [atTarget]; exact kept.resolve foundTarget)
    by_cases atSource : l = source
    · exact .inr (.inl (by rw [atSource]; exact kept.resolve foundSource))
    rw [node?_insert_of_ne atTarget, node?_erase_of_ne atSource] at changed
    exact (touches_write way written changed).mono kept

end Persists

/-! ## Reading back -/

/-- **What is written for a record is read back as that record**: any time of 64 bits, any address.
The text is an object of the two values, it is the whole content of the file after a call that
succeeds, whoever opens a file of that content gets that very record, and no other record has the
same text. -/
theorem record_text_read_back (path : Path) (m : UploadMetadata) :
    Json.parse (Record.encode m) = some (.object
        [(some "last_upload_millis", .natural m.timestampMillis.toNat),
          (some "avatar_url", .text (some m.url))]) ∧
      (∀ d d' : Disk, (persist path m : StateM Disk _) d = (.ok (), d') →
        d'.tree.nodeAt? path = some (.file (Record.encode m).toUTF8)) ∧
      (∀ fs : FileSystem, fs.nodeAt? path = some (.file (Record.encode m).toUTF8) →
        (openAt path : StateM FileSystem _) fs = (.ok { path, last? := some m }, fs)) ∧
      ∀ m', Record.encode m' = Record.encode m → m' = m := by
  refine ⟨Json.parse_renderObject _, ?_, ?_, ?_⟩
  · intro d d' success
    have left := persists path m d
    rw [success] at left
    exact left.nodeAt?_of_ok
  · intro fs there
    rw [openAt_eq, there]
    exact congrArg (·, fs) (opens_contentOf path m)
  · intro m' same
    have read := congrArg Record.decode? same
    rw [Record.decode?_encode, Record.decode?_encode] at read
    exact Option.some.inj read

/-- The largest time, and an address with a quote, a backslash, control characters and a character
of two units. -/
def thornyRecord : UploadMetadata :=
  { timestampMillis := 18446744073709551615
    url := String.ofList ['"', '\\', '\x00', '\n', '\x1f', '\x7f', Char.ofNat 0x1f600] }

/-- Such a record goes to a file and comes back. -/
theorem record_text_read_back_thorny :
    ∃ d : Disk, (persist (Path.ofString "p.json") thornyRecord : StateM Disk _) { tree := {} }
        = (.ok (), d) ∧
      (openAt (Path.ofString "p.json") : StateM FileSystem _) d.tree
        = (.ok { path := Path.ofString "p.json", last? := some thornyRecord }, d.tree) := by
  obtain ⟨-, written, opened, -⟩ :=
    record_text_read_back (Path.ofString "p.json") thornyRecord
  have success : ((persist (Path.ofString "p.json") thornyRecord : StateM Disk _)
      { tree := {} }).1 = .ok () := by decide +kernel
  have whole := Prod.ext (y := (_, _)) success rfl
  exact ⟨_, whole, opened _ (written _ _ whole)⟩

end AvatarVault.FileStore
