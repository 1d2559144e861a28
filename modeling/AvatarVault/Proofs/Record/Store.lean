import AvatarVault.Proofs.Record.Persist
/-!
A store over whole runs of records, in each of which any file operation may fail: the record in
memory is the last one of which all steps succeeded, and the file gives it back
(`last_record_on_disk`).  Where a `..` of the path leads out of a directory that is missing at
first, a call that fails can uncover another file (`uncovered_by_failed_record`), so the file is
promised from the first success on.
-/
namespace AvatarVault

/-- A record that a store takes in, and for each file operation on the way the fault it ends in. -/
structure RecordCall where
  record : UploadMetadata
  faults : List (Option Fault) := []

namespace FileStore

/-- The steps of a call: the directories, the file beside, the move into its place. -/
def steps (path : Path) (m : UploadMetadata) : List (StateM Disk (Except FileError Unit)) :=
  [makeParent path, FileAccess.write (temporaryPath path) (contentOf m),
    FileAccess.rename (temporaryPath path) path]

/-- Whether all steps succeed, one after the other. -/
def succeed : List (StateM Disk (Except FileError Unit)) → Disk → Bool
  | [], _ => true
  | step :: more, d => (step d).1.toBool && succeed more (step d).2

theorem toBool_persist (path : Path) (m : UploadMetadata) (d : Disk) :
    ((persist path m : StateM Disk _) d).1.toBool = succeed (steps path m) d := by
  unfold persist
  simp only [stateM_bind, steps, succeed, Bool.and_true]
  rcases (makeParent path : StateM Disk _) d with ⟨_ | _, d₁⟩
  · rfl
  · dsimp only [stateM_bind, contentOf]
    rcases (FileAccess.write (temporaryPath path) (Record.encode m).toUTF8 : StateM Disk _) d₁
      with ⟨_ | _, d₂⟩ <;> rfl

end FileStore

open FileStore

/-- A store, and the tree of files it is on. -/
structure OpenStore where
  store : FileStore
  tree : FileSystem

namespace OpenStore

/-- The disk that a call finds. -/
def disk (s : OpenStore) (c : RecordCall) : Disk := { tree := s.tree, faults := c.faults }

/-- One call. -/
def take (s : OpenStore) (c : RecordCall) : OpenStore :=
  let answer := (s.store.record c.record : StateM Disk FileStore) (s.disk c)
  { store := answer.1, tree := answer.2.tree }

/-- Whether all steps of a call succeed. -/
def succeeds (s : OpenStore) (c : RecordCall) : Bool :=
  succeed (steps s.store.path c.record) (s.disk c)

/-- One call after the other. -/
def run (s : OpenStore) (calls : List RecordCall) : OpenStore := calls.foldl take s

/-- The records of the calls of which all steps succeed. -/
def kept (s : OpenStore) : List RecordCall → List UploadMetadata
  | [] => []
  | c :: calls =>
    if s.succeeds c then c.record :: (s.take c).kept calls else (s.take c).kept calls

variable {s : OpenStore} {c : RecordCall} {calls : List RecordCall}

theorem run_cons (s : OpenStore) (c : RecordCall) (calls : List RecordCall) :
    s.run (c :: calls) = (s.take c).run calls := rfl

/-- **One call**: the store takes the record in just when all steps succeed. -/
theorem take_cases (s : OpenStore) (c : RecordCall) :
    (s.succeeds c = true ∧ (s.take c).store = { path := s.store.path, last? := some c.record } ∧
        Persists s.store.path (contentOf c.record) s.tree (.ok ()) (s.take c).tree) ∨
      (s.succeeds c = false ∧ (s.take c).store = s.store ∧
        ∃ e, Persists s.store.path (contentOf c.record) s.tree (.error e) (s.take c).tree) := by
  have ends := toBool_persist s.store.path c.record (s.disk c)
  have left := persists s.store.path c.record (s.disk c)
  unfold take succeeds FileStore.record
  simp only [stateM_bind]
  rcases ended : (persist s.store.path c.record : StateM Disk _) (s.disk c) with ⟨e | _, d⟩
  all_goals rw [ended] at ends left
  · exact .inr ⟨ends.symm, rfl, e, left⟩
  · exact .inl ⟨ends.symm, rfl, left⟩

theorem take_of_success (success : s.succeeds c = true) :
    (s.take c).store = { path := s.store.path, last? := some c.record } ∧
      Persists s.store.path (contentOf c.record) s.tree (.ok ()) (s.take c).tree := by
  rcases s.take_cases c with ⟨-, took⟩ | ⟨failure, -⟩
  · exact took
  · rw [success] at failure
    cases failure

theorem take_of_failure (failure : s.succeeds c = false) :
    (s.take c).store = s.store ∧
      ∃ e, Persists s.store.path (contentOf c.record) s.tree (.error e) (s.take c).tree := by
  rcases s.take_cases c with ⟨success, -⟩ | ⟨-, left⟩
  · rw [failure] at success
    cases success
  · exact left

theorem exists_persists (s : OpenStore) (c : RecordCall) :
    ∃ answer, Persists s.store.path (contentOf c.record) s.tree answer (s.take c).tree := by
  rcases s.take_cases c with ⟨-, -, left⟩ | ⟨-, -, e, left⟩
  · exact ⟨_, left⟩
  · exact ⟨_, left⟩

/-- A call without faults is a record on the tree. -/
theorem take_faultless (s : OpenStore) (m : UploadMetadata) :
    s.take { record := m } =
      { store := ((s.store.record m : StateM FileSystem _) s.tree).1
        tree := ((s.store.record m : StateM FileSystem _) s.tree).2 } := by
  have same := faultless_record s.store m s.tree
  simp only [take, disk, same]

theorem take_path (s : OpenStore) (c : RecordCall) : (s.take c).store.path = s.store.path := by
  rcases s.take_cases c with ⟨-, store, -⟩ | ⟨-, store, -⟩ <;> rw [store]

theorem take_isTree (tree : s.tree.IsTree) (c : RecordCall) : (s.take c).tree.IsTree := by
  obtain ⟨answer, left⟩ := s.exists_persists c
  exact left.isTree tree

theorem run_path (s : OpenStore) (calls : List RecordCall) :
    (s.run calls).store.path = s.store.path := by
  induction calls generalizing s with
  | nil => rfl
  | cons c calls ih => rw [run_cons, ih, take_path]

theorem run_isTree (tree : s.tree.IsTree) (calls : List RecordCall) :
    (s.run calls).tree.IsTree := by
  induction calls generalizing s with
  | nil => exact tree
  | cons c calls ih => exact ih (take_isTree tree c)

/-- The record in memory, by induction on the calls. -/
theorem last?_run (s : OpenStore) (calls : List RecordCall) :
    (s.run calls).store.last? = (s.kept calls).getLast?.or s.store.last? := by
  induction calls generalizing s with
  | nil => rfl
  | cons c calls ih =>
    rw [run_cons, ih, kept]
    rcases s.take_cases c with ⟨success, store, -⟩ | ⟨failure, store, -⟩
    · rw [success, store, if_pos rfl, List.getLast?_cons]
      cases ((s.take c).kept calls).getLast? <;> rfl
    · rw [failure, store, if_neg Bool.false_ne_true]

/-- Whether the file gives back the store, and no directory of its path can appear. -/
structure Settled (s : OpenStore) : Prop where
  leaves : s.tree.LeavesDirectories s.store.path
  opens : opens s.store.path (s.tree.nodeAt? s.store.path) = .ok s.store

theorem settled_of_success (success : s.succeeds c = true) : (s.take c).Settled := by
  obtain ⟨store, left⟩ := take_of_success success
  refine ⟨?_, ?_⟩
  · rw [take_path]
    exact left.leavesDirectories_of_ok
  · rw [take_path, left.nodeAt?_of_ok, opens_contentOf, store]

/-- What stands at the path stays when a call fails. -/
theorem Settled.nodeAt?_of_failure (h : s.Settled)
    (extension : s.store.path.extension? ≠ some temporary) (tree : s.tree.IsTree)
    (failure : s.succeeds c = false) :
    (s.take c).tree.nodeAt? s.store.path = s.tree.nodeAt? s.store.path := by
  obtain ⟨-, e, left⟩ := take_of_failure failure
  exact left.nodeAt?_of_error extension tree h.leaves

theorem Settled.take (h : s.Settled) (extension : s.store.path.extension? ≠ some temporary)
    (tree : s.tree.IsTree) (c : RecordCall) : (s.take c).Settled := by
  rcases s.take_cases c with ⟨success, -⟩ | ⟨failure, store, e, left⟩
  · exact settled_of_success success
  · refine ⟨?_, ?_⟩
    · rw [take_path]
      exact h.leaves.mono left.keepsDirectories
    · rw [store, h.nodeAt?_of_failure extension tree failure, h.opens]

theorem Settled.run (h : s.Settled) (extension : s.store.path.extension? ≠ some temporary)
    (tree : s.tree.IsTree) (calls : List RecordCall) : (s.run calls).Settled := by
  induction calls generalizing s with
  | nil => exact h
  | cons c calls ih =>
    exact ih (h.take extension tree c) (by rwa [take_path]) (take_isTree tree c)

/-- From the first success on, the file gives back the store. -/
theorem settled_of_kept (extension : s.store.path.extension? ≠ some temporary)
    (tree : s.tree.IsTree) (some_kept : s.kept calls ≠ []) : (s.run calls).Settled := by
  induction calls generalizing s with
  | nil => contradiction
  | cons c calls ih =>
    rw [run_cons]
    have next_extension : (s.take c).store.path.extension? ≠ some temporary := by
      rwa [take_path]
    rw [kept] at some_kept
    split at some_kept
    · rename_i success
      exact (settled_of_success success).run next_extension (take_isTree tree c) calls
    · exact ih next_extension (take_isTree tree c) some_kept

/-- What is true of a store after calls; `calls` are those of any prefix of a run. -/
structure Agrees (s : OpenStore) (calls : List RecordCall) : Prop where
  /-- The last record is that of the last call of which all steps succeeded, or else the one that
  was there when the store was opened. -/
  last : (s.run calls).store.last? = (s.kept calls).getLast?.or s.store.last?
  /-- Whoever opens the path gets the same store. -/
  reopened : s.tree.LeavesDirectories s.store.path ∨ s.kept calls ≠ [] →
    (openAt s.store.path : StateM FileSystem _) (s.run calls).tree
      = (.ok (s.run calls).store, (s.run calls).tree)
  /-- A call that fails changes neither the last record nor what stands at the path. -/
  failed : ∀ c, (s.run calls).succeeds c = false →
    ((s.run calls).take c).store = (s.run calls).store ∧
      (s.tree.LeavesDirectories s.store.path ∨ s.kept calls ≠ [] →
        ((s.run calls).take c).tree.nodeAt? s.store.path
          = (s.run calls).tree.nodeAt? s.store.path)
  /-- No call touches anything but the file, the file beside and new directories on the way. -/
  touched : ∀ c l, ((s.run calls).take c).tree.node? l ≠ (s.run calls).tree.node? l →
    Touches s.store.path (s.run calls).tree ((s.run calls).take c).tree l

end OpenStore

/-- **The last record is on disk**: a store that was opened agrees with its file after any calls,
whatever operations fail in them. -/
theorem last_record_on_disk {path : Path} {fs : FileSystem} {store : FileStore}
    (extension : path.extension? ≠ some temporary) (tree : fs.IsTree)
    (opened : (openAt path : StateM FileSystem _) fs = (.ok store, fs))
    (calls : List RecordCall) : OpenStore.Agrees { store, tree := fs } calls := by
  rw [openAt_eq] at opened
  have opens : opens path (fs.nodeAt? path) = .ok store := congrArg Prod.fst opened
  obtain rfl : store.path = path := opens_path opens
  generalize start : ({ store, tree := fs } : OpenStore) = s
  obtain rfl : s.store = store := by rw [← start]
  obtain rfl : s.tree = fs := by rw [← start]
  have settled : s.tree.LeavesDirectories s.store.path ∨ s.kept calls ≠ [] →
      (s.run calls).Settled := by
    rintro (leaves | some_kept)
    · exact OpenStore.Settled.run ⟨leaves, opens⟩ extension tree calls
    · exact OpenStore.settled_of_kept extension tree some_kept
  have path_eq := s.run_path calls
  have extension' : (s.run calls).store.path.extension? ≠ some temporary := by rwa [path_eq]
  refine ⟨s.last?_run calls, fun h => ?_, fun c failure =>
    ⟨(OpenStore.take_of_failure failure).1, fun h => ?_⟩, fun c l changed => ?_⟩
  · have reopens := (settled h).opens
    rw [path_eq] at reopens
    rw [openAt_eq, reopens]
  · have stays :=
      (settled h).nodeAt?_of_failure extension' (OpenStore.run_isTree tree calls) failure
    rwa [path_eq] at stays
  · obtain ⟨answer, left⟩ := (s.run calls).exists_persists c
    rw [← path_eq]
    exact left.touches changed

/-- A record of a first avatar. -/
def firstRecord : UploadMetadata := { timestampMillis := 1, url := "a" }

/-- A record of a second avatar. -/
def secondRecord : UploadMetadata := { timestampMillis := 2, url := "b" }

/-- A store without a record, its path in a directory that is missing. -/
def freshStore : OpenStore :=
  { store := { path := Path.ofString "state/profile.json", last? := none }, tree := {} }

/-- A write that stops after one byte, no fault, and a move that fails. -/
def troubledCalls : List RecordCall :=
  [{ record := firstRecord, faults := [none, some { error := .other, residue := some ⟨#[123]⟩ }] },
    { record := secondRecord },
    { record := firstRecord, faults := [none, none, none, some { error := .other }] }]

theorem last_record_on_disk_amid_faults :
    (freshStore.run troubledCalls).store.last? = some secondRecord ∧
      (openAt freshStore.store.path : StateM FileSystem _) (freshStore.run troubledCalls).tree
        = (.ok (freshStore.run troubledCalls).store, (freshStore.run troubledCalls).tree) := by
  have tree : freshStore.tree.IsTree := fun l name present => by
    simp [freshStore, FileSystem.node?] at present
  have opened : (openAt freshStore.store.path : StateM FileSystem _) freshStore.tree
      = (.ok freshStore.store, freshStore.tree) := by rfl
  have agrees := last_record_on_disk (by decide) tree opened troubledCalls
  have kept : freshStore.kept troubledCalls = [secondRecord] := by decide +kernel
  exact ⟨agrees.last.trans (by rw [kept]; rfl), agrees.reopened (.inr (by rw [kept]; simp))⟩

/-- A path that leads out of a directory again. -/
def detourPath : Path := Path.ofString "new/../profile.json"

/-- That directory is missing, the file that the path would lead to is there, and a directory stands
where the file beside it would be. -/
def detourTree : FileSystem where
  entries := [([(Path.ofString "profile.json").bytes], .file (contentOf firstRecord)),
    ([(Path.ofString "profile.tmp").bytes], .directory)]

/-- The store opened there and the tree, after one more record. -/
def afterDetour : FileStore × FileSystem :=
  (FileStore.record { path := detourPath, last? := none } secondRecord : StateM FileSystem _)
    detourTree

/-- **A call that fails can uncover another record**: there is none when the store is opened, the
call makes the missing directory before it fails, and then the path leads to a record. -/
theorem uncovered_by_failed_record :
    detourPath.extension? ≠ some temporary ∧ detourTree.IsTree ∧
      (openAt detourPath : StateM FileSystem _) detourTree
        = (.ok { path := detourPath, last? := none }, detourTree) ∧
      afterDetour.1.last? = none ∧
      afterDetour.2.nodeAt? detourPath ≠ detourTree.nodeAt? detourPath ∧
      (openAt detourPath : StateM FileSystem _) afterDetour.2
        = (.ok { path := detourPath, last? := some firstRecord }, afterDetour.2) := by
  have missing : detourTree.nodeAt? detourPath = none := by decide +kernel
  have uncovered : afterDetour.2.nodeAt? detourPath = some (.file (contentOf firstRecord)) := by
    decide +kernel
  refine ⟨by decide +kernel, ?_, ?_, by decide +kernel, ?_, ?_⟩
  · intro l name present
    cases l with
    | nil => rfl
    | cons first rest => simp [detourTree, FileSystem.node?] at present
  · rw [openAt_eq, missing]
    rfl
  · rw [missing, uncovered]
    exact Option.some_ne_none _
  · rw [openAt_eq, uncovered, opens_contentOf]

end AvatarVault
