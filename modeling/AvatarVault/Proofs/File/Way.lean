import Mathlib.Logic.Relation
import AvatarVault.Proofs.File.Tree
/-!
What appears at a path when something is made elsewhere.  New directories on the way make nothing
appear (`nodeAt?_makesWay`), unless a `..` of the path leads out of a directory that was missing
(`LeavesDirectories`); a file beside the path makes no difference either (`nodeAt?_write_beside`).
-/
namespace AvatarVault.FileSystem

open AvatarVault.Path

variable {fs fs' fs'' : FileSystem} {l l' : Location} {p q : Path}

/-- What stands at a path depends on the directories and on the place that the path leads to. -/
theorem nodeAt?_congr (kept : KeepsDirectories fs fs') (back : KeepsDirectories fs' fs)
    (same : ∀ l, fs.resolve p = .ok l → fs'.node? l = fs.node? l) :
    fs'.nodeAt? p = fs.nodeAt? p := by
  cases found : fs.resolve p with
  | ok l => rw [nodeAt?_of_resolve (kept.resolve found), nodeAt?_of_resolve found, same l found]
  | error e =>
    have before : fs.nodeAt? p = none := nodeAt?_eq_none fun l e => by simp [found] at e
    rw [before]
    refine nodeAt?_eq_none fun l found' => ?_
    rw [back.resolve found'] at found
    cases found

/-- Whether every `..` of a path leads out of a directory that is there. -/
def LeavesDirectories (fs : FileSystem) (p : Path) : Prop :=
  ∀ front back, p.parts = front ++ above :: back →
    ∃ l, fs.walk (fs.start p) (front ++ [above]) = .ok l

theorem LeavesDirectories.mono (h : fs.LeavesDirectories p) (kept : KeepsDirectories fs fs') :
    fs'.LeavesDirectories p := by
  intro front back parts_eq
  obtain ⟨l, walked⟩ := h front back parts_eq
  exact ⟨l, by rw [kept.start_eq]; exact kept.walk walked⟩

/-- A path that leads somewhere leads through directories that are there. -/
theorem leavesDirectories_of_resolve (h : fs.resolve p = .ok l) : fs.LeavesDirectories p := by
  intro front back parts_eq
  obtain ⟨-, walked⟩ := resolve_eq_ok.1 h
  rw [parts_eq, ← List.singleton_append, ← List.append_assoc] at walked
  obtain ⟨next, early, -⟩ := walk_append_eq_ok.1 walked
  exact ⟨next, early⟩

/-- One more directory on the way to a path, at a place where nothing was. -/
def OneMore (p : Path) (fs fs' : FileSystem) : Prop :=
  ∃ q l, LeadsTo q p ∧ fs.resolve q = .ok l ∧ fs.node? l = none ∧ fs' = fs.insert l .directory

theorem dropEndSlashes_of_getLast? (h : q.bytes.getLast? ≠ some slash) : dropEndSlashes q = q := by
  rw [dropEndSlashes]
  split
  · rfl
  · have stays : q.bytes.reverse.dropWhile (· == slash) = q.bytes.reverse := by
      rw [List.getLast?_eq_head?_reverse] at h
      cases e : q.bytes.reverse with
      | nil => rfl
      | cons c rest =>
        rw [e] at h
        exact List.dropWhile_cons_of_neg (by simpa using h)
    rw [stays, List.reverse_reverse]

theorem dropEndSlashes_of_isAbove (way : IsAbove q p) : dropEndSlashes q = q := by
  rcases way with empty | root | ⟨-, last⟩
  · rw [dropEndSlashes, empty]
    rfl
  · rw [dropEndSlashes, root]
    rfl
  · exact dropEndSlashes_of_getLast? last

/-- A directory that is made above a path is one more on the way; the root is there already. -/
theorem oneMore_makeDirectory (way : IsAbove q p) (h : fs.makeDirectory q = .ok fs') :
    OneMore p fs fs' := by
  obtain ⟨l, found, missing, rfl⟩ := makeDirectory_eq_ok.1 h
  rw [dropEndSlashes_of_isAbove way] at found
  rcases way with empty | root | ⟨leads, -⟩
  · obtain rfl : q = ⟨[]⟩ := congrArg Path.mk empty
    cases found
  · obtain rfl : q = ⟨[slash]⟩ := congrArg Path.mk root
    obtain rfl : [] = l := Except.ok.inj found
    cases missing
  · exact ⟨q, l, leads, found, missing, rfl⟩

/-- **One more directory on the way to a path makes nothing appear at the path.** -/
theorem nodeAt?_oneMore (tree : fs.IsTree) (leaves : fs.LeavesDirectories p)
    (more : OneMore p fs fs') : fs'.nodeAt? p = fs.nodeAt? p := by
  obtain ⟨q, l, way, found, missing, rfl⟩ := more
  obtain ⟨rest, parts_eq, part, mem, counts⟩ := way.parts
  have start_eq : fs.start p = fs.start q := by rw [start, start, way.isAbsolute]
  have q_walked := (resolve_eq_ok.1 found).2
  have kept : KeepsDirectories fs (fs.insert l .directory) := .insert (.inl rfl)
  -- before, no part after the missing directory could be reached
  have stuck : ∀ parts, parts ≠ [] → ∀ m, fs.walk (fs.start p) (q.parts ++ parts) ≠ .ok m := by
    intro parts some_part m walked
    obtain ⟨next, early, late⟩ := walk_append_eq_ok.1 walked
    rw [start_eq, q_walked] at early
    cases early
    obtain ⟨part, parts, rfl⟩ := List.exists_cons_of_ne_nil some_part
    simp [(walk_cons_eq_ok.1 late).1] at missing
  have down : above ∉ rest := by
    intro up
    obtain ⟨a, b, rfl⟩ := List.append_of_mem up
    obtain ⟨m, walked⟩ := leaves (q.parts ++ a) b (by rw [parts_eq, List.append_assoc])
    exact stuck (a ++ [above]) (by simp) m (by rw [← List.append_assoc]; exact walked)
  have before : fs.nodeAt? p = none := nodeAt?_eq_none fun m reached => by
    have walked := (resolve_eq_ok.1 reached).2
    rw [parts_eq] at walked
    exact absurd walked (stuck rest (List.ne_nil_of_mem mem) m)
  rw [before]
  -- after, the path leads below the new directory, where nothing is
  refine nodeAt?_eq_none fun m reached => ?_
  have walked := (resolve_eq_ok.1 reached).2
  rw [parts_eq] at walked
  obtain ⟨next, early, late⟩ := walk_append_eq_ok.1 walked
  rw [kept.start_eq, start_eq, kept.walk q_walked] at early
  cases early
  have some_name : rest.filter (!isIdle ·) ≠ [] :=
    List.ne_nil_of_mem (List.mem_filter.2 ⟨mem, by simp [counts]⟩)
  rw [walk_below down late, node?_insert_of_ne (by simpa using some_name)]
  by_contra present
  simp [tree.above present some_name] at missing

/-- Directories on the way to a path, one after the other. -/
def MakesWay (p : Path) : FileSystem → FileSystem → Prop := Relation.ReflTransGen (OneMore p)

theorem keepsDirectories_makesWay (way : MakesWay p fs fs') : KeepsDirectories fs fs' := by
  induction way with
  | refl => exact .refl fs
  | tail _ more ih =>
    obtain ⟨q, l, -, -, -, rfl⟩ := more
    exact ih.trans (.insert (.inl rfl))

theorem IsTree.makesWay (tree : fs.IsTree) (way : MakesWay p fs fs') : fs'.IsTree := by
  induction way with
  | refl => exact tree
  | tail _ more ih =>
    obtain ⟨q, l, -, found, -, rfl⟩ := more
    exact ih.insert (ih.around found) (.inl rfl)

/-- **Directories on the way to a path make nothing appear at the path.** -/
theorem nodeAt?_makesWay (tree : fs.IsTree) (leaves : fs.LeavesDirectories p)
    (way : MakesWay p fs fs') : fs'.nodeAt? p = fs.nodeAt? p := by
  induction way with
  | refl => rfl
  | tail early more ih =>
    have kept := keepsDirectories_makesWay early
    rw [nodeAt?_oneMore (tree.makesWay early) (leaves.mono kept) more, ih]

/-- What is different afterwards is a directory on the way, where nothing was. -/
theorem MakesWay.changed (way : MakesWay p fs fs') (h : fs'.node? l ≠ fs.node? l) :
    fs.node? l = none ∧ fs'.node? l = some .directory ∧
      ∃ q, LeadsTo q p ∧ fs'.resolve q = .ok l := by
  induction way with
  | refl => contradiction
  | @tail mid fs' early more ih =>
    obtain ⟨q, m, leads, found, missing, rfl⟩ := more
    have kept : KeepsDirectories mid (mid.insert m .directory) := .insert (.inl rfl)
    by_cases same : l = m
    · subst same
      have was : fs.node? l = none := by
        by_contra present
        have := (ih (by rw [missing]; exact fun e => present e.symm)).2.1
        rw [missing] at this
        cases this
      have noDirectory : mid.node? l ≠ some .directory := by simp [missing]
      exact ⟨was, node?_insert_self (ne_nil_of_node? noDirectory), q, leads, kept.resolve found⟩
    · rw [node?_insert_of_ne same] at h ⊢
      obtain ⟨was, now, q', leads', found'⟩ := ih h
      exact ⟨was, now, q', leads', kept.resolve found'⟩

/-- Paths beside each other lead to different places. -/
theorem resolve_beside_ne (beside : Beside q p) (found : fs.resolve p = .ok l)
    (found' : fs.resolve q = .ok l') : l' ≠ l := by
  obtain ⟨front, name, idle, other, parts_eq, all, parts_eq', isName, isName', different⟩ :=
    beside.parts
  have start_eq : fs.start q = fs.start p := by rw [start, start, beside.isAbsolute]
  have walked := (resolve_eq_ok.1 found).2
  rw [parts_eq] at walked
  obtain ⟨m, early, late⟩ := walk_append_eq_ok.1 walked
  obtain ⟨-, next, further, stays⟩ := walk_cons_eq_ok.1 late
  obtain ⟨m', early', -, further'⟩ := resolve_last found' parts_eq'
  rw [start_eq] at early'
  obtain rfl : m = m' := Except.ok.inj (early.symm.trans early')
  rw [walk_idle all stays, onward_name isName further, onward_name isName' further']
  simpa using different

/-- **A file that is written beside a path makes no difference at the path.** -/
theorem nodeAt?_write_beside {content : ByteArray} (beside : Beside q p)
    (h : fs.write q content = .ok fs') : fs'.nodeAt? p = fs.nodeAt? p := by
  obtain ⟨kept, back⟩ := keepsDirectories_write h
  obtain ⟨l, found, -, rfl⟩ := write_eq_ok.1 h
  refine nodeAt?_congr kept back fun m reached => node?_insert_of_ne ?_
  exact (resolve_beside_ne beside reached found).symm

/-- A path that leads somewhere has a directory at each path above it. -/
theorem resolve_above (way : IsAbove q p) (some_bytes : q.bytes ≠ [])
    (found : fs.resolve p = .ok l) :
    ∃ m, fs.resolve q = .ok m ∧ fs.node? m = some .directory := by
  rcases way with empty | root | ⟨leads, -⟩
  · exact absurd empty some_bytes
  · obtain rfl : q = ⟨[slash]⟩ := congrArg Path.mk root
    exact ⟨[], rfl, rfl⟩
  · obtain ⟨⟨-, passable⟩, walked⟩ := resolve_eq_ok.1 found
    obtain ⟨rest, p_parts, part, mem, -⟩ := leads.parts
    obtain ⟨next, more, rfl⟩ := List.exists_cons_of_ne_nil (List.ne_nil_of_mem mem)
    rw [p_parts] at walked
    obtain ⟨m, early, late⟩ := walk_append_eq_ok.1 walked
    have start_eq : fs.start q = fs.start p := by rw [start, start, leads.isAbsolute]
    refine ⟨m, resolve_eq_ok.2 ⟨⟨some_bytes, fun impassable => passable ?_⟩, start_eq ▸ early⟩,
      (walk_cons_eq_ok.1 late).1⟩
    rw [List.contains_iff_mem] at impassable ⊢
    exact impassable.imp (leads.isPrefix.subset ·) (Nat.le_trans · leads.isPrefix.length_le)

/-- Only a directory is found where only a directory can be. -/
theorem node?_ofDirectory (tree : fs.IsTree) (only : OfDirectory p) (found : fs.resolve p = .ok l) :
    fs.node? l = some .directory := by
  obtain ⟨front, last, parts_eq, noName⟩ := only
  obtain ⟨m, -, directory, further⟩ := resolve_last found parts_eq
  rcases part_cases last with idle | rfl | name
  · rw [onward_idle idle] at further
    rwa [← Option.some.inj further]
  · rw [onward_above] at further
    rw [← Option.some.inj further]
    exact tree.dropLast directory
  · exact absurd name noName

/-- No file is written where only a directory can be. -/
theorem write_ofDirectory {content : ByteArray} (tree : fs.IsTree) (only : OfDirectory p) :
    fs.write p content ≠ .ok fs' := by
  intro h
  obtain ⟨l, found, noDirectory, -⟩ := write_eq_ok.1 h
  exact noDirectory (node?_ofDirectory tree only found)

theorem not_ofDirectory_of_file (tree : fs.IsTree) {content : ByteArray}
    (there : fs.nodeAt? p = some (.file content)) : ¬ OfDirectory p := by
  intro only
  obtain ⟨l, found, file⟩ := nodeAt?_eq_some_iff.1 there
  cases file.symm.trans (node?_ofDirectory tree only found)

end AvatarVault.FileSystem
