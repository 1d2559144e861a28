import AvatarVault.Proofs.File.Way
/-!
A disk on which any operation may fail, whatever the tree: the file operations again, with a fault
or none for each of them in turn.  Making the directories above a path only ever adds directories
on the way to it, however it ends (`within_makeDirectories`).  Without faults the disk does what the
tree does (`Faultless`).
-/
namespace AvatarVault

namespace FileAccess

variable {m : Type → Type} [Monad m] [FileAccess m] {p q : Path}

/-- A property of computations that those which make directories above a path have. -/
structure ClosedOnWay (P : (α : Type) → m α → Prop) (p : Path) : Prop where
  pure : ∀ {α : Type} (a : α), P α (Pure.pure a)
  bind : ∀ {α β : Type} {x : m α} {f : α → m β}, P α x → (∀ a, P β (f a)) → P β (x >>= f)
  isDirectory : ∀ q, P Bool (FileAccess.isDirectory q)
  makeDirectory : ∀ {q : Path}, q.IsAbove p → P _ (FileAccess.makeDirectory q)

namespace ClosedOnWay

variable {P : (α : Type) → m α → Prop}

theorem unlessDirectory (closed : ClosedOnWay P p) (q : Path) (e : FileError) :
    P _ (FileAccess.unlessDirectory q e) := by
  refine closed.bind (closed.isDirectory q) fun isDirectory => ?_
  split <;> exact closed.pure _

/-- By induction on the depth: every directory that is made is above the path. -/
theorem makeDirectoriesUpTo (closed : ClosedOnWay P p) (depth : Nat) (way : q.IsAbove p) :
    P _ (FileAccess.makeDirectoriesUpTo depth q) := by
  induction depth generalizing q with
  | zero =>
    unfold FileAccess.makeDirectoriesUpTo
    split
    · exact closed.pure _
    · refine closed.bind (closed.makeDirectory way) fun answer => ?_
      split
      · exact closed.pure _
      · exact closed.pure _
      · exact closed.unlessDirectory q _
  | succ depth ih =>
    unfold FileAccess.makeDirectoriesUpTo
    split
    · exact closed.pure _
    · refine closed.bind (closed.makeDirectory way) fun answer => ?_
      split
      · exact closed.pure _
      · split
        · rename_i parent same above
          obtain rfl := Nat.succ.inj same
          refine closed.bind (ih (way.parent? above)) fun made => ?_
          split
          · exact closed.pure _
          · refine closed.bind (closed.makeDirectory way) fun again => ?_
            split
            · exact closed.pure _
            · exact closed.unlessDirectory q _
        · exact closed.pure _
      · exact closed.unlessDirectory q _

end ClosedOnWay

end FileAccess

/-- Two computations one after the other. -/
theorem stateM_bind {σ α β : Type} (x : StateM σ α) (f : α → StateM σ β) (s : σ) :
    (x >>= f) s = f (x s).1 (x s).2 := rfl

theorem stateM_pure {σ α : Type} (a : α) (s : σ) : (pure a : StateM σ α) s = (a, s) := rfl

/-- Why an operation fails that the tree allows. -/
structure Fault where
  error : FileError
  /-- The content that a file is left with when the fault comes while it is written; `none` when
  the fault comes before that. -/
  residue : Option ByteArray := none

/-- What a write that ends in the fault leaves behind. -/
def Fault.leave (f : Fault) (p : Path) (tree : FileSystem) : FileSystem :=
  match f.residue with
  | some content => (tree.write p content).toOption.getD tree
  | none => tree

/-- A tree of files, and for each of the next operations on it the fault that it ends in. -/
structure Disk where
  tree : FileSystem
  faults : List (Option Fault) := []

namespace Disk

/-- The fault of the next operation. -/
def fault? (d : Disk) : Option Fault := d.faults.head?.join

/-- The disk after one more operation. -/
def next (d : Disk) (tree : FileSystem) : Disk := { tree, faults := d.faults.tail }

/-- An operation that may change the tree; one that ends in a fault changes it as `spoil` says. -/
def attempt (operation : FileSystem → Except FileError FileSystem)
    (spoil : Fault → FileSystem → FileSystem) : StateM Disk (Except FileError Unit) := fun d =>
  match d.fault? with
  | some f => (.error f.error, d.next (spoil f d.tree))
  | none =>
    match operation d.tree with
    | .ok changed => (.ok (), d.next changed)
    | .error e => (.error e, d.next d.tree)

/-- An operation that reads the tree. -/
def ask {α : Type} (answer : FileSystem → α) (faulty : Fault → α) : StateM Disk α := fun d =>
  (d.fault?.elim (answer d.tree) faulty, d.next d.tree)

/-- A directory that cannot be made is not there, and what cannot be moved stays; only a write may
leave something behind. -/
instance access : FileAccess (StateM Disk) where
  pathExists p := ask (·.pathExists p) fun _ => false
  isDirectory p := ask (·.isDirectory p) fun _ => false
  read p := ask (·.read p) fun f => .error f.error
  write p content := attempt (·.write p content) (·.leave p)
  makeDirectory p := attempt (·.makeDirectory p) fun _ tree => tree
  rename source target := attempt (·.rename source target) fun _ tree => tree

variable {operation : FileSystem → Except FileError FileSystem}
  {spoil : Fault → FileSystem → FileSystem} {d d' : Disk}

/-- An operation that succeeds has done its work. -/
theorem attempt_ok (h : attempt operation spoil d = (.ok (), d')) :
    operation d.tree = .ok d'.tree := by
  rw [attempt] at h
  split at h
  · cases h
  · split at h
    · rename_i done
      cases h
      exact done
    · cases h

/-- An operation that fails leaves the tree as it was, or as the fault spoils it. -/
theorem attempt_error {e : FileError} (h : attempt operation spoil d = (.error e, d')) :
    d'.tree = d.tree ∨ ∃ f, d'.tree = spoil f d.tree := by
  rw [attempt] at h
  split at h
  · rename_i f _
    cases h
    exact .inr ⟨f, rfl⟩
  · split at h
    · cases h
    · cases h
      exact .inl rfl

variable {p q : Path} {content : ByteArray} {e : FileError}

theorem write_ok (h : (FileAccess.write p content : StateM Disk _) d = (.ok (), d')) :
    d.tree.write p content = .ok d'.tree := attempt_ok h

/-- A write that fails leaves the tree as it was, or the same file with another content. -/
theorem write_error (h : (FileAccess.write p content : StateM Disk _) d = (.error e, d')) :
    d'.tree = d.tree ∨ ∃ part, d.tree.write p part = .ok d'.tree := by
  rcases attempt_error h with same | ⟨f, spoiled⟩
  · exact .inl same
  · rw [spoiled, Fault.leave]
    split
    · rename_i part _
      cases written : d.tree.write p part with
      | error => exact .inl rfl
      | ok changed => exact .inr ⟨part, written⟩
    · exact .inl rfl

theorem rename_ok (h : (FileAccess.rename p q : StateM Disk _) d = (.ok (), d')) :
    d.tree.rename p q = .ok d'.tree := attempt_ok h

theorem rename_error (h : (FileAccess.rename p q : StateM Disk _) d = (.error e, d')) :
    d'.tree = d.tree := by
  rcases attempt_error h with same | ⟨-, same⟩ <;> exact same

theorem makeDirectory_ok (h : (FileAccess.makeDirectory p : StateM Disk _) d = (.ok (), d')) :
    d.tree.makeDirectory p = .ok d'.tree := attempt_ok h

theorem makeDirectory_error
    (h : (FileAccess.makeDirectory p : StateM Disk _) d = (.error e, d')) :
    d'.tree = d.tree := by
  rcases attempt_error h with same | ⟨-, same⟩ <;> exact same

/-! ## What a computation may change -/

/-- Whether a computation changes the tree in a way that the relation allows, whatever fails. -/
def Within {α : Type} (R : FileSystem → FileSystem → Prop) (x : StateM Disk α) : Prop :=
  ∀ d, R d.tree (x d).2.tree

section Within

variable {R : FileSystem → FileSystem → Prop} {α β : Type}

theorem within_pure (a : α) : Within (Relation.ReflTransGen R) (pure a : StateM Disk α) :=
  fun _ => .refl

theorem within_bind {x : StateM Disk α} {f : α → StateM Disk β}
    (first : Within (Relation.ReflTransGen R) x)
    (more : ∀ a, Within (Relation.ReflTransGen R) (f a)) :
    Within (Relation.ReflTransGen R) (x >>= f) := fun d =>
  (first d).trans (more (x d).1 (x d).2)

theorem within_ask (answer : FileSystem → α) (faulty : Fault → α) :
    Within (Relation.ReflTransGen R) (ask answer faulty) := fun _ => .refl

end Within

theorem within_makeDirectory (way : q.IsAbove p) :
    Within (FileSystem.MakesWay p) (FileAccess.makeDirectory q : StateM Disk _) := by
  intro d
  rcases made : (FileAccess.makeDirectory q : StateM Disk _) d with ⟨answer, d'⟩
  cases answer with
  | ok => exact .single (FileSystem.oneMore_makeDirectory way (makeDirectory_ok made))
  | error e =>
    rw [makeDirectory_error made]
    exact .refl

theorem closedOnWay (p : Path) : FileAccess.ClosedOnWay (m := StateM Disk)
    (fun _ x => Within (FileSystem.MakesWay p) x) p where
  pure := within_pure
  bind := within_bind
  isDirectory _ := within_ask _ _
  makeDirectory := within_makeDirectory

/-- **However it ends, making the directories above a path only adds directories on the way.** -/
theorem within_makeDirectories (way : q.IsAbove p) :
    Within (FileSystem.MakesWay p) (FileAccess.makeDirectories q : StateM Disk _) :=
  (closedOnWay p).makeDirectoriesUpTo _ way

/-! ## A disk without faults -/

/-- Whether a computation does on a disk without faults what another one does on its tree. -/
def Faultless {α : Type} (x : StateM Disk α) (y : StateM FileSystem α) : Prop :=
  ∀ tree, x { tree } = ((y tree).1, { tree := (y tree).2 })

section Faultless

variable {α β : Type}

theorem faultless_pure (a : α) : Faultless (pure a) (pure a) := fun _ => rfl

theorem faultless_bind {x : StateM Disk α} {y : StateM FileSystem α} {f : α → StateM Disk β}
    {g : α → StateM FileSystem β} (first : Faultless x y) (more : ∀ a, Faultless (f a) (g a)) :
    Faultless (x >>= f) (y >>= g) := by
  intro tree
  rw [stateM_bind, first tree]
  exact more _ _

theorem faultless_attempt (operation : FileSystem → Except FileError FileSystem)
    (spoil : Fault → FileSystem → FileSystem) :
    Faultless (attempt operation spoil) (FileSystem.attempt operation) := by
  intro tree
  simp only [attempt, FileSystem.attempt, fault?, List.head?_nil, Option.join_none]
  cases operation tree <;> rfl

theorem faultless_makeDirectory (q : Path) :
    Faultless (FileAccess.makeDirectory q) (FileAccess.makeDirectory q) := faultless_attempt _ _

theorem faultless_write (q : Path) (content : ByteArray) :
    Faultless (FileAccess.write q content) (FileAccess.write q content) := faultless_attempt _ _

theorem faultless_rename (p q : Path) :
    Faultless (FileAccess.rename p q) (FileAccess.rename p q) := faultless_attempt _ _

theorem faultless_unlessDirectory (q : Path) (e : FileError) :
    Faultless (FileAccess.unlessDirectory q e) (FileAccess.unlessDirectory q e) := by
  have asked : Faultless (FileAccess.isDirectory q) (FileAccess.isDirectory q) := fun _ => rfl
  refine faultless_bind asked fun isDirectory => ?_
  cases isDirectory <;> exact faultless_pure _

/-- By induction on the depth, in step with the recursion. -/
theorem faultless_makeDirectoriesUpTo (depth : Nat) (q : Path) :
    Faultless (FileAccess.makeDirectoriesUpTo depth q)
      (FileAccess.makeDirectoriesUpTo depth q) := by
  induction depth generalizing q with
  | zero =>
    unfold FileAccess.makeDirectoriesUpTo
    by_cases empty : q.bytes.isEmpty = true
    · simp only [empty, if_true]
      exact faultless_pure _
    · simp only [empty, Bool.false_eq_true, if_false]
      refine faultless_bind (faultless_makeDirectory q) fun answer => ?_
      rcases answer with e | -
      · cases e
        case notFound => exact faultless_pure _
        all_goals exact faultless_unlessDirectory q _
      · exact faultless_pure _
  | succ depth ih =>
    unfold FileAccess.makeDirectoriesUpTo
    by_cases empty : q.bytes.isEmpty = true
    · simp only [empty, if_true]
      exact faultless_pure _
    · simp only [empty, Bool.false_eq_true, if_false]
      refine faultless_bind (faultless_makeDirectory q) fun answer => ?_
      rcases answer with e | -
      · cases e
        case notFound =>
          cases q.parent? with
          | none => exact faultless_pure _
          | some parent =>
            refine faultless_bind (ih parent) fun made => ?_
            rcases made with e | -
            · exact faultless_pure _
            · refine faultless_bind (faultless_makeDirectory q) fun again => ?_
              rcases again with e | -
              · exact faultless_unlessDirectory q e
              · exact faultless_pure _
        all_goals exact faultless_unlessDirectory q _
      · exact faultless_pure _

theorem faultless_makeDirectories (q : Path) :
    Faultless (FileAccess.makeDirectories q) (FileAccess.makeDirectories q) :=
  faultless_makeDirectoriesUpTo _ q

end Faultless

end Disk

end AvatarVault
