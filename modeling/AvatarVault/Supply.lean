/-!
Endless supplies that are used up one item at a time: random headers, replies of the host.
-/
namespace AvatarVault

/-- Items in a fixed order, of which the first `used` are gone. -/
structure Supply (α : Type) where
  item : Nat → α
  used : Nat := 0

namespace Supply

variable {α : Type}

/-- The items of a list, then `rest` for ever. -/
def ofList (l : List α) (rest : α) : Supply α := { item := fun i => l.getD i rest }

/-- The next item. -/
def head (s : Supply α) : α := s.item s.used

/-- The supply without its next item. -/
def tail (s : Supply α) : Supply α := { s with used := s.used + 1 }

/-- The item that comes after `k` others. -/
def ahead (s : Supply α) (k : Nat) : α := s.item (s.used + k)

/-- The next `n` items. -/
def take (s : Supply α) : Nat → List α
  | 0 => []
  | n + 1 => s.head :: take s.tail n

/-- The supply without its next `n` items. -/
def drop (s : Supply α) (n : Nat) : Supply α := { s with used := s.used + n }

/-- The items that are gone in `later` and not in `s`. -/
def upTo (s later : Supply α) : List α := s.take (later.used - s.used)

@[simp] theorem upTo_self (s : Supply α) : s.upTo s = [] := by
  simp only [upTo, Nat.sub_self, take]

@[simp] theorem upTo_tail (s : Supply α) : s.upTo s.tail = [s.head] := by
  simp only [upTo, tail, Nat.add_sub_cancel_left, take]

@[simp] theorem take_zero (s : Supply α) : s.take 0 = [] := rfl

theorem take_succ (s : Supply α) (n : Nat) : s.take (n + 1) = s.head :: s.tail.take n := rfl

@[simp] theorem drop_zero (s : Supply α) : s.drop 0 = s := rfl

theorem drop_succ (s : Supply α) (n : Nat) : s.drop (n + 1) = s.tail.drop n := by
  simp only [drop, tail, Nat.add_right_comm, Nat.add_assoc]

theorem drop_drop (s : Supply α) (m n : Nat) : (s.drop m).drop n = s.drop (m + n) := by
  simp only [drop, Nat.add_assoc]

theorem ahead_succ (s : Supply α) (k : Nat) : s.ahead (k + 1) = s.tail.ahead k := by
  simp only [ahead, tail, Nat.add_right_comm, Nat.add_assoc]

@[simp] theorem length_take (s : Supply α) (n : Nat) : (s.take n).length = n := by
  induction n generalizing s with
  | zero => rfl
  | succ n ih => rw [take_succ, List.length_cons, ih]

theorem take_add (s : Supply α) (m n : Nat) : s.take (m + n) = s.take m ++ (s.drop m).take n := by
  induction m generalizing s with
  | zero => simp
  | succ m ih => rw [Nat.add_right_comm, take_succ, ih, take_succ, drop_succ, List.cons_append]

theorem take_succ_last (s : Supply α) (n : Nat) : s.take (n + 1) = s.take n ++ [s.ahead n] := by
  rw [take_add]
  rfl

theorem forall_mem_take {P : α → Prop} {s : Supply α} {n : Nat} (h : ∀ k < n, P (s.ahead k)) :
    ∀ x ∈ s.take n, P x := by
  induction n with
  | zero => exact fun x mem => absurd mem List.not_mem_nil
  | succ n ih =>
    intro x mem
    rw [take_succ_last] at mem
    rcases List.mem_append.mp mem with early | last
    · exact ih (fun k hk => h k (Nat.lt_succ_of_lt hk)) x early
    · rw [List.mem_singleton.mp last]
      exact h n (Nat.lt_succ_self n)

/-- The next items are these and then those when these come next, and those after them. -/
theorem take_append_iff (s : Supply α) (l l' : List α) :
    s.take (l ++ l').length = l ++ l' ↔
      s.take l.length = l ∧ (s.drop l.length).take l'.length = l' := by
  rw [List.length_append, take_add]
  constructor
  · intro h
    exact List.append_inj h (length_take _ _)
  · rintro ⟨first, second⟩
    rw [first, second]

theorem getElem_take (s : Supply α) (n k : Nat) (h : k < (s.take n).length) :
    (s.take n)[k] = s.ahead k := by
  induction n generalizing s k with
  | zero => simp at h
  | succ n ih =>
    cases k with
    | zero => rfl
    | succ k =>
      rw [ahead_succ]
      exact ih s.tail k (by simpa [take_succ] using h)

/-- The items of a list come first in the supply that is made of it. -/
theorem take_ofList (l : List α) (rest : α) : (ofList l rest).take l.length = l := by
  apply List.ext_getElem (length_take _ _)
  intro k _ h
  rw [getElem_take]
  simp [ofList, ahead, List.getD_eq_getElem?_getD, h]

end Supply

end AvatarVault
