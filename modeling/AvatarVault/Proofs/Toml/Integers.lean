import AvatarVault.Proofs.Toml.Document
/-!
No document holds an integer of more than 64 bits, sign included (`parse_inRange`), at whatever
depth it stands and whichever headers and dotted keys lead to it.  The reader checks each integer
where it reads it, and no step that puts tables together makes a new one.
-/
namespace AvatarVault.Toml

/-- Every integer in the value has at most 64 bits. -/
inductive InRange : Toml → Prop where
  | text (content : String) : InRange (.text content)
  | integer {i : Int} (range : fits i = true) : InRange (.integer i)
  | float : InRange .float
  | bool (value : Bool) : InRange (.bool value)
  | moment : InRange .moment
  | array {items : List Toml} (each : ∀ t ∈ items, InRange t) : InRange (.array items)
  | table {entries : List (String × Toml)} (each : ∀ e ∈ entries, InRange e.2) :
    InRange (.table entries)

mutual

/-- Every integer below the node has at most 64 bits. -/
inductive Node.InRange : Node → Prop where
  | leaf {value : Toml} (inside : Toml.InRange value) : Node.InRange (.leaf value)
  | table {t : Table} (inside : Table.InRange t) : Node.InRange (.table t)
  | tables {items : List Table} (each : ∀ t ∈ items, Table.InRange t) : Node.InRange (.tables items)

/-- Every integer in the table has at most 64 bits. -/
inductive Table.InRange : Table → Prop where
  | mk {isImplicit isDotted : Bool} {es : List (String × Node)}
    (each : ∀ e ∈ es, Node.InRange e.2) : Table.InRange (.mk isImplicit isDotted es)

end

/-! ## Tables in the making -/

namespace Table

variable {t t' : Table} {key : String} {n : Node}

theorem InRange.entries (h : t.InRange) : ∀ e ∈ t.entries, e.2.InRange := by
  cases h with
  | mk each => exact each

theorem inRange_empty : empty.InRange := .mk fun _ mem => nomatch mem

theorem InRange.find? (h : t.InRange) (found : t.find? key = some n) : n.InRange := by
  obtain ⟨e, first, rfl⟩ := Option.map_eq_some_iff.mp found
  exact h.entries e (List.mem_of_find?_eq_some first)

theorem InRange.set (h : t.InRange) (inside : n.InRange) : (t.set key n).InRange := by
  refine .mk fun e mem => ?_
  rcases List.mem_append.mp mem with old | new
  · exact h.entries e (List.mem_filter.mp old).1
  · rw [List.mem_singleton.mp new]
    exact inside

/-- A change that keeps integers in range does so at the end of any path. -/
theorem InRange.descend {dotted : Bool} {path : List String} {change : Table → Option Table}
    (keeps : ∀ {t t'}, InRange t → change t = some t' → InRange t') (h : t.InRange)
    (changed : t.descend dotted path change = some t') : t'.InRange := by
  induction path generalizing t t' with
  | nil => exact keeps h changed
  | cons key path ih =>
    rw [Table.descend] at changed
    -- the next table of the path is new, is there, or is the last one of an array
    split at changed
    · simp only [bind, Option.bind_eq_some_iff, pure, Option.some.injEq] at changed
      obtain ⟨child, inner, rfl⟩ := changed
      exact h.set (.table (ih (.mk fun e mem => absurd mem List.not_mem_nil) inner))
    · cases changed
    · rename_i child found
      split at changed
      · cases changed
      · simp only [bind, Option.bind_eq_some_iff, pure, Option.some.injEq] at changed
        obtain ⟨child', inner, rfl⟩ := changed
        cases h.find? found with
        | table inside => exact h.set (.table (ih inside inner))
    · rename_i items found
      cases h.find? found with
      | tables each =>
        split at changed
        · cases changed
        · rename_i child last
          simp only [bind, Option.bind_eq_some_iff, pure, Option.some.injEq] at changed
          obtain ⟨child', inner, rfl⟩ := changed
          refine h.set (.tables fun u mem => ?_)
          rcases List.mem_append.mp mem with old | new
          · exact each u ((List.dropLast_sublist items).subset old)
          · rw [List.mem_singleton.mp new]
            exact ih (each child (List.mem_of_getLast? last)) inner

theorem InRange.insert {key : List String} {value : Toml} (h : t.InRange)
    (inside : value.InRange) (inserted : t.insert key value = some t') : t'.InRange := by
  rw [Table.insert] at inserted
  split at inserted
  · refine h.descend (fun {u u'} old changed => ?_) inserted
    split at changed
    · cases changed
    split at changed
    · cases changed
    · cases changed
      exact old.set (.leaf inside)
  · cases inserted

theorem InRange.openTable {key : List String} {fill : Table → Option Table}
    (keeps : ∀ {t t'}, InRange t → fill t = some t' → InRange t') (h : t.InRange)
    (opened : t.openTable key fill = some t') : t'.InRange := by
  rw [Table.openTable] at opened
  split at opened
  · cases opened
  · refine h.descend (fun {u u'} old changed => ?_) opened
    split at changed
    · simp only [bind, Option.bind_eq_some_iff, pure, Option.some.injEq] at changed
      obtain ⟨filled, inner, rfl⟩ := changed
      exact old.set (.table (keeps inRange_empty inner))
    · rename_i child found
      split at changed
      · simp only [bind, Option.bind_eq_some_iff, pure, Option.some.injEq] at changed
        obtain ⟨filled, inner, rfl⟩ := changed
        cases old.find? found with
        | table inside => exact old.set (.table (keeps (.mk inside.entries) inner))
      · cases changed
    · cases changed

theorem InRange.appendTable {key : List String} {fill : Table → Option Table}
    (keeps : ∀ {t t'}, InRange t → fill t = some t' → InRange t') (h : t.InRange)
    (appended : t.appendTable key fill = some t') : t'.InRange := by
  rw [Table.appendTable] at appended
  split at appended
  · cases appended
  · refine h.descend (fun {u u'} old changed => ?_) appended
    split at changed
    · simp only [bind, Option.bind_eq_some_iff, pure, Option.some.injEq] at changed
      obtain ⟨filled, inner, rfl⟩ := changed
      refine old.set (.tables fun v mem => ?_)
      rw [List.mem_singleton.mp mem]
      exact keeps inRange_empty inner
    · rename_i items found
      simp only [bind, Option.bind_eq_some_iff, pure, Option.some.injEq] at changed
      obtain ⟨filled, inner, rfl⟩ := changed
      cases old.find? found with
      | tables each =>
        refine old.set (.tables fun v mem => ?_)
        rcases List.mem_append.mp mem with before | new
        · exact each v before
        · rw [List.mem_singleton.mp new]
          exact keeps inRange_empty inner
    · cases changed

end Table

theorem tablesToValues_eq_map (items : List Table) :
    tablesToValues items = items.map Table.toValue := by
  induction items with
  | nil => rfl
  | cons t items ih => rw [tablesToValues, ih, List.map_cons]

mutual

theorem Node.InRange.toValue : ∀ {n : Node}, n.InRange → Toml.InRange n.toValue
  | .leaf _, .leaf inside => by
    rw [Node.toValue]
    exact inside
  | .table _, .table inside => by
    rw [Node.toValue]
    exact inside.toValue
  | .tables items, .tables each => by
    rw [Node.toValue, tablesToValues_eq_map]
    refine .array fun t mem => ?_
    obtain ⟨u, old, same⟩ := List.mem_map.mp mem
    rw [← same]
    exact (each u old).toValue

theorem Table.InRange.toValue : ∀ {t : Table}, t.InRange → Toml.InRange t.toValue
  | .mk _ _ es, .mk each => by
    rw [Table.toValue, entriesToValues_eq_map]
    refine .table fun e mem => ?_
    obtain ⟨d, old, same⟩ := List.mem_map.mp mem
    rw [← same]
    exact (each d old).toValue

end

/-! ## The reader -/

theorem ofToken?_inRange {token : List Char} {t : Toml} (h : ofToken? token = some t) :
    InRange t := by
  rw [ofToken?] at h
  split at h
  · cases h
    exact .bool true
  split at h
  · cases h
    exact .bool false
  split at h
  · cases h
    exact .moment
  split at h
  · rename_i i found
    cases h
    exact .integer (Option.mem_filter_iff.mp found).2
  · split at h
    · cases h
      exact .float
    · cases h

theorem readToken_inRange {cs rest : List Char} {t : Toml} (h : readToken cs = some (t, rest)) :
    InRange t := by
  simp only [readToken, bind, Option.bind_eq_some_iff] at h
  obtain ⟨found, value, h⟩ := h
  have same : found = t := by
    split at h
    · split at h <;> · cases h; rfl
    · cases h
      rfl
  rw [← same]
  exact ofToken?_inRange value

/-- What is read with so much fuel is in range. -/
structure ReadsInRange (fuel : Nat) : Prop where
  value : ∀ {depth cs t rest}, readValue depth fuel cs = some (t, rest) → InRange t
  items : ∀ {depth cs ts rest}, readItems depth fuel cs = some (ts, rest) → ∀ t ∈ ts, InRange t
  entries : ∀ {depth cs es rest}, readEntries depth fuel cs = some (es, rest) →
    ∀ e ∈ es, InRange e.2

theorem foldlM_insert_inRange {es : List (List String × Toml)} {t made : Table}
    (each : ∀ e ∈ es, InRange e.2) (h : t.InRange)
    (folded : es.foldlM (fun (t : Table) (key, value) => t.insert key value) t = some made) :
    made.InRange := by
  induction es generalizing t with
  | nil =>
    cases folded
    exact h
  | cons e es ih =>
    simp only [List.foldlM_cons, bind, Option.bind_eq_some_iff] at folded
    obtain ⟨u, inserted, more⟩ := folded
    exact ih (fun d mem => each d (List.mem_cons_of_mem e mem))
      (h.insert (each e List.mem_cons_self) inserted) more

/-- One step of the reader keeps values in range, whichever kind of value it meets. -/
theorem ReadsInRange.succ {fuel : Nat} (h : ReadsInRange fuel) : ReadsInRange (fuel + 1) where
  value {depth cs t rest} read := by
    rw [readValue.eq_def] at read
    dsimp only at read
    split at read
    · obtain ⟨found, -, same⟩ := Option.map_eq_some_iff.mp read
      cases same
      exact .text _
    · obtain ⟨found, -, same⟩ := Option.map_eq_some_iff.mp read
      cases same
      exact .text _
    · cases read
    · obtain ⟨found, inner, same⟩ := Option.map_eq_some_iff.mp read
      cases same
      exact .array (h.items inner)
    · cases read
    · split at read
      · cases read
        exact .table fun e mem => absurd mem List.not_mem_nil
      · simp only [bind, Option.bind_eq_some_iff, pure, Option.some.injEq, Prod.mk.injEq] at read
        obtain ⟨found, inner, made, folded, rfl, -⟩ := read
        exact (foldlM_insert_inRange (h.entries inner) Table.inRange_empty folded).toValue
    · exact readToken_inRange read
  items {depth cs ts rest} read := by
    rw [readItems] at read
    split at read
    · cases read
      exact fun t mem => absurd mem List.not_mem_nil
    · simp only [bind, Option.bind_eq_some_iff] at read
      obtain ⟨⟨first, rest'⟩, inner, read⟩ := read
      dsimp only at read
      split at read
      · simp only [Option.bind_eq_some_iff, pure, Option.some.injEq, Prod.mk.injEq] at read
        obtain ⟨more, later, rfl, -⟩ := read
        exact List.forall_mem_cons.mpr ⟨h.value inner, h.items later⟩
      · cases read
        exact List.forall_mem_singleton.mpr (h.value inner)
      · cases read
  entries {depth cs es rest} read := by
    rw [readEntries] at read
    simp only [bind, Option.bind_eq_some_iff] at read
    obtain ⟨⟨key, rest'⟩, -, read⟩ := read
    dsimp only at read
    split at read
    · simp only [Option.bind_eq_some_iff] at read
      obtain ⟨⟨first, rest'⟩, inner, read⟩ := read
      dsimp only at read
      split at read
      · simp only [Option.bind_eq_some_iff, pure, Option.some.injEq, Prod.mk.injEq] at read
        obtain ⟨more, later, rfl, -⟩ := read
        exact List.forall_mem_cons.mpr ⟨h.value inner, h.entries later⟩
      · cases read
        exact List.forall_mem_singleton.mpr (h.value inner)
      · cases read
    · cases read

theorem readsInRange (fuel : Nat) : ReadsInRange fuel := by
  induction fuel with
  | zero =>
    exact ⟨fun read => by simp [readValue] at read, fun read => by simp [readItems] at read,
      fun read => by simp [readEntries] at read⟩
  | succ fuel ih => exact ih.succ

/-! ## Documents -/

/-- The value of the line is in range, if it has one. -/
def Statement.InRange : Statement → Prop
  | .entry _ value => Toml.InRange value
  | _ => True

theorem readStatement_inRange {fuel : Nat} {cs rest : List Char} {s : Statement}
    (h : readStatement fuel cs = some (s, rest)) : s.InRange := by
  rw [readStatement.eq_def] at h
  split at h
  · simp only [bind, Option.bind_eq_some_iff] at h
    obtain ⟨found, -, h⟩ := h
    split at h
    · simp only [Option.bind_eq_some_iff, pure, Option.some.injEq, Prod.mk.injEq] at h
      obtain ⟨_, -, rfl, -⟩ := h
      trivial
    · cases h
  · simp only [bind, Option.bind_eq_some_iff] at h
    obtain ⟨found, -, h⟩ := h
    split at h
    · simp only [Option.bind_eq_some_iff, pure, Option.some.injEq, Prod.mk.injEq] at h
      obtain ⟨_, -, rfl, -⟩ := h
      trivial
    · cases h
  · simp only [bind, Option.bind_eq_some_iff] at h
    obtain ⟨found, -, h⟩ := h
    split at h
    · simp only [Option.bind_eq_some_iff, pure, Option.some.injEq, Prod.mk.injEq] at h
      obtain ⟨⟨value, rest'⟩, read, _, -, rfl, -⟩ := h
      exact (readsInRange fuel).value read
    · cases h

theorem readStatements_inRange {fuel : Nat} {cs : List Char} {ss : List Statement}
    (h : readStatements fuel cs = some ss) : ∀ s ∈ ss, s.InRange := by
  induction fuel generalizing cs ss with
  | zero => cases h
  | succ fuel ih =>
    rw [readStatements] at h
    split at h
    · cases h
      exact fun s mem => absurd mem List.not_mem_nil
    · simp only [bind, Option.bind_eq_some_iff, pure, Option.some.injEq] at h
      obtain ⟨⟨first, rest⟩, one, more, others, rfl⟩ := h
      exact List.forall_mem_cons.mpr ⟨readStatement_inRange one, ih others⟩

theorem fill_inRange {ss : List Statement} (each : ∀ s ∈ ss, s.InRange) {t t' : Table}
    (h : t.InRange) (filled : fill ss t = some t') : t'.InRange := by
  induction ss generalizing t with
  | nil =>
    cases filled
    exact h
  | cons s ss ih =>
    have later : ∀ s ∈ ss, s.InRange := fun s mem => each s (List.mem_cons_of_mem _ mem)
    cases s with
    | table key =>
      cases filled
      exact h
    | tables key =>
      cases filled
      exact h
    | entry key value =>
      obtain ⟨u, inserted, more⟩ := Option.bind_eq_some_iff.mp filled
      exact ih later (h.insert (each _ List.mem_cons_self) inserted) more

theorem build_inRange {ss : List Statement} (each : ∀ s ∈ ss, s.InRange) {t t' : Table}
    (h : t.InRange) (built : build ss t = some t') : t'.InRange := by
  induction ss generalizing t with
  | nil =>
    cases built
    exact h
  | cons s ss ih =>
    have later : ∀ s ∈ ss, s.InRange := fun s mem => each s (List.mem_cons_of_mem _ mem)
    cases s with
    | table key =>
      obtain ⟨u, opened, more⟩ := Option.bind_eq_some_iff.mp built
      exact ih later (h.openTable (fill_inRange later) opened) more
    | tables key =>
      obtain ⟨u, appended, more⟩ := Option.bind_eq_some_iff.mp built
      exact ih later (h.appendTable (fill_inRange later) appended) more
    | entry key value => exact ih later h built

/-- **Every integer in a document has at most 64 bits.** -/
theorem parse_inRange {s : String} {t : Toml} (h : parse s = some t) : InRange t := by
  simp only [parse, bind, Option.bind_eq_some_iff, pure, Option.some.injEq] at h
  obtain ⟨ss, read, root, filled, made, built, rfl⟩ := h
  have each := readStatements_inRange read
  exact (build_inRange each (fill_inRange each Table.inRange_empty filled) built).toValue

end AvatarVault.Toml
