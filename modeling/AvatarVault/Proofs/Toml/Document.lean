import AvatarVault.Proofs.Toml.Line
/-!
What is written as tables is read back as a document of those tables (`parse_renderTables?`), when
neither two tables nor two keys of a table have the same name and no name needs quotes: any texts,
any truth values, any numbers that can be written at all.  A comment on the first line and one more
line end at the end make no difference.  The reader first takes the document apart into the lines
that say something (`readStatements_renderTables?`), then builds the tables from these lines
(`build_tableLines`).
-/
namespace AvatarVault.Toml

/-- Tables that a document can hold, with names that need no quotes. -/
structure WellNamed (tables : List (String × List (String × Scalar))) : Prop where
  bareNames : ∀ t ∈ tables, IsBare t.1
  bareKeys : ∀ t ∈ tables, ∀ e ∈ t.2, IsBare e.1
  names : (tables.map Prod.fst).Nodup
  keys : ∀ t ∈ tables, (t.2.map Prod.fst).Nodup

/-- What the lines of entries say. -/
def entryLines (entries : List (String × Scalar)) : List Statement :=
  entries.map fun e => .entry [e.1] e.2.toToml

/-- What the lines of tables say. -/
def tableLines (tables : List (String × List (String × Scalar))) : List Statement :=
  tables.flatMap fun t => .table [t.1] :: entryLines t.2

theorem tableLines_cons (t : String × List (String × Scalar))
    (tables : List (String × List (String × Scalar))) :
    tableLines (t :: tables) = .table [t.1] :: (entryLines t.2 ++ tableLines tables) := rfl

/-! ## The lines -/

theorem skipLines_of_ne {c : Char} (line : c ≠ '\n' ∧ c ≠ '\r') (space : isSpace c = false)
    (comment : c ≠ '#') (rest : List Char) : skipLines false (c :: rest) = c :: rest := by
  rw [skipLines]
  · simp [space, comment]
  · exact line.1
  · exact fun t same => absurd same line.2

theorem skipLines_bare {key : String} (h : IsBare key) (rest : List Char) :
    skipLines false (key.toList ++ rest) = key.toList ++ rest := by
  obtain ⟨c, t, first, other⟩ := h.start
  have space := isSpace_eq_false (other ' ' rfl) (other '\t' rfl)
  rw [first, List.cons_append,
    skipLines_of_ne ⟨other '\n' rfl, other '\r' rfl⟩ space (other '#' rfl)]

/-- A comment is skipped with its line. -/
theorem skipLines_comment {comment : List Char} (plain : ∀ c ∈ comment, isPlain c = true)
    (rest : List Char) :
    skipLines true (comment ++ '\n' :: rest) = skipLines false rest := by
  induction comment with
  | nil => rfl
  | cons c cs ih =>
    have first := plain c List.mem_cons_self
    have line := ne_line_of_isPlain first
    rw [List.cons_append, skipLines]
    · rw [if_pos rfl, if_pos first, ih fun d mem => plain d (List.mem_cons_of_mem c mem)]
    · exact line.1
    · exact fun t same => absurd same line.2

/-- Where the next line that says something starts makes no difference. -/
theorem readStatements_of_skipLines {cs cs' : List Char}
    (same : skipLines false cs = skipLines false cs') (fuel : Nat) :
    readStatements fuel cs = readStatements fuel cs' := by
  cases fuel with
  | zero => rfl
  | succ fuel => rw [readStatements, readStatements, same]

theorem readStatements_end {cs : List Char} (ends : skipLines false cs = []) (fuel : Nat) :
    readStatements (fuel + 1) cs = some [] := by
  rw [readStatements, ends]

/-- One line that says something, and the lines after it. -/
theorem readStatements_cons {c : Char} {cs rest : List Char} {first : Statement} {fuel : Nat}
    (start : skipLines false (c :: cs) = c :: cs)
    (read : readStatement (2 * fuel) (c :: cs) = some (first, rest)) :
    readStatements (fuel + 1) (c :: cs) = (readStatements fuel rest).map (first :: ·) := by
  rw [readStatements, start]
  simp only [read, bind, Option.bind, pure]
  cases readStatements fuel rest <;> rfl

/-- Entries are read line by line. -/
theorem readStatements_renderEntries? {entries : List (String × Scalar)} {written : List Char}
    (h : renderEntries? entries = some written) (bare : ∀ e ∈ entries, IsBare e.1) {fuel : Nat}
    (enough : 0 < fuel) (rest : List Char) :
    readStatements (entries.length + fuel) (written ++ rest)
      = (readStatements fuel rest).map (entryLines entries ++ ·) := by
  induction entries generalizing written with
  | nil =>
    cases h
    simp [entryLines]
  | cons e entries ih =>
    obtain ⟨key, value⟩ := e
    simp only [renderEntries?, bind, Option.bind_eq_some_iff, pure, Option.some.injEq] at h
    obtain ⟨shown, render, more, others, rfl⟩ := h
    have named : IsBare key := bare _ List.mem_cons_self
    have later := ih others fun e mem => bare e (List.mem_cons_of_mem _ mem)
    have positive : 2 * (entries.length + fuel) = 2 * (entries.length + fuel) - 1 + 1 := by omega
    have line := readStatement_entry named render (2 * (entries.length + fuel) - 1) (more ++ rest)
    rw [← positive] at line
    have start := skipLines_bare named (' ' :: '=' :: ' ' :: (shown ++ '\n' :: (more ++ rest)))
    obtain ⟨c, t, first, -⟩ := named.start
    simp only [first, List.append_assoc, List.cons_append, List.nil_append] at line start ⊢
    rw [List.length_cons, Nat.add_right_comm, readStatements_cons start line, later]
    cases readStatements fuel rest <;> rfl

/-- A table is read line by line. -/
theorem readStatements_renderTable? {name : String} {entries : List (String × Scalar)}
    {written : List Char} (h : renderTable? name entries = some written) (named : IsBare name)
    (bare : ∀ e ∈ entries, IsBare e.1) {fuel : Nat} (enough : 0 < fuel) (rest : List Char) :
    readStatements (entries.length + 1 + fuel) (written ++ rest)
      = (readStatements fuel rest).map (.table [name] :: entryLines entries ++ ·) := by
  simp only [renderTable?, bind, Option.bind_eq_some_iff, pure, Option.some.injEq] at h
  obtain ⟨more, others, rfl⟩ := h
  have line := readStatement_table named (2 * (entries.length + fuel)) (more ++ rest)
  have later := readStatements_renderEntries? others bare enough rest
  have start := skipLines_of_ne (c := '[') (by decide) rfl (by decide)
    (name.toList ++ ']' :: '\n' :: (more ++ rest))
  simp only [List.append_assoc, List.cons_append, List.nil_append]
  rw [Nat.add_right_comm, readStatements_cons start line, later]
  cases readStatements fuel rest <;> rfl

/-- Tables are read line by line. -/
theorem readStatements_renderTables? {tables : List (String × List (String × Scalar))}
    {written : List Char} (h : renderTables? tables = some written)
    (bareNames : ∀ t ∈ tables, IsBare t.1) (bareKeys : ∀ t ∈ tables, ∀ e ∈ t.2, IsBare e.1)
    {fuel : Nat} (enough : 0 < fuel) (rest : List Char) :
    readStatements ((tableLines tables).length + fuel) (written ++ rest)
      = (readStatements fuel rest).map (tableLines tables ++ ·) := by
  fun_induction renderTables? tables generalizing written with
  | case1 =>
    cases h
    simp [tableLines]
  | case2 name entries =>
    have read := readStatements_renderTable? h (bareNames _ List.mem_cons_self)
      (bareKeys _ List.mem_cons_self) enough rest
    simpa [tableLines, entryLines] using read
  | case3 name entries tables _ ih =>
    simp only [bind, Option.bind_eq_some_iff, pure, Option.some.injEq] at h
    obtain ⟨table, one, more, others, rfl⟩ := h
    have later := ih others (fun t mem => bareNames t (List.mem_cons_of_mem _ mem))
      (fun t mem => bareKeys t (List.mem_cons_of_mem _ mem))
    have positive : 0 < (tableLines tables).length + fuel := by omega
    have read := readStatements_renderTable? one (bareNames _ List.mem_cons_self)
      (bareKeys _ List.mem_cons_self) positive ('\n' :: (more ++ rest))
    have empty : skipLines false ('\n' :: (more ++ rest)) = skipLines false (more ++ rest) := by
      rw [skipLines]
    have blank := readStatements_of_skipLines empty ((tableLines tables).length + fuel)
    have count : (tableLines ((name, entries) :: tables)).length + fuel
        = entries.length + 1 + ((tableLines tables).length + fuel) := by
      simp only [tableLines_cons, entryLines, List.length_append, List.length_cons,
        List.length_map]
      omega
    simp only [List.append_assoc, List.cons_append, List.nil_append]
    rw [count, read, blank, later, tableLines_cons]
    cases readStatements fuel rest with
    | none => rfl
    | some lines => simp only [Option.map_some, List.append_assoc, List.cons_append]

/-! ## The tables -/

theorem Table.find?_eq_none {t : Table} {key : String} (fresh : key ∉ t.entries.map Prod.fst) :
    t.find? key = none := by
  have absent : (t.entries.find? fun entry => entry.1 == key) = none := by
    rw [List.find?_eq_none]
    intro e mem same
    exact fresh (List.mem_map.mpr ⟨e, mem, by simpa using same⟩)
  rw [Table.find?, absent]
  rfl

/-- A key that was not there goes to the end. -/
theorem Table.set_fresh {isImplicit isDotted : Bool} {es : List (String × Node)} {key : String}
    (fresh : key ∉ es.map Prod.fst) (n : Node) :
    (Table.mk isImplicit isDotted es).set key n = .mk isImplicit isDotted (es ++ [(key, n)]) := by
  have kept : (es.filter fun entry => entry.1 != key) = es := by
    rw [List.filter_eq_self]
    intro e mem
    rw [bne_iff_ne]
    rintro rfl
    exact fresh (List.mem_map_of_mem mem)
  rw [Table.set, Table.entries, kept]
  rfl

/-- The nodes that entries become. -/
def leaves (entries : List (String × Scalar)) : List (String × Node) :=
  entries.map fun e => (e.1, .leaf e.2.toToml)

/-- The nodes that tables become. -/
def branches (tables : List (String × List (String × Scalar))) : List (String × Node) :=
  tables.map fun t => (t.1, .table (.mk false false (leaves t.2)))

/-- The entries of a table are added to it one by one. -/
theorem fill_entryLines {entries : List (String × Scalar)} {es : List (String × Node)}
    (distinct : (es.map Prod.fst ++ entries.map Prod.fst).Nodup) (isImplicit : Bool)
    {more : List Statement} (stop : ∀ t, fill more t = some t) :
    fill (entryLines entries ++ more) (.mk isImplicit false es)
      = some (.mk isImplicit false (es ++ leaves entries)) := by
  induction entries generalizing es with
  | nil => simp [entryLines, leaves, stop]
  | cons e entries ih =>
    obtain ⟨key, value⟩ := e
    have fresh : key ∉ es.map Prod.fst := fun mem =>
      (List.nodup_append.mp distinct).2.2 key mem key List.mem_cons_self rfl
    have others : ((es ++ [(key, Node.leaf value.toToml)]).map Prod.fst
        ++ entries.map Prod.fst).Nodup := by
      simpa [List.append_assoc] using distinct
    have later := ih others
    have added : (Table.mk isImplicit false es).insert [key] value.toToml
        = some (.mk isImplicit false (es ++ [(key, .leaf value.toToml)])) := by
      have absent := Table.find?_eq_none (t := .mk isImplicit false es) fresh
      rw [Table.insert, List.getLast?_singleton]
      dsimp only
      rw [Table.insertAt, List.dropLast_singleton, Table.descend, if_neg (by simp [Table.isDotted]),
        absent]
      dsimp only
      rw [Table.set_fresh fresh]
    simp only [entryLines, List.map_cons, List.cons_append] at later ⊢
    rw [fill, added, Option.bind_some, later, leaves, leaves, List.map_cons, List.append_assoc]
    rfl

theorem fill_tableLines (tables : List (String × List (String × Scalar))) (t : Table) :
    fill (tableLines tables) t = some t := by
  cases tables with
  | nil => rfl
  | cons first more => rfl

theorem build_entryLines (entries : List (String × Scalar)) (more : List Statement) (t : Table) :
    build (entryLines entries ++ more) t = build more t := by
  induction entries with
  | nil => rfl
  | cons e entries ih => exact ih

/-- The tables are added to the root one by one. -/
theorem build_tableLines {tables : List (String × List (String × Scalar))}
    {es : List (String × Node)} (names : (es.map Prod.fst ++ tables.map Prod.fst).Nodup)
    (keys : ∀ t ∈ tables, (t.2.map Prod.fst).Nodup) (isImplicit isDotted : Bool) :
    build (tableLines tables) (.mk isImplicit isDotted es)
      = some (.mk isImplicit isDotted (es ++ branches tables)) := by
  induction tables generalizing es with
  | nil => simp [tableLines, branches, build]
  | cons t tables ih =>
    obtain ⟨name, entries⟩ := t
    have fresh : name ∉ es.map Prod.fst := fun mem =>
      (List.nodup_append.mp names).2.2 name mem name List.mem_cons_self rfl
    have others : ((es ++ [(name, Node.table (.mk false false (leaves entries)))]).map Prod.fst
        ++ tables.map Prod.fst).Nodup := by
      simpa [List.append_assoc] using names
    have later := ih others fun t mem => keys t (List.mem_cons_of_mem _ mem)
    have distinct : (([] : List (String × Node)).map Prod.fst ++ entries.map Prod.fst).Nodup :=
      keys _ List.mem_cons_self
    have filled := fill_entryLines distinct false (fill_tableLines tables)
    have opened : (Table.mk isImplicit isDotted es).openTable [name]
        (fill (entryLines entries ++ tableLines tables))
        = some (.mk isImplicit isDotted
          (es ++ [(name, .table (.mk false false (leaves entries)))])) := by
      have absent := Table.find?_eq_none (t := .mk isImplicit isDotted es) fresh
      rw [Table.openTable, List.getLast?_singleton]
      dsimp only
      rw [List.dropLast_singleton, Table.descend, absent]
      dsimp only
      rw [Table.empty, filled]
      simp only [bind, Option.bind, pure, List.nil_append]
      rw [Table.set_fresh fresh]
    rw [tableLines_cons, build, opened, Option.bind_some, build_entryLines, later, branches,
      branches, List.map_cons, List.append_assoc]
    rfl

/-! ## The document -/

theorem entriesToValues_eq_map (es : List (String × Node)) :
    entriesToValues es = es.map fun e => (e.1, e.2.toValue) := by
  induction es with
  | nil => rfl
  | cons e es ih =>
    obtain ⟨key, n⟩ := e
    rw [entriesToValues, ih]
    rfl

/-- The document that tables make. -/
def document (tables : List (String × List (String × Scalar))) : List (String × Toml) :=
  tables.map fun t => (t.1, .table (t.2.map fun e => (e.1, e.2.toToml)))

theorem toValue_branches (tables : List (String × List (String × Scalar))) :
    (Table.mk false false (branches tables)).toValue = .table (document tables) := by
  have leaf (entries : List (String × Scalar)) : entriesToValues (leaves entries)
      = entries.map fun e => (e.1, e.2.toToml) := by
    rw [entriesToValues_eq_map, leaves, List.map_map]
    exact List.map_congr_left fun e _ => by
      rw [Function.comp_apply, Node.toValue]
  rw [Table.toValue, entriesToValues_eq_map, branches, List.map_map, document]
  congr 1
  exact List.map_congr_left fun t _ => by
    rw [Function.comp_apply, Node.toValue, Table.toValue, leaf]

theorem length_entryLines {entries : List (String × Scalar)} {written : List Char}
    (h : renderEntries? entries = some written) : entries.length ≤ written.length := by
  induction entries generalizing written with
  | nil => exact Nat.zero_le _
  | cons e entries ih =>
    simp only [renderEntries?, bind, Option.bind_eq_some_iff, pure, Option.some.injEq] at h
    obtain ⟨shown, -, more, others, rfl⟩ := h
    have later := ih others
    simp only [List.length_append, List.length_cons]
    omega

/-- No line is empty. -/
theorem length_tableLines {tables : List (String × List (String × Scalar))} {written : List Char}
    (h : renderTables? tables = some written) : (tableLines tables).length ≤ written.length := by
  have table {name : String} {entries : List (String × Scalar)} {shown : List Char}
      (one : renderTable? name entries = some shown) : entries.length + 1 ≤ shown.length := by
    simp only [renderTable?, bind, Option.bind_eq_some_iff, pure, Option.some.injEq] at one
    obtain ⟨more, others, rfl⟩ := one
    have later := length_entryLines others
    simp only [List.length_append, List.length_cons]
    omega
  fun_induction renderTables? tables generalizing written with
  | case1 => exact Nat.zero_le _
  | case2 name entries => simpa [tableLines, entryLines] using table h
  | case3 name entries tables _ ih =>
    simp only [bind, Option.bind_eq_some_iff, pure, Option.some.injEq] at h
    obtain ⟨shown, one, more, others, rfl⟩ := h
    have first := table one
    have later := ih others
    simp only [tableLines_cons, entryLines, List.length_append, List.length_cons, List.length_map]
    omega

/-- Text in which the reader comes to written tables, and to nothing after them. -/
theorem parse_of_skipLines {tables : List (String × List (String × Scalar))}
    {written : List Char} (h : renderTables? tables = some written) (named : WellNamed tables)
    {cs : List Char} (after : List Char)
    (start : skipLines false cs = skipLines false (written ++ after))
    (ends : skipLines false after = []) (long : written.length ≤ cs.length)
    (noMark : ∀ t, cs ≠ '\ufeff' :: t) :
    parse (String.ofList cs) = some (.table (document tables)) := by
  have count := length_tableLines h
  have fuel : cs.length + 1 = (tableLines tables).length +
      (cs.length - (tableLines tables).length + 1) := by omega
  have read : readStatements (cs.length + 1) cs = some (tableLines tables) := by
    rw [readStatements_of_skipLines start, fuel, readStatements_renderTables? h named.bareNames
      named.bareKeys (Nat.succ_pos _), readStatements_end ends, Option.map_some, List.append_nil]
  have names : (([] : List (String × Node)).map Prod.fst ++ tables.map Prod.fst).Nodup :=
    named.names
  have built : build (tableLines tables) Table.empty = some (.mk false false (branches tables)) :=
    build_tableLines names named.keys false false
  rw [parse, String.toList_ofList]
  split
  · exact absurd rfl (noMark _)
  · simp only [read, fill_tableLines, built, bind, Option.bind, pure, toValue_branches]

/-- **What is written as tables is read back as those tables.** -/
theorem parse_renderTables? {tables : List (String × List (String × Scalar))}
    {written : List Char} (h : renderTables? tables = some written) (named : WellNamed tables) :
    parse (String.ofList written) = some (.table (document tables)) := by
  refine parse_of_skipLines h named [] (by rw [List.append_nil]) rfl (Nat.le_refl _) ?_
  have header {name : String} {entries : List (String × Scalar)} {shown : List Char}
      (one : renderTable? name entries = some shown) : ∃ t, shown = '[' :: t := by
    simp only [renderTable?, bind, Option.bind_eq_some_iff, pure, Option.some.injEq] at one
    obtain ⟨more, -, rfl⟩ := one
    exact ⟨_, rfl⟩
  rintro t rfl
  revert h
  fun_cases renderTables? tables with
  | case1 => exact fun h => nomatch h
  | case2 name entries =>
    intro h
    obtain ⟨t, start⟩ := header h
    cases start
  | case3 name entries tables =>
    intro h
    simp only [bind, Option.bind_eq_some_iff, pure, Option.some.injEq] at h
    obtain ⟨shown, one, more, -, start⟩ := h
    obtain ⟨u, rfl⟩ := header one
    cases start

/-- A comment before written tables and a line end after them make no difference. -/
theorem parse_commented {tables : List (String × List (String × Scalar))} {written : List Char}
    (h : renderTables? tables = some written) (named : WellNamed tables) {comment : List Char}
    (plain : ∀ c ∈ comment, isPlain c = true) :
    parse (String.ofList ('#' :: (comment ++ '\n' :: (written ++ ['\n']))))
      = some (.table (document tables)) := by
  refine parse_of_skipLines h named ['\n'] ?_ (by decide) ?_ ?_
  · rw [skipLines]
    · rw [if_neg Bool.false_ne_true, if_neg (by decide), if_pos (beq_self_eq_true '#'),
        skipLines_comment plain]
    · decide
    · exact fun t same => absurd same (by decide)
  · simp only [List.length_cons, List.length_append]
    omega
  · exact fun t same => absurd (List.cons.inj same).1 (by decide)

/-! ## What cannot be written -/

/-- A number beyond the limit. -/
def Scalar.IsLong : Scalar → Prop
  | .natural value => 0x8000000000000000 ≤ value
  | _ => False

theorem Scalar.render?_eq_none_iff (value : Scalar) : value.render? = none ↔ value.IsLong := by
  cases value with
  | text content => simp [render?, IsLong]
  | natural value => simp [render?, IsLong]
  | bool value => simp [render?, IsLong]

theorem renderEntries?_eq_none_iff (entries : List (String × Scalar)) :
    renderEntries? entries = none ↔ ∃ e ∈ entries, e.2.render? = none := by
  induction entries with
  | nil => simp [renderEntries?]
  | cons e entries ih =>
    obtain ⟨key, value⟩ := e
    cases shown : value.render? with
    | none => simp [renderEntries?, shown]
    | some text =>
      cases more : renderEntries? entries <;> simp [renderEntries?, shown, more, ← ih]

/-- There is no text for tables in which a number is too long, and for no others. -/
theorem renderTables?_eq_none_iff (tables : List (String × List (String × Scalar))) :
    renderTables? tables = none ↔ ∃ t ∈ tables, ∃ e ∈ t.2, e.2.render? = none := by
  have table (name : String) (entries : List (String × Scalar)) :
      renderTable? name entries = none ↔ ∃ e ∈ entries, e.2.render? = none := by
    rw [← renderEntries?_eq_none_iff]
    cases lines : renderEntries? entries <;> simp [renderTable?, lines]
  fun_induction renderTables? tables with
  | case1 => simp
  | case2 name entries => simpa using table name entries
  | case3 name entries tables _ ih =>
    have later : renderTables? tables = none ↔ ∃ t ∈ tables, ∃ e ∈ t.2, e.2.render? = none := ih
    simp only [List.mem_cons, exists_eq_or_imp]
    rw [← table, ← later]
    cases renderTable? name entries <;> cases renderTables? tables <;> simp

end AvatarVault.Toml
