import AvatarVault.Proofs.Json.RoundTrip
import AvatarVault.Proofs.Toml.Text
/-!
What stands on a line is read back: a value that an entry holds (`readValue_render?`), a key without
quotes (`readKey_bare`), an entry and the header of a table.  A value without quotes reaches up to
the first character that no such value holds, so the end of the line settles what it is.
-/
namespace AvatarVault.Toml

/-! ## Numbers -/

section Digits

variable {ds : List Char}

theorem digitValue_of_isDigit {c : Char} (digit : c.isDigit = true) :
    digitValue c = c.toNat - 48 := by
  have range : '0' ≤ c ∧ c ≤ '9' := by simpa [Char.isDigit, Char.le_def] using digit
  rw [digitValue, if_pos (by simp [range])]

theorem isDigitOf_of_isDigit {c : Char} (digit : c.isDigit = true) : isDigitOf 10 c = true := by
  have low : c.toNat ≤ 57 := by
    simp only [Char.isDigit, Bool.and_eq_true, decide_eq_true_eq] at digit
    exact digit.2
  rw [isDigitOf, digitValue_of_isDigit digit]
  simp only [decide_eq_true_eq]
  omega

/-- Digits hold no other character. -/
theorem notMem_of_isDigit (all : ∀ d ∈ ds, d.isDigit = true) {c : Char}
    (other : c.isDigit = false) : c ∉ ds := fun mem => by
  rw [all c mem] at other
  cases other

theorem digits?_of_isDigit (some_digit : ds ≠ []) (all : ∀ d ∈ ds, d.isDigit = true) :
    digits? 10 ds = some ds := by
  induction ds with
  | nil => exact absurd rfl some_digit
  | cons d ds ih =>
    have first := isDigitOf_of_isDigit (all d List.mem_cons_self)
    have later : ∀ e ∈ ds, e.isDigit = true := fun e mem => all e (List.mem_cons_of_mem d mem)
    cases ds with
    | nil => rw [digits?, if_pos first]
    | cons e ds =>
      have notUnderscore : e ≠ '_' := by
        rintro rfl
        cases all '_' (by simp)
      rw [digits?, if_pos first, ih (List.cons_ne_nil e ds) later]
      · rfl
      · exact List.cons_ne_nil e ds
      · rintro rest ⟨⟩
        exact notUnderscore rfl

theorem ofDigits_eq (all : ∀ d ∈ ds, d.isDigit = true) : ofDigits 10 ds = Json.ofDigits ds := by
  have same (n : Nat) : ds.foldl (fun n c => n * 10 + digitValue c) n
      = ds.foldl (fun n c => n * 10 + (c.toNat - 48)) n := by
    induction ds generalizing n with
    | nil => rfl
    | cons d ds ih =>
      rw [List.foldl_cons, List.foldl_cons, digitValue_of_isDigit (all d List.mem_cons_self),
        ih fun e mem => all e (List.mem_cons_of_mem d mem)]
  exact same 0

/-- Digits are no date and no time. -/
theorem isMoment_of_isDigit (all : ∀ d ∈ ds, d.isDigit = true) :
    isMoment ds = false ∧ isDate ds = false := by
  have noHyphen : '-' ∉ ds := notMem_of_isDigit all rfl
  have noColon : ':' ∉ ds := notMem_of_isDigit all rfl
  have date : afterDate? ds = none := by
    unfold afterDate?
    split
    · simp at noHyphen
    · rfl
  have time : afterTime? ds = none := by
    unfold afterTime?
    split
    · simp at noColon
    · rfl
  exact ⟨by rw [isMoment, date, time]; rfl, by rw [isDate, date]; rfl⟩

theorem splitSign_of_isDigit (all : ∀ d ∈ ds, d.isDigit = true) : splitSign ds = (false, ds) := by
  have noMinus : '-' ∉ ds := notMem_of_isDigit all rfl
  have noPlus : '+' ∉ ds := notMem_of_isDigit all rfl
  unfold splitSign
  split
  · simp at noMinus
  · simp at noPlus
  · rfl

end Digits

theorem isDigit_toDigits (n : Nat) : ∀ d ∈ Nat.toDigits 10 n, d.isDigit = true := fun _ mem =>
  Nat.isDigit_of_mem_toDigits (by decide) (by decide) mem

theorem toDigits_start (n : Nat) : ∃ d ds, Nat.toDigits 10 n = d :: ds ∧ d.isDigit = true := by
  obtain ⟨d, ds, first⟩ := List.exists_cons_of_ne_nil (Nat.toDigits_ne_nil (b := 10) (n := n))
  exact ⟨d, ds, first, isDigit_toDigits n d (by rw [first]; exact List.mem_cons_self)⟩

/-- The digits of a number below the limit are read as that number. -/
theorem integer?_toDigits {n : Nat} (small : n < 0x8000000000000000) :
    integer? (Nat.toDigits 10 n) = some (n : Int) := by
  have all := isDigit_toDigits n
  have plain : plainDigits? (Nat.toDigits 10 n) = some (Nat.toDigits 10 n) := by
    rw [plainDigits?, digits?_of_isDigit Nat.toDigits_ne_nil all, Option.filter_some, if_pos]
    by_cases zero : n = 0
    · simp [zero]
    · have first : (Nat.toDigits 10 n).head? ≠ some '0' := fun h => zero (Json.head?_toDigits h)
      simp [first]
  have other (c : Char) (letter : c.isDigit = false) (rest : List Char) :
      Nat.toDigits 10 n ≠ '0' :: c :: rest := fun same => by
    have mem : c ∈ Nat.toDigits 10 n := by
      rw [same]
      simp
    exact notMem_of_isDigit all letter mem
  have range : fits (n : Int) = true := by
    rw [fits]
    simp only [Bool.and_eq_true, decide_eq_true_eq]
    omega
  -- no prefix of another base, no sign: only the last way to read an integer is left
  rw [integer?.eq_def]
  dsimp only
  split
  · rename_i same
    exact absurd same (other 'x' rfl _)
  · rename_i same
    exact absurd same (other 'o' rfl _)
  · rename_i same
    exact absurd same (other 'b' rfl _)
  · rw [splitSign_of_isDigit all]
    dsimp only
    rw [plain, Option.map_some, if_neg (by decide), ofDigits_eq all, Json.ofDigits_toDigits,
      Option.filter_some, if_pos range]

/-! ## Values -/

/-- The value that an entry holds. -/
def Scalar.toToml : Scalar → Toml
  | .text content => .text content
  | .natural value => .integer value
  | .bool value => .bool value

/-- A value without quotes is read up to the end of the line. -/
theorem readToken_of_ofToken? (token : List Char) {found : Toml}
    (within : ∀ c ∈ token, isDelimiter c = false) (value : ofToken? token = some found)
    (noDate : isDate token = false) (rest : List Char) :
    readToken (token ++ '\n' :: rest) = some (found, '\n' :: rest) := by
  have taken : (token ++ '\n' :: rest).takeWhile (fun c => !isDelimiter c) = token := by
    rw [List.takeWhile_append_of_pos (by simpa using within),
      List.takeWhile_cons_of_neg (by decide), List.append_nil]
  have left : (token ++ '\n' :: rest).dropWhile (fun c => !isDelimiter c) = '\n' :: rest := by
    rw [List.dropWhile_append_of_pos (by simpa using within),
      List.dropWhile_cons_of_neg (by decide)]
  rw [readToken]
  simp only [taken, left, value, noDate, bind, Option.bind, pure]

theorem isDelimiter_of_isDigit {c : Char} (digit : c.isDigit = true) : isDelimiter c = false := by
  have other (d : Char) (h : d.isDigit = false) : (c == d) = false := by
    rw [beq_eq_false_iff_ne]
    rintro rfl
    rw [digit] at h
    cases h
  simp only [isDelimiter, isSpace, other ' ' rfl, other '\t' rfl, other '\n' rfl, other '\r' rfl,
    other '#' rfl, other ',' rfl, other ']' rfl, other '\x7d' rfl, Bool.or_self]

theorem ofToken?_toDigits {n : Nat} (small : n < 0x8000000000000000) :
    ofToken? (Nat.toDigits 10 n) = some (.integer n) := by
  have all := isDigit_toDigits n
  have noWord (c : Char) (letter : c.isDigit = false) (rest : List Char) :
      (Nat.toDigits 10 n == c :: rest) = false := by
    rw [beq_eq_false_iff_ne]
    intro same
    refine notMem_of_isDigit all letter ?_
    rw [same]
    exact List.mem_cons_self
  rw [ofToken?, noWord 't' rfl, noWord 'f' rfl, (isMoment_of_isDigit all).1,
    integer?_toDigits small]
  rfl

/-- What neither quotes nor brackets open is read up to its end. -/
theorem readValue_eq_readToken {c : Char}
    (bare : c ≠ '"' ∧ c ≠ '\'' ∧ c ≠ '[' ∧ c ≠ '\x7b') (depth fuel : Nat) (rest : List Char) :
    readValue depth (fuel + 1) (c :: rest) = readToken (c :: rest) := by
  obtain ⟨double, single, bracket, brace⟩ := bare
  rw [readValue]
  all_goals simp_all

/-- **A value is read back** at the end of a line. -/
theorem readValue_render? {value : Scalar} {written : List Char}
    (h : value.render? = some written) (depth fuel : Nat) (rest : List Char) :
    readValue depth (fuel + 1) (written ++ '\n' :: rest) = some (value.toToml, '\n' :: rest) := by
  cases value with
  | text s =>
    cases h
    have read := readText_renderText s rest
    obtain ⟨t, double | single⟩ := renderText_head s
    · rw [double] at read ⊢
      rw [List.cons_append] at read ⊢
      rw [readValue, read]
      rfl
    · rw [single] at read ⊢
      rw [List.cons_append] at read ⊢
      rw [readValue, read]
      rfl
  | natural n =>
    rw [Scalar.render?] at h
    split at h
    · rename_i small
      cases h
      have all := isDigit_toDigits n
      have read := readToken_of_ofToken? _ (fun d mem => isDelimiter_of_isDigit (all d mem))
        (ofToken?_toDigits small) (isMoment_of_isDigit all).2 rest
      obtain ⟨d, ds, first, digit⟩ := toDigits_start n
      rw [first] at read ⊢
      have bare : d ≠ '"' ∧ d ≠ '\'' ∧ d ≠ '[' ∧ d ≠ '\x7b' := by
        refine ⟨?_, ?_, ?_, ?_⟩ <;> · rintro rfl; cases digit
      rw [List.cons_append, readValue_eq_readToken bare, ← List.cons_append, read]
      rfl
    · cases h
  | bool b =>
    cases h
    cases b with
    | true =>
      rw [if_pos rfl]
      exact (readValue_eq_readToken (by decide) depth fuel _).trans
        (readToken_of_ofToken? ['t', 'r', 'u', 'e'] (by simp [isDelimiter, isSpace]) rfl rfl rest)
    | false =>
      rw [if_neg Bool.false_ne_true]
      exact (readValue_eq_readToken (by decide) depth fuel _).trans
        (readToken_of_ofToken? ['f', 'a', 'l', 's', 'e'] (by simp [isDelimiter, isSpace]) rfl rfl
          rest)

/-- A value starts with no blank. -/
theorem skipSpace_render? {value : Scalar} {written : List Char}
    (h : value.render? = some written) (rest : List Char) :
    skipSpace (written ++ rest) = written ++ rest := by
  have start : ∃ c t, written = c :: t ∧ isSpace c = false := by
    cases value with
    | text s =>
      cases h
      obtain ⟨t, double | single⟩ := renderText_head s
      · exact ⟨_, t, double, rfl⟩
      · exact ⟨_, t, single, rfl⟩
    | natural n =>
      rw [Scalar.render?] at h
      split at h
      · cases h
        obtain ⟨d, ds, first, digit⟩ := toDigits_start n
        have apart := isDelimiter_of_isDigit digit
        simp only [isDelimiter, Bool.or_eq_false_iff] at apart
        exact ⟨d, ds, first, apart.1.1.1.1.1.1⟩
      · cases h
    | bool b =>
      cases h
      cases b with
      | true => exact ⟨_, _, rfl, rfl⟩
      | false => exact ⟨_, _, rfl, rfl⟩
  obtain ⟨c, t, rfl, notSpace⟩ := start
  rw [skipSpace, List.cons_append, List.dropWhile_cons_of_neg (by simp [notSpace])]

/-! ## Keys and lines -/

/-- A key that needs no quotes. -/
structure IsBare (key : String) : Prop where
  some_char : key.toList ≠ []
  bare : ∀ c ∈ key.toList, isBareKey c = true

instance decidableIsBare (key : String) : Decidable (IsBare key) :=
  decidable_of_iff (key.toList ≠ [] ∧ key.toList.all isBareKey = true)
    ⟨fun h => ⟨h.1, List.all_eq_true.mp h.2⟩, fun h => ⟨h.some_char, List.all_eq_true.mpr h.bare⟩⟩

theorem IsBare.start {key : String} (h : IsBare key) :
    ∃ c t, key.toList = c :: t ∧ ∀ q, isBareKey q = false → c ≠ q := by
  obtain ⟨c, t, first⟩ := List.exists_cons_of_ne_nil h.some_char
  refine ⟨c, t, first, ?_⟩
  rintro q other rfl
  rw [h.bare c (by rw [first]; exact List.mem_cons_self)] at other
  cases other

theorem readKeyPart_bare {key : String} (h : IsBare key) {c : Char} (stop : isBareKey c = false)
    (rest : List Char) : readKeyPart (key.toList ++ c :: rest) = some (key, c :: rest) := by
  have taken : (key.toList ++ c :: rest).takeWhile isBareKey = key.toList := by
    rw [List.takeWhile_append_of_pos h.bare, List.takeWhile_cons_of_neg (by simp [stop]),
      List.append_nil]
  have left : (key.toList ++ c :: rest).dropWhile isBareKey = c :: rest := by
    rw [List.dropWhile_append_of_pos h.bare, List.dropWhile_cons_of_neg (by simp [stop])]
  obtain ⟨d, ds, first, other⟩ := h.start
  unfold readKeyPart
  split
  · rename_i same
    rw [first] at same
    exact absurd (List.cons.inj same).1 (other '"' rfl)
  · rename_i same
    rw [first] at same
    exact absurd (List.cons.inj same).1 (other '\'' rfl)
  · dsimp only
    rw [taken, left, if_neg (by simpa using h.some_char), String.ofList_toList]

theorem isSpace_eq_false {c : Char} (blank : c ≠ ' ') (tab : c ≠ '\t') : isSpace c = false := by
  rw [isSpace, Bool.or_eq_false_iff, beq_eq_false_iff_ne, beq_eq_false_iff_ne]
  exact ⟨blank, tab⟩

theorem skipSpace_bare {key : String} (h : IsBare key) (rest : List Char) :
    skipSpace (key.toList ++ rest) = key.toList ++ rest := by
  obtain ⟨d, ds, first, other⟩ := h.start
  have notSpace := isSpace_eq_false (other ' ' rfl) (other '\t' rfl)
  rw [first, skipSpace, List.cons_append, List.dropWhile_cons_of_neg (by simp [notSpace])]

/-- A key without quotes is read up to the next character on the line that is no point. -/
theorem readKey_bare {key : String} (h : IsBare key) {c : Char} (stop : isBareKey c = false)
    {d : Char} (notPoint : d ≠ '.') (rest : List Char) {tail : List Char}
    (next : skipSpace (c :: rest) = d :: tail) :
    readKey (key.toList ++ c :: rest) = some ([key], d :: tail) := by
  have fuel : depthLimit - 1 = 78 + 1 := rfl
  rw [readKey, fuel, readKeyParts, skipSpace_bare h, readKeyPart_bare h stop]
  simp only [bind, Option.bind, next]
  split
  · rename_i same
    exact absurd (List.cons.inj same).1 notPoint
  · rfl

theorem afterLine?_newline (rest : List Char) : afterLine? ('\n' :: rest) = some rest := rfl

/-- An entry is read from its line. -/
theorem readStatement_entry {key : String} (h : IsBare key) {value : Scalar} {written : List Char}
    (render : value.render? = some written) (fuel : Nat) (rest : List Char) :
    readStatement (fuel + 1) (key.toList ++ ' ' :: '=' :: ' ' :: (written ++ '\n' :: rest))
      = some (.entry [key] value.toToml, rest) := by
  have key_read := readKey_bare h (c := ' ') rfl (d := '=') (by decide)
    ('=' :: ' ' :: (written ++ '\n' :: rest)) rfl
  have value_read := readValue_render? render (depthLimit - 1) fuel rest
  have blank : skipSpace (' ' :: (written ++ '\n' :: rest)) = written ++ '\n' :: rest :=
    skipSpace_render? render _
  obtain ⟨d, ds, first, other⟩ := h.start
  rw [first, List.cons_append] at key_read ⊢
  rw [readStatement]
  · simp only [key_read, blank, value_read, afterLine?_newline, bind, Option.bind, pure]
  · exact fun rest same => other '[' rfl (List.cons.inj same).1
  · exact fun rest same => other '[' rfl (List.cons.inj same).1

/-- The header of a table is read from its line. -/
theorem readStatement_table {name : String} (h : IsBare name) (fuel : Nat) (rest : List Char) :
    readStatement fuel ('[' :: (name.toList ++ ']' :: '\n' :: rest))
      = some (.table [name], rest) := by
  have key_read := readKey_bare h (c := ']') rfl (d := ']') (by decide)
    ('\n' :: rest) rfl
  obtain ⟨d, ds, first, other⟩ := h.start
  rw [first, List.cons_append] at key_read ⊢
  rw [readStatement]
  · simp only [key_read, afterLine?_newline, bind, Option.bind, pure]
  · exact fun rest same => other '[' rfl (List.cons.inj same).1

end AvatarVault.Toml
