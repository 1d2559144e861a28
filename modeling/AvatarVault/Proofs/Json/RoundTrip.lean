import Mathlib.Data.List.TakeDrop
import AvatarVault.Json.Reader
import AvatarVault.Json.Writer
/-!
What is written as a flat JSON object reads back as that object (`parse_renderObject`): any names,
any texts and any natural numbers.  Quoted text is read character by character (`Spells` says which
piece stands for which character), digits are read up to the first character that is none.
-/
namespace AvatarVault.Json

/-! ## Quoted text -/

/-- The pieces that stand for one character by themselves. -/
inductive Spells : Piece → Char → Prop where
  | char (c : Char) : Spells (.char c) c
  /-- A unit below the halves of characters. -/
  | unit {n : Nat} (low : n < 0xd800) : Spells (.unit n) (Char.ofNat n)

theorem joinPieces_cons {p : Piece} {c : Char} (h : Spells p c) (rest : List Piece) :
    joinPieces (p :: rest) = (joinPieces rest).map (c :: ·) := by
  cases h with
  | char => rw [joinPieces]
  | @unit n low =>
    have high : (decide (0xd800 ≤ n) && decide (n < 0xdc00)) = false := by simp; omega
    have second : (decide (0xdc00 ≤ n) && decide (n < 0xe000)) = false := by simp; omega
    have half : (decide (0xd800 ≤ n) && decide (n < 0xe000)) = false := by simp; omega
    match rest with
    | [] => simp [joinPieces, half]
    | .char _ :: _ => simp [joinPieces, half]
    | .unit _ :: _ =>
      rw [joinPieces]
      simp only [high, second, Bool.false_eq_true, if_false]

/-- The four digits of a control character name it. -/
theorem unit?_control : ∀ n < 0x20,
    unit? '0' '0' (Hex.digit (n / 16)) (Hex.digit (n % 16)) = some n := by
  decide

theorem pieces_plain {c : Char} (quote : c ≠ '"') (backslash : c ≠ '\\') (high : ¬ c.toNat < 0x20)
    (rest : List Char) :
    pieces (c :: rest) = (pieces rest).map fun found => (.char c :: found.1, found.2) := by
  have allowed : (decide (c.toNat < 0x20) || c == '\\') = false := by simp [backslash]; omega
  rw [pieces.eq_def]
  split
  case h_5 rest' _ _ _ e =>
    obtain ⟨rfl, rfl⟩ := List.cons.inj e
    simp only [allowed, Bool.false_eq_true, if_false]
    cases pieces rest <;> rfl
  all_goals simp_all

theorem pieces_escaped {e c : Char} (letter : escaped? e = some c) (rest : List Char) :
    pieces ('\\' :: e :: rest)
      = (pieces rest).map fun found => (.char c :: found.1, found.2) := by
  have notUnit : e ≠ 'u' := by
    rintro rfl
    simp [escaped?] at letter
  rw [pieces.eq_def]
  split
  case h_4 e' rest' _ same =>
    simp only [List.cons.injEq, true_and] at same
    obtain ⟨rfl, rfl⟩ := same
    rw [letter]
    cases pieces rest <;> rfl
  case h_5 other same =>
    obtain ⟨rfl, rfl⟩ := List.cons.inj same
    exact absurd rfl (other e rest rfl)
  all_goals simp_all

theorem pieces_unit {a b c d : Char} {n : Nat} (name : unit? a b c d = some n) (rest : List Char) :
    pieces ('\\' :: 'u' :: a :: b :: c :: d :: rest)
      = (pieces rest).map fun found => (.unit n :: found.1, found.2) := by
  rw [pieces, name]
  cases pieces rest <;> rfl

/-- A character inside quotes is read as one piece that stands for it. -/
theorem pieces_escape (c : Char) (rest : List Char) :
    ∃ p, Spells p c ∧
      pieces (escape c ++ rest) = (pieces rest).map fun found => (p :: found.1, found.2) := by
  unfold escape
  split
  case h_8 quote backslash _ _ _ _ _ =>
    split
    · rename_i control
      refine ⟨.unit c.toNat, ?_, pieces_unit (unit?_control _ control) rest⟩
      have same := Spells.unit (n := c.toNat) (by omega)
      rwa [Char.ofNat_toNat] at same
    · rename_i high
      exact ⟨.char c, .char c, pieces_plain quote backslash high rest⟩
  all_goals exact ⟨_, .char _, pieces_escaped rfl rest⟩

/-- Quoted text is read back, whatever follows it. -/
theorem readText_quote (s rest : List Char) :
    readText (s.flatMap escape ++ '"' :: rest) = some (some (String.ofList s), rest) := by
  have read : ∃ found, pieces (s.flatMap escape ++ '"' :: rest) = some (found, rest) ∧
      joinPieces found = some s := by
    induction s with
    | nil => exact ⟨[], by rw [List.flatMap_nil, List.nil_append, pieces], rfl⟩
    | cons c s ih =>
      obtain ⟨found, some_found, joined⟩ := ih
      obtain ⟨p, spells, first⟩ := pieces_escape c (s.flatMap escape ++ '"' :: rest)
      refine ⟨p :: found, ?_, ?_⟩
      · rw [List.flatMap_cons, List.append_assoc, first, some_found]
        rfl
      · rw [joinPieces_cons spells, joined]
        rfl
  obtain ⟨found, some_found, joined⟩ := read
  simp only [readText, some_found, bind, Option.bind, joined, Option.map_some, pure]

/-! ## Numbers -/

theorem ofDigits_toDigits (n : Nat) : ofDigits (Nat.toDigits 10 n) = n := by
  have read := Nat.ofDigitChars_toDigits (b := 10) (n := n) (by decide) (by decide)
  rw [Nat.ofDigitChars_eq_foldl] at read
  simpa only [ofDigits, Nat.mul_comm, Char.reduceToNat] using read

/-- Only zero starts with the digit zero. -/
theorem head?_toDigits {n : Nat} (h : (Nat.toDigits 10 n).head? = some '0') : n = 0 := by
  induction n using Nat.strongRecOn with
  | _ n ih =>
    by_cases small : n < 10
    · rw [Nat.toDigits_of_lt_base small] at h
      have digits : ∀ d < 10, d.digitChar = '0' → d = 0 := by decide
      exact digits n small (by simpa using h)
    · have long := Nat.toDigits_of_base_le (b := 10) (n := n) (by decide) (by omega)
      have some_digit : Nat.toDigits 10 (n / 10) ≠ [] := Nat.toDigits_ne_nil
      obtain ⟨d, ds, first⟩ := List.exists_cons_of_ne_nil some_digit
      rw [long, first] at h
      have := ih (n / 10) (by omega) (by rw [first]; exact h)
      omega

/-- Digits are read back up to the first character that is none. -/
theorem readNumber_toDigits (n : Nat) {c : Char} (stop : c.isDigit = false)
    (notFraction : c ≠ '.') (notExponent : c ≠ 'e' ∧ c ≠ 'E') (rest : List Char) :
    readNumber false (Nat.toDigits 10 n ++ c :: rest) = some (.natural n, c :: rest) := by
  have all : ∀ d ∈ Nat.toDigits 10 n, d.isDigit = true := fun d mem =>
    Nat.isDigit_of_mem_toDigits (by decide) (by decide) mem
  have cut : digits (Nat.toDigits 10 n ++ c :: rest) = (Nat.toDigits 10 n, c :: rest) := by
    rw [digits, List.span_eq_takeWhile_dropWhile, List.takeWhile_append_of_pos all,
      List.dropWhile_append_of_pos all]
    simp [stop]
  have canonical : ((Nat.toDigits 10 n).isEmpty ||
      (decide ((Nat.toDigits 10 n).length > 1) && (Nat.toDigits 10 n).head? == some '0'))
        = false := by
    have some_digit : Nat.toDigits 10 n ≠ [] := Nat.toDigits_ne_nil
    simp only [Bool.or_eq_false_iff, List.isEmpty_eq_false_iff, Bool.and_eq_false_iff,
      decide_eq_false_iff_not, beq_eq_false_iff_ne]
    refine ⟨some_digit, ?_⟩
    by_cases zero : n = 0
    · exact .inl (by simp [zero])
    · exact .inr fun first => zero (head?_toDigits first)
  have fraction : skipFraction (c :: rest) = some (c :: rest) := by
    unfold skipFraction
    split
    · simp_all
    · rfl
  have exponent : skipExponent (c :: rest) = some (c :: rest) := by
    simp [skipExponent, notExponent]
  simp only [readNumber, cut, canonical, fraction, exponent, bind, Option.bind, pure,
    ofDigits_toDigits, Nat.lt_irrefl, decide_false, Bool.or_self, Bool.false_eq_true, if_false]

/-! ## Values and fields -/

/-- The value that a field holds. -/
def Scalar.toJson : Scalar → Json
  | .natural value => .natural value
  | .text content => .text (some content)

theorem skipSpace_of_ne {c : Char} (h : isSpace c = false) (rest : List Char) :
    skipSpace (c :: rest) = c :: rest := by
  rw [skipSpace, List.dropWhile_cons_of_neg (by simp [h])]

theorem skipSpace_cons {c : Char} (h : isSpace c = true) (rest : List Char) :
    skipSpace (c :: rest) = skipSpace rest := by
  rw [skipSpace, List.dropWhile_cons_of_pos h, skipSpace]

theorem readValue_space {c : Char} (h : isSpace c = true) (fuel : Nat) (rest : List Char) :
    readValue fuel (c :: rest) = readValue fuel rest := by
  cases fuel with
  | zero => simp only [readValue]
  | succ fuel => rw [readValue, readValue, skipSpace_cons h]

theorem readFields_space {c : Char} (h : isSpace c = true) (fuel : Nat) (rest : List Char) :
    readFields fuel (c :: rest) = readFields fuel rest := by
  cases fuel with
  | zero => simp only [readFields]
  | succ fuel => rw [readFields, readFields, skipSpace_cons h]

/-- Leading space makes no difference, none or all of it. -/
theorem readFields_skipSpace (fuel : Nat) (cs : List Char) :
    readFields fuel (skipSpace cs) = readFields fuel cs := by
  induction cs with
  | nil => rfl
  | cons c cs ih =>
    by_cases h : isSpace c = true
    · rw [skipSpace_cons h, ih, readFields_space h]
    · rw [skipSpace_of_ne (Bool.eq_false_iff.2 h)]

theorem readValue_digit {d : Char} (digit : d.isDigit = true) (fuel : Nat) (rest : List Char) :
    readValue (fuel + 1) (d :: rest) = readNumber false (d :: rest) := by
  have notSpace : isSpace d = false := by
    have other (c : Char) (h : c.isDigit = false) : (d == c) = false := by
      rw [beq_eq_false_iff_ne]
      rintro rfl
      rw [digit] at h
      simp at h
    simp only [isSpace, other ' ' rfl, other '\t' rfl, other '\n' rfl, other '\r' rfl, Bool.or_self]
  rw [readValue, skipSpace_of_ne notSpace]
  split <;> simp_all

/-- A value is read back when a comma or the end of a line follows it. -/
theorem readValue_render (value : Scalar) (fuel : Nat) {c : Char} (stop : c = ',' ∨ c = '\n')
    (rest : List Char) :
    readValue (fuel + 1) (value.render ++ c :: rest) = some (value.toJson, c :: rest) := by
  cases value with
  | natural n =>
    have digits : ∀ d ∈ Nat.toDigits 10 n, d.isDigit = true := fun d mem =>
      Nat.isDigit_of_mem_toDigits (by decide) (by decide) mem
    have read := readNumber_toDigits n (c := c) (by rcases stop with rfl | rfl <;> rfl)
      (by rcases stop with rfl | rfl <;> decide) (by rcases stop with rfl | rfl <;> decide) rest
    obtain ⟨d, ds, first⟩ := List.exists_cons_of_ne_nil (Nat.toDigits_ne_nil (b := 10) (n := n))
    simp only [Scalar.render, Scalar.toJson]
    rw [first] at read digits ⊢
    rw [List.cons_append, readValue_digit (digits d (by simp)), ← List.cons_append, read]
  | text s =>
    simp only [Scalar.render, Scalar.toJson, quote, List.cons_append, List.append_assoc,
      List.nil_append]
    rw [readValue, skipSpace_of_ne (by decide)]
    simp only [readText_quote, Option.map_some, String.ofList_toList]

/-- One field and what stands behind it: the reader is left with the rest of the fields. -/
theorem readFields_renderField (name : String) (value : Scalar) (fuel : Nat) (rest : List Char) :
    readFields (fuel + 2) (renderField name value ++ ',' :: rest)
        = (readFields (fuel + 1) rest).map
          (fun found => ((some name, value.toJson) :: found.1, found.2)) ∧
      readFields (fuel + 2) (renderField name value ++ '\n' :: '\x7d' :: rest)
        = some ([(some name, value.toJson)], rest) := by
  have space : isSpace ' ' = true := rfl
  have shape (tail : List Char) : renderField name value ++ tail
      = ' ' :: ' ' :: '"' :: (name.toList.flatMap escape ++ '"' :: ':' :: ' ' ::
        (value.render ++ tail)) := by
    simp [renderField, quote]
  have opened (tail : List Char) : skipSpace ('"' :: tail) = '"' :: tail := rfl
  have colon (tail : List Char) : skipSpace (':' :: tail) = ':' :: tail := rfl
  constructor
  · rw [shape, readFields_space space, readFields_space space, readFields, opened]
    simp only [readText_quote, bind, Option.bind, colon, readValue_space space,
      readValue_render value fuel (.inl rfl), String.ofList_toList]
    rw [skipSpace_of_ne (by decide)]
    change (readFields (fuel + 1) rest).bind _ = _
    cases readFields (fuel + 1) rest <;> rfl
  · rw [shape, readFields_space space, readFields_space space, readFields, opened]
    simp only [readText_quote, bind, Option.bind, colon, readValue_space space,
      readValue_render value fuel (.inr rfl), String.ofList_toList]
    rw [skipSpace_cons (by decide), skipSpace_of_ne (by decide)]
    rfl

/-- The fields of an object are read back up to its closing bracket. -/
theorem readFields_renderFields (first : String × Scalar) (more : List (String × Scalar))
    {fuel : Nat} (enough : more.length + 2 ≤ fuel) (rest : List Char) :
    readFields fuel (renderFields (first :: more) ++ '\x7d' :: rest)
      = some ((first :: more).map fun field => (some field.1, field.2.toJson), rest) := by
  induction more generalizing first fuel with
  | nil =>
    obtain ⟨fuel, rfl⟩ := Nat.exists_eq_add_of_le' enough
    simpa [renderFields] using (readFields_renderField first.1 first.2 fuel rest).2
  | cons second more ih =>
    obtain ⟨fuel, rfl⟩ := Nat.exists_eq_add_of_le' enough
    have next := (readFields_renderField first.1 first.2 (fuel + more.length + 1)
      ('\n' :: (renderFields (second :: more) ++ '\x7d' :: rest))).1
    rw [readFields_space rfl, ih second (by omega)] at next
    simp only [renderFields, List.append_assoc, List.cons_append, List.nil_append,
      List.length_cons]
    rw [show fuel + (more.length + 1 + 2) = fuel + more.length + 1 + 2 by omega, next]
    simp

theorem length_le_renderFields (fields : List (String × Scalar)) :
    fields.length ≤ (renderFields fields).length := by
  fun_induction renderFields fields with
  | case1 => simp
  | case2 name value => simp
  | case3 name value rest _ ih => simp only [List.length_append, List.length_cons] at ih ⊢; omega

/-- The first line of an object that has fields starts with a quote, blanks apart. -/
theorem skipSpace_renderFields (first : String × Scalar) (more : List (String × Scalar))
    (rest : List Char) :
    ∃ tail, skipSpace ('\n' :: (renderFields (first :: more) ++ rest)) = '"' :: tail := by
  cases more <;> exact ⟨_, rfl⟩

/-- **A flat object is read back as it was written.** -/
theorem parse_renderObject (fields : List (String × Scalar)) :
    parse (renderObject fields)
      = some (.object (fields.map fun field => (some field.1, field.2.toJson))) := by
  have read : ∀ fuel, fields.length + 1 ≤ fuel →
      readValue (fuel + 1) ('\x7b' :: '\n' :: (renderFields fields ++ ['\x7d']))
        = some (.object (fields.map fun field => (some field.1, field.2.toJson)), []) := by
    intro fuel enough
    rw [readValue, skipSpace_of_ne (by decide)]
    cases fields with
    | nil => rfl
    | cons first more =>
      obtain ⟨tail, quoted⟩ := skipSpace_renderFields first more ['\x7d']
      have all := readFields_renderFields first more enough []
      rw [← readFields_space (c := '\n') rfl, ← readFields_skipSpace, quoted] at all
      simp only [quoted]
      change (readFields fuel ('"' :: tail)).map _ = _
      rw [all, Option.map_some]
  have long := length_le_renderFields fields
  rw [parse]
  simp only [renderObject, String.toList_ofList, List.cons_append, List.nil_append, bind,
    Option.bind, List.length_cons, List.length_append, List.length_nil]
  rw [read _ (by omega)]
  rfl

end AvatarVault.Json
