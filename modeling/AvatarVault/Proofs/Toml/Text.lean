import AvatarVault.Toml.Reader
import AvatarVault.Toml.Writer
/-!
A text that is written in quotes is read back as that text, whichever of the four kinds of quotes it
got (`readText_renderText`).  Quoted text is read character by character: `Spells` says which
characters stand for which one.  A quote that stands for itself is the only one for which the reader
looks ahead: between quotes of three there may be two of them in a row, and at the end of the text
as well, where the closing ones follow.
-/
namespace AvatarVault.Toml

/-! ## Characters -/

theorem ne_line_of_isPlain {c : Char} (plain : isPlain c = true) : c ≠ '\n' ∧ c ≠ '\r' := by
  constructor <;> · rintro rfl; cases plain

/-- The characters that stand for one character between double quotes, other than a quote that
stands for itself.  `inLines`: between three of them. -/
inductive Spells (inLines : Bool) : List Char → Char → Prop where
  | plain {c : Char} (plain : isPlain c = true) (quote : c ≠ '"') (backslash : c ≠ '\\') :
    Spells inLines [c] c
  | letter {e c : Char} (letter : escaped? e = some c) : Spells inLines ['\\', e] c
  | code {a b c : Char} (code : charOfHex? ['0', '0', a, b] = some c) :
    Spells inLines ['\\', 'u', '0', '0', a, b] c
  | line (lines : inLines = true) : Spells inLines ['\n'] '\n'

theorem Spells.ne_quote {inLines : Bool} {piece : List Char} {c : Char}
    (h : Spells inLines piece c) (rest t : List Char) : piece ++ rest ≠ '"' :: t := by
  cases h with
  | plain _ quote _ => exact fun same => quote (List.cons.inj same).1
  | letter _ => exact fun same => nomatch (List.cons.inj same).1
  | code _ => exact fun same => nomatch (List.cons.inj same).1
  | line _ => exact fun same => nomatch (List.cons.inj same).1

/-- A letter that is escaped is none that starts a code, and no blank. -/
theorem escaped?_some {e c : Char} (letter : escaped? e = some c) :
    (e ≠ 'u' ∧ e ≠ 'U' ∧ e ≠ '\r') ∧ ∀ rest, endsLine (e :: rest) = false := by
  unfold escaped? at letter
  split at letter
  case h_8 => cases letter
  all_goals exact ⟨by decide, fun rest => rfl⟩

theorem basicText_spells {piece : List Char} {c : Char} (h : Spells false piece c)
    (rest : List Char) : basicText (piece ++ rest) = cons c (basicText rest) := by
  cases h with
  | plain plain quote backslash =>
    rw [List.singleton_append, basicText]
    · simp [plain, backslash]
    all_goals simp_all
  | letter letter =>
    obtain ⟨⟨notCode, notLong, -⟩, -⟩ := escaped?_some letter
    rw [List.cons_append, List.singleton_append, basicText, letter]
    · rfl
    all_goals simp_all
  | code code =>
    simp only [List.cons_append, List.nil_append]
    rw [basicText, code]
    rfl
  | line lines => cases lines

theorem basicLines_spells {piece : List Char} {c : Char} (h : Spells true piece c)
    (rest : List Char) :
    basicLines false (piece ++ rest) = cons c (basicLines false rest) := by
  cases h with
  | plain plain quote backslash =>
    obtain ⟨notLine, notReturn⟩ := ne_line_of_isPlain plain
    rw [List.singleton_append, basicLines]
    · simp [plain, backslash]
    all_goals simp_all
  | letter letter =>
    obtain ⟨⟨notCode, notLong, notReturn⟩, within⟩ := escaped?_some letter
    rw [List.cons_append, List.singleton_append, basicLines, within, letter]
    · rfl
    all_goals simp_all
  | code code =>
    simp only [List.cons_append, List.nil_append]
    rw [basicLines, code]
    rfl
  | line lines =>
    rw [List.singleton_append, basicLines]
    rfl

/-- A control character is written as a code that the reader takes for it. -/
theorem charOfHex?_codeEscape : ∀ n < 128, (n < 0x20 ∨ n = 0x7f) →
    charOfHex? ['0', '0', (Hex.digit (n / 16)).toUpper, (Hex.digit (n % 16)).toUpper]
      = some (Char.ofNat n) := by
  decide

/-- What needs no escape stands for itself on a line. -/
theorem isPlain_of_not_needsEscape {c : Char} (free : needsEscape c = false) (line : c ≠ '\n') :
    isPlain c = true := by
  unfold isPlain
  by_cases tab : c = '\t'
  · rw [tab]
    rfl
  · have noTab : (c != '\t') = true := bne_iff_ne.mpr tab
    have noLine : (c != '\n') = true := bne_iff_ne.mpr line
    rw [needsEscape, noTab, noLine] at free
    simp only [Bool.and_true, Bool.or_eq_false_iff, decide_eq_false_iff_not, Nat.not_lt] at free
    simp [free.1, free.2]

/-- What is written of one character: a quote that stands for itself, or characters that stand for
it. -/
theorem escapeText_cons (inLines : Bool) (run : Nat) (c : Char) (rest : List Char) :
    (c = '"' ∧ inLines = true ∧ run < 2 ∧
      escapeText inLines run (c :: rest) = '"' :: escapeText inLines (run + 1) rest) ∨
    ∃ piece, Spells inLines piece c ∧
      escapeText inLines run (c :: rest) = piece ++ escapeText inLines 0 rest := by
  rw [escapeText.eq_def]
  dsimp only
  split
  · split
    · rename_i raw
      simp only [Bool.and_eq_true, decide_eq_true_eq] at raw
      exact .inl ⟨rfl, raw.1, raw.2, rfl⟩
    · exact .inr ⟨_, .letter (e := '"') rfl, rfl⟩
  · exact .inr ⟨_, .letter (e := '\\') rfl, rfl⟩
  · exact .inr ⟨_, .letter (e := 'b') rfl, rfl⟩
  · exact .inr ⟨_, .letter (e := 't') rfl, rfl⟩
  · exact .inr ⟨_, .letter (e := 'f') rfl, rfl⟩
  · exact .inr ⟨_, .letter (e := 'r') rfl, rfl⟩
  · split
    · rename_i lines
      exact .inr ⟨_, .line lines, rfl⟩
    · exact .inr ⟨_, .letter (e := 'n') rfl, rfl⟩
  · rename_i quote backslash _ tab _ _ line
    split
    · rename_i control
      have range : c.toNat < 0x20 ∨ c.toNat = 0x7f := by
        simp only [needsEscape, Bool.or_eq_true, Bool.and_eq_true, decide_eq_true_eq] at control
        exact control.imp_left (·.1.1)
      have code := charOfHex?_codeEscape c.toNat (by omega) range
      rw [Char.ofNat_toNat] at code
      exact .inr ⟨_, .code code, rfl⟩
    · rename_i free
      exact .inr ⟨_, .plain (isPlain_of_not_needsEscape (Bool.eq_false_iff.mpr free) line) quote
        backslash, rfl⟩

/-! ## Double quotes -/

/-- Between double quotes every text is read back. -/
theorem basicText_escapeText (run : Nat) (cs rest : List Char) :
    basicText (escapeText false run cs ++ '"' :: rest) = some (cs, rest) := by
  induction cs generalizing run with
  | nil => rfl
  | cons c cs ih =>
    rcases escapeText_cons false run c cs with ⟨-, lines, -⟩ | ⟨piece, spells, written⟩
    · cases lines
    · rw [written, List.append_assoc, basicText_spells spells, ih]
      rfl

/-- The closing quotes of three, and what follows them. -/
def closing (q : Char) (rest : List Char) : List Char := q :: q :: q :: rest

section Lines

variable {rest : List Char}

/-- Up to two quotes before the closing ones stand for themselves. -/
theorem basicLines_closing (other : ∀ t, rest ≠ '"' :: t) : ∀ n ≤ 2,
    basicLines false (List.replicate n '"' ++ closing '"' rest)
      = some (List.replicate n '"', rest)
  | 0, _ => by
    rw [closing, List.replicate_zero, List.nil_append, basicLines]
    · exact fun t => other _
    · exact fun t => other _
  | 1, _ => by
    rw [closing, List.replicate_one, List.singleton_append, basicLines]
    exact fun t => other _
  | 2, _ => by
    rw [closing, List.replicate_succ, List.replicate_one, List.cons_append, List.singleton_append,
      basicLines]

/-- A quote that no two others follow stands for itself. -/
theorem basicLines_quote {t : List Char} (lone : ∀ u, t ≠ '"' :: '"' :: u) :
    basicLines false ('"' :: t) = cons '"' (basicLines false t) := by
  rw [basicLines]
  · rfl
  all_goals simp_all

/-- Of the quotes that follow one that stands for itself no two do so as well, unless the text ends
there. -/
theorem lone_escapeText {run : Nat} {cs : List Char} (once : 1 ≤ run) (goes_on : cs ≠ [])
    (not_last : cs = ['"'] → 2 ≤ run) (u : List Char) :
    escapeText true run cs ++ closing '"' rest ≠ '"' :: '"' :: u := by
  obtain ⟨c, cs, rfl⟩ := List.exists_cons_of_ne_nil goes_on
  rcases escapeText_cons true run c cs with ⟨rfl, -, few, written⟩ | ⟨piece, spells, written⟩
  · cases cs with
    | nil => exact absurd (not_last rfl) (Nat.not_le_of_lt few)
    | cons d cs =>
      have second : run + 1 = 2 := by omega
      rw [written, second]
      rcases escapeText_cons true 2 d cs with ⟨-, -, third, -⟩ | ⟨piece, spells, written'⟩
      · exact absurd third (Nat.lt_irrefl 2)
      · rw [written', List.cons_append, List.append_assoc]
        exact fun same => spells.ne_quote _ _ (List.cons.inj same).2
  · rw [written, List.append_assoc]
    exact spells.ne_quote _ _

/-- Between quotes of three every text is read back. -/
theorem basicLines_escapeText (other : ∀ t, rest ≠ '"' :: t) (run : Nat) (cs : List Char) :
    basicLines false (escapeText true run cs ++ closing '"' rest) = some (cs, rest) := by
  induction cs generalizing run with
  | nil => exact basicLines_closing other 0 (by decide)
  | cons c cs ih =>
    rcases escapeText_cons true run c cs with ⟨rfl, -, few, written⟩ | ⟨piece, spells, written⟩
    · -- The reader stops at a quote that two more follow.  Of the text itself no two do; the
      -- closing ones do where the text ends with one or two quotes.
      rw [written]
      by_cases ends : cs = []
      · rw [ends]
        exact basicLines_closing other 1 (by decide)
      by_cases last : cs = ['"'] ∧ run = 0
      · rw [last.1, last.2]
        exact basicLines_closing other 2 (by decide)
      · have not_last : cs = ['"'] → 2 ≤ run + 1 := fun one => by
          have : run ≠ 0 := fun first => last ⟨one, first⟩
          omega
        have lone (u : List Char) :
            escapeText true (run + 1) cs ++ closing '"' rest ≠ '"' :: '"' :: u :=
          lone_escapeText (Nat.le_add_left 1 run) ends not_last u
        rw [List.cons_append, basicLines_quote lone, ih]
        rfl
    · rw [written, List.append_assoc, basicLines_spells spells, ih]
      rfl

end Lines

/-! ## Single quotes -/

theorem literalText_plain {c : Char} (plain : isPlain c = true) (quote : c ≠ '\'')
    (rest : List Char) : literalText (c :: rest) = cons c (literalText rest) := by
  rw [literalText]
  · rw [if_pos plain]
  · exact quote

/-- Between single quotes a text without quotes and codes is read back. -/
theorem literalText_append {cs : List Char} (plain : ∀ c ∈ cs, isPlain c = true ∧ c ≠ '\'')
    (rest : List Char) : literalText (cs ++ '\'' :: rest) = some (cs, rest) := by
  induction cs with
  | nil => rfl
  | cons c cs ih =>
    obtain ⟨first, quote⟩ := plain c List.mem_cons_self
    rw [List.cons_append, literalText_plain first quote,
      ih fun d mem => plain d (List.mem_cons_of_mem c mem)]
    rfl

/-- A run is at least as long as it is already, and one more where it goes on. -/
theorem le_longestRun (q : Char) (cs : List Char) (current : Nat) :
    current ≤ longestRun q cs current := by
  induction cs generalizing current with
  | nil => exact Nat.le_refl current
  | cons c cs ih =>
    rw [longestRun]
    split
    · exact Nat.le_trans (Nat.le_succ current) (ih (current + 1))
    · exact Nat.le_max_left _ _

theorem longestRun_self (q : Char) (cs : List Char) (current : Nat) :
    longestRun q (q :: cs) current = longestRun q cs (current + 1) := by
  rw [longestRun, if_pos (beq_self_eq_true q)]

theorem longestRun_other {q c : Char} (other : c ≠ q) (cs : List Char) (current : Nat) :
    longestRun q (c :: cs) current = max current (longestRun q cs 0) := by
  rw [longestRun, if_neg (by simpa using other)]

theorem notMem_of_longestRun {q : Char} {cs : List Char} (none : longestRun q cs 0 = 0) :
    q ∉ cs := by
  induction cs with
  | nil => exact List.not_mem_nil
  | cons c cs ih =>
    by_cases same : c = q
    · rw [same, longestRun_self] at none
      have some_run := le_longestRun q cs (0 + 1)
      omega
    · rw [longestRun_other same] at none
      have fewer : longestRun q cs 0 = 0 := by omega
      exact fun mem => (List.mem_cons.mp mem).elim (fun first => same first.symm) (ih fewer)

section Lines

variable {rest : List Char}

theorem literalLines_closing (other : ∀ t, rest ≠ '\'' :: t) : ∀ n ≤ 2,
    literalLines (List.replicate n '\'' ++ closing '\'' rest)
      = some (List.replicate n '\'', rest)
  | 0, _ => by
    rw [closing, List.replicate_zero, List.nil_append, literalLines]
    · exact fun t => other _
    · exact fun t => other _
  | 1, _ => by
    rw [closing, List.replicate_one, List.singleton_append, literalLines]
    exact fun t => other _
  | 2, _ => by
    rw [closing, List.replicate_succ, List.replicate_one, List.cons_append, List.singleton_append,
      literalLines]

theorem literalLines_quote {t : List Char} (lone : ∀ u, t ≠ '\'' :: '\'' :: u) :
    literalLines ('\'' :: t) = cons '\'' (literalLines t) := by
  rw [literalLines]
  · rfl
  all_goals simp_all

theorem literalLines_other {c : Char} (allowed : isPlain c = true ∨ c = '\n') (quote : c ≠ '\'')
    (rest : List Char) : literalLines (c :: rest) = cons c (literalLines rest) := by
  rcases allowed with plain | rfl
  · obtain ⟨notLine, notReturn⟩ := ne_line_of_isPlain plain
    rw [literalLines]
    · rw [if_pos plain]
    all_goals simp_all
  · rw [literalLines]

/-- Between single quotes of three a text without codes is read back that has no three single
quotes in a row. -/
theorem literalLines_append (other : ∀ t, rest ≠ '\'' :: t) {cs : List Char} {run : Nat}
    (allowed : ∀ c ∈ cs, isPlain c = true ∨ c = '\n') (few : longestRun '\'' cs run ≤ 2) :
    literalLines (cs ++ closing '\'' rest) = some (cs, rest) := by
  induction cs generalizing run with
  | nil => exact literalLines_closing other 0 (by decide)
  | cons c cs ih =>
    have later : ∀ d ∈ cs, isPlain d = true ∨ d = '\n' := fun d mem =>
      allowed d (List.mem_cons_of_mem c mem)
    by_cases quote : c = '\''
    · subst quote
      rw [longestRun_self] at few
      by_cases ends : cs = []
      · rw [ends]
        exact literalLines_closing other 1 (by decide)
      by_cases last : cs = ['\'']
      · rw [last]
        exact literalLines_closing other 2 (by decide)
      · -- Three in a row would make a run too long.
        have lone (u : List Char) : cs ++ closing '\'' rest ≠ '\'' :: '\'' :: u := by
          obtain ⟨d, cs, rfl⟩ := List.exists_cons_of_ne_nil ends
          intro same
          obtain ⟨rfl, tail⟩ := List.cons.inj same
          have goes_on : cs ≠ [] := fun none => last (by rw [none])
          obtain ⟨e, cs, rfl⟩ := List.exists_cons_of_ne_nil goes_on
          obtain ⟨rfl, -⟩ := List.cons.inj tail
          rw [longestRun_self, longestRun_self] at few
          have three := le_longestRun '\'' cs (run + 1 + 1 + 1)
          omega
        rw [List.cons_append, literalLines_quote lone, ih later few]
        rfl
    · rw [longestRun_other quote] at few
      have fewer : longestRun '\'' cs 0 ≤ 2 := Nat.le_trans (Nat.le_max_right _ _) few
      rw [List.cons_append, literalLines_other (allowed c List.mem_cons_self) quote,
        ih later fewer]
      rfl

end Lines

/-! ## Any quotes -/

/-- Without codes every character stands for itself, line ends apart. -/
theorem isPlain_of_any {cs : List Char} (free : cs.any needsEscape = false) {c : Char}
    (mem : c ∈ cs) : isPlain c = true ∨ c = '\n' := by
  by_cases line : c = '\n'
  · exact .inr line
  · have first : needsEscape c = false := by simpa using List.any_eq_false.mp free c mem
    exact .inl (isPlain_of_not_needsEscape first line)

/-- Single quotes on one line only stand around a text without line ends, codes and single
quotes. -/
theorem quotesFor_literal {cs : List Char} (kind : quotesFor cs = .literal) :
    ∀ c ∈ cs, isPlain c = true ∧ c ≠ '\'' := by
  unfold quotesFor at kind
  dsimp only at kind
  split at kind
  · cases kind
  split at kind
  · rename_i free
    simp only [Bool.and_eq_true, Bool.not_eq_true', decide_eq_true_eq] at free
    obtain ⟨⟨codes, lines⟩, singles⟩ := free
    intro c mem
    refine ⟨(isPlain_of_any codes mem).resolve_right ?_, ?_⟩
    · rintro rfl
      simp [mem] at lines
    · rintro rfl
      exact notMem_of_longestRun singles mem
  · split at kind
    · cases kind
    split at kind
    · cases kind
    split at kind <;> cases kind

/-- Three single quotes only stand around a text without codes and without three single quotes in
a row. -/
theorem quotesFor_literalLines {cs : List Char} (kind : quotesFor cs = .literalLines) :
    (∀ c ∈ cs, isPlain c = true ∨ c = '\n') ∧ longestRun '\'' cs 0 ≤ 2 := by
  unfold quotesFor at kind
  dsimp only at kind
  split at kind
  · cases kind
  split at kind
  · cases kind
  split at kind
  · cases kind
  split at kind
  · rename_i few
    simp only [Bool.and_eq_true, Bool.not_eq_true', decide_eq_true_eq] at few
    exact ⟨fun c mem => isPlain_of_any few.1 mem, few.2⟩
  · split at kind <;> cases kind

/-- Behind an opening of three quotes the reader starts with the text itself. -/
theorem dropNewline_openingLine (cs written : List Char)
    (first : '\n' ∉ cs → ∀ c t, written = c :: t → c ≠ '\n' ∧ c ≠ '\r') :
    dropNewline (openingLine cs ++ written) = written := by
  by_cases lines : '\n' ∈ cs
  · rw [openingLine, if_pos (by simpa using lines)]
    rfl
  · rw [openingLine, if_neg (by simpa using lines), List.nil_append]
    cases written with
    | nil => rfl
    | cons c t =>
      obtain ⟨notLine, notReturn⟩ := first lines c t rfl
      rw [dropNewline, afterNewline?]
      · rfl
      all_goals simp_all

theorem Spells.head_ne {piece : List Char} {c : Char} (h : Spells true piece c) (other : c ≠ '\n')
    {rest t : List Char} {d : Char} (first : piece ++ rest = d :: t) : d ≠ '\n' ∧ d ≠ '\r' := by
  cases h with
  | plain plain _ _ =>
    obtain ⟨rfl, -⟩ := List.cons.inj first
    exact ne_line_of_isPlain plain
  | letter _ =>
    obtain ⟨rfl, -⟩ := List.cons.inj first
    decide
  | code _ =>
    obtain ⟨rfl, -⟩ := List.cons.inj first
    decide
  | line _ => exact absurd rfl other

theorem head_escapeText {cs : List Char} (lines : '\n' ∉ cs) {rest t : List Char} {d : Char}
    (first : escapeText true 0 cs ++ closing '"' rest = d :: t) : d ≠ '\n' ∧ d ≠ '\r' := by
  cases cs with
  | nil =>
    obtain ⟨rfl, -⟩ := List.cons.inj first
    decide
  | cons c cs =>
    rcases escapeText_cons true 0 c cs with ⟨-, -, -, written⟩ | ⟨piece, spells, written⟩
    · rw [written] at first
      obtain ⟨rfl, -⟩ := List.cons.inj first
      decide
    · rw [written, List.append_assoc] at first
      exact spells.head_ne (fun line => lines (line ▸ List.mem_cons_self)) first

theorem readText_basic {cs : List Char} (single : ∀ t, cs ≠ '"' :: '"' :: t) :
    readText ('"' :: cs) = readText.finish (basicText cs) := by
  rw [readText]
  exact fun t => single t

theorem readText_literal {cs : List Char} (single : ∀ t, cs ≠ '\'' :: '\'' :: t) :
    readText ('\'' :: cs) = readText.finish (literalText cs) := by
  rw [readText]
  exact fun t => single t

theorem finish_toList (s : String) (rest : List Char) :
    readText.finish (some (s.toList, rest)) = some (s, rest) := by
  rw [readText.finish, Option.map_some]
  dsimp only
  rw [String.ofList_toList]

/-- **A text is read back from its quotes**, at the end of a line: any text, whichever quotes it
got. -/
theorem readText_renderText (s : String) (rest : List Char) :
    readText (renderText s ++ '\n' :: rest) = some (s, '\n' :: rest) := by
  have other (q : Char) (quote : q ≠ '\n') (t : List Char) : '\n' :: rest ≠ q :: t :=
    fun same => quote (List.cons.inj same).1.symm
  rw [renderText]
  split
  · have single (t : List Char) :
        escapeText false 0 s.toList ++ '"' :: '\n' :: rest ≠ '"' :: '"' :: t := by
      cases s.toList with
      | nil => exact fun same => other '"' (by decide) t (List.cons.inj same).2
      | cons c cs =>
        rcases escapeText_cons false 0 c cs with ⟨-, lines, -⟩ | ⟨piece, spells, written⟩
        · cases lines
        · rw [written, List.append_assoc]
          exact spells.ne_quote _ _
    simp only [List.append_assoc, List.cons_append, List.nil_append]
    rw [readText_basic single, basicText_escapeText, finish_toList]
  · rename_i kind
    have plain := quotesFor_literal kind
    have single (t : List Char) : s.toList ++ '\'' :: '\n' :: rest ≠ '\'' :: '\'' :: t := by
      cases shape : s.toList with
      | nil => exact fun same => other '\'' (by decide) t (List.cons.inj same).2
      | cons c cs =>
        rw [shape] at plain
        exact fun same => (plain c List.mem_cons_self).2 (List.cons.inj same).1
    simp only [List.append_assoc, List.cons_append, List.nil_append]
    rw [readText_literal single, literalText_append plain, finish_toList]
  · have start := dropNewline_openingLine s.toList
      (escapeText true 0 s.toList ++ closing '"' ('\n' :: rest))
      fun lines c t => head_escapeText lines
    have read := basicLines_escapeText (other '"' (by decide)) 0 s.toList
    simp only [closing] at start read
    simp only [List.append_assoc, List.cons_append, List.nil_append]
    rw [readText, start, read, finish_toList]
  · rename_i kind
    obtain ⟨allowed, few⟩ := quotesFor_literalLines kind
    have start := dropNewline_openingLine s.toList
      (s.toList ++ closing '\'' ('\n' :: rest)) fun lines c t first => by
        cases shape : s.toList with
        | nil =>
          rw [shape] at first
          obtain ⟨rfl, -⟩ := List.cons.inj first
          decide
        | cons d ds =>
          rw [shape] at first allowed lines
          obtain ⟨rfl, -⟩ := List.cons.inj first
          have notLine : d ≠ '\n' := fun line => lines (line ▸ List.mem_cons_self)
          exact ne_line_of_isPlain ((allowed d List.mem_cons_self).resolve_right notLine)
    have read := literalLines_append (other '\'' (by decide)) allowed few
    simp only [closing] at start read
    simp only [List.append_assoc, List.cons_append, List.nil_append]
    rw [readText, start, read, finish_toList]

/-- A text in quotes starts with a quote. -/
theorem renderText_head (s : String) :
    ∃ t, renderText s = '"' :: t ∨ renderText s = '\'' :: t := by
  rw [renderText]
  split
  · exact ⟨_, .inl rfl⟩
  · exact ⟨_, .inr rfl⟩
  · exact ⟨_, .inl rfl⟩
  · exact ⟨_, .inr rfl⟩

end AvatarVault.Toml
