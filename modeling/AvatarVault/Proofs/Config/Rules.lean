import Mathlib.Data.List.TakeWhile
import AvatarVault.Config.Load
/-!
The rules on settings without the order in which they are checked.  `fault?_eq_some_iff` says which
rule is reported, `fault?_eq_none_iff` what is asked of settings that break none, and `Trimmed` what
becomes of the base address before that: it loses the slashes at its end and nothing else
(`trimmed_iff`).
-/
namespace AvatarVault.Config

variable {c c₀ c₁ : Config} {f : ConfigFault}

/-! ## Broken rules -/

/-- What the rules ask of settings. -/
structure Valid (c : Config) : Prop where
  attempts : 1 ≤ c.upload.maxAttempts.toNat ∧ c.upload.maxAttempts.toNat ≤ 4
  backoffs : c.upload.initialBackoffMs.toNat ≤ c.upload.maxBackoffMs.toNat
  baseUrl : ∃ ch ∈ c.server.baseUrl.toList, isBlank ch = false

/-- The first rule that settings break: the number of attempts comes before the waits, and these
before the base address. -/
inductive FirstBroken (c : Config) : ConfigFault → Prop where
  | noAttempts (none : c.upload.maxAttempts.toNat = 0) : FirstBroken c .noAttempts
  | tooManyAttempts (many : 4 < c.upload.maxAttempts.toNat) :
    FirstBroken c (.tooManyAttempts c.upload.maxAttempts)
  | backoffOrder (attempts : 1 ≤ c.upload.maxAttempts.toNat ∧ c.upload.maxAttempts.toNat ≤ 4)
    (order : c.upload.maxBackoffMs.toNat < c.upload.initialBackoffMs.toNat) :
    FirstBroken c (.backoffOrder c.upload.initialBackoffMs c.upload.maxBackoffMs)
  | blankBaseUrl (attempts : 1 ≤ c.upload.maxAttempts.toNat ∧ c.upload.maxAttempts.toNat ≤ 4)
    (backoffs : c.upload.initialBackoffMs.toNat ≤ c.upload.maxBackoffMs.toNat)
    (blank : ∀ ch ∈ c.server.baseUrl.toList, isBlank ch = true) :
    FirstBroken c .blankBaseUrl

theorem isBlankText_eq_false {s : String} :
    isBlankText s = false ↔ ∃ ch ∈ s.toList, isBlank ch = false := by
  simp [isBlankText]

/-- Settings obey the rules, or break one of them first. -/
theorem fault?_cases (c : Config) :
    (c.fault? = none ∧ c.Valid) ∨ ∃ f, c.fault? = some f ∧ FirstBroken c f := by
  unfold fault?
  by_cases none : c.upload.maxAttempts = 0
  · rw [if_pos none]
    exact .inr ⟨_, rfl, .noAttempts (by rw [none]; rfl)⟩
  rw [if_neg none]
  by_cases many : attemptLimit < c.upload.maxAttempts
  · rw [if_pos many]
    exact .inr ⟨_, rfl, .tooManyAttempts (UInt32.lt_iff_toNat_lt.mp many)⟩
  rw [if_neg many]
  have attempts : 1 ≤ c.upload.maxAttempts.toNat ∧ c.upload.maxAttempts.toNat ≤ 4 :=
    ⟨Nat.pos_of_ne_zero fun zero => none (UInt32.toNat_inj.mp zero),
      Nat.le_of_not_lt fun more => many (UInt32.lt_iff_toNat_lt.mpr more)⟩
  by_cases order : c.upload.maxBackoffMs < c.upload.initialBackoffMs
  · rw [if_pos order]
    exact .inr ⟨_, rfl, .backoffOrder attempts (UInt64.lt_iff_toNat_lt.mp order)⟩
  rw [if_neg order]
  have backoffs : c.upload.initialBackoffMs.toNat ≤ c.upload.maxBackoffMs.toNat :=
    Nat.le_of_not_lt fun less => order (UInt64.lt_iff_toNat_lt.mpr less)
  cases blank : isBlankText c.server.baseUrl with
  | true => exact .inr ⟨_, rfl, .blankBaseUrl attempts backoffs (List.all_eq_true.mp blank)⟩
  | false => exact .inl ⟨rfl, attempts, backoffs, isBlankText_eq_false.mp blank⟩

/-- Valid settings break no rule. -/
theorem FirstBroken.not_valid (broken : FirstBroken c f) : ¬ c.Valid := by
  intro valid
  have attempts := valid.attempts
  have backoffs := valid.backoffs
  cases broken with
  | noAttempts none => omega
  | tooManyAttempts many => omega
  | backoffOrder _ order => omega
  | blankBaseUrl _ _ blank =>
    obtain ⟨ch, mem, solid⟩ := valid.baseUrl
    rw [blank ch mem] at solid
    cases solid

/-- No two rules are the first broken one. -/
theorem FirstBroken.unique {f' : ConfigFault} (h : FirstBroken c f) (h' : FirstBroken c f') :
    f = f' := by
  cases h <;> cases h' <;> first | rfl | omega

theorem fault?_eq_none_iff : c.fault? = none ↔ c.Valid := by
  rcases fault?_cases c with ⟨none, valid⟩ | ⟨f, some, broken⟩
  · simp only [none, valid]
  · simp only [some, broken.not_valid, reduceCtorEq]

theorem fault?_eq_some_iff : c.fault? = some f ↔ FirstBroken c f := by
  constructor
  · intro some
    rcases fault?_cases c with ⟨none, -⟩ | ⟨f', some', broken⟩
    · cases some.symm.trans none
    · rw [Option.some.inj (some.symm.trans some')]
      exact broken
  · intro broken
    rcases fault?_cases c with ⟨-, valid⟩ | ⟨f', some, broken'⟩
    · exact absurd valid broken.not_valid
    · rw [some, broken.unique broken']

/-! ## The base address -/

/-- The first settings are the second ones with slashes at the end of the base address, which has
none there in the second ones. -/
structure Trimmed (c₀ c₁ : Config) : Prop where
  slashes : ∃ n, c₀.server.baseUrl.toList
    = c₁.server.baseUrl.toList ++ List.replicate n '/'
  bare : c₁.server.baseUrl.toList.getLast? ≠ some '/'
  others : c₁ = { c₀ with server := c₁.server }

/-- What is left of a text without the slashes at its end. -/
theorem toList_dropTrailingSlashes (s : String) :
    (∃ n, s.toList = (dropTrailingSlashes s).toList ++ List.replicate n '/') ∧
      (dropTrailingSlashes s).toList.getLast? ≠ some '/' := by
  rw [dropTrailingSlashes, String.toList_ofList]
  constructor
  · have slashes : ∀ ch ∈ s.toList.reverse.takeWhile (· == '/'), ch = '/' := by
      intro ch mem
      have slash : (ch == '/') = true := List.mem_takeWhile_imp (p := (· == '/')) mem
      exact beq_iff_eq.mp slash
    refine ⟨(s.toList.reverse.takeWhile (· == '/')).length, ?_⟩
    rw [← List.reverse_replicate, ← List.eq_replicate_of_mem slashes, ← List.reverse_append,
      List.takeWhile_append_dropWhile, List.reverse_reverse]
  · rw [List.getLast?_reverse]
    intro last
    have first := List.head?_dropWhile_not (· == '/') s.toList.reverse
    rw [last] at first
    cases first

/-- A text is without slashes at its end in one way only. -/
theorem eq_of_append_slashes {l l' : List Char} {m n : Nat} (bare : l.getLast? ≠ some '/')
    (bare' : l'.getLast? ≠ some '/')
    (same : l ++ List.replicate m '/' = l' ++ List.replicate n '/') : l = l' := by
  induction m generalizing n with
  | zero =>
    rw [List.replicate_zero, List.append_nil] at same
    cases n with
    | zero => rwa [List.replicate_zero, List.append_nil] at same
    | succ n =>
      rw [same, List.replicate_succ', ← List.append_assoc, List.getLast?_concat] at bare
      exact absurd rfl bare
  | succ m ih =>
    rw [List.replicate_succ', ← List.append_assoc] at same
    cases n with
    | zero =>
      rw [List.replicate_zero, List.append_nil] at same
      rw [← same, List.getLast?_concat] at bare'
      exact absurd rfl bare'
    | succ n =>
      rw [List.replicate_succ', ← List.append_assoc] at same
      exact ih (List.append_inj_left' same rfl)

theorem trimmed_iff : Trimmed c₀ c₁ ↔ c₁ = c₀.normalize := by
  obtain ⟨slashes, bare⟩ := toList_dropTrailingSlashes c₀.server.baseUrl
  constructor
  · intro trimmed
    obtain ⟨m, whole⟩ := slashes
    obtain ⟨n, whole'⟩ := trimmed.slashes
    have url : c₁.server.baseUrl = dropTrailingSlashes c₀.server.baseUrl :=
      String.toList_inj.mp (eq_of_append_slashes trimmed.bare bare (whole'.symm.trans whole))
    have server : c₁.server = c₀.normalize.server := congrArg ServerSettings.mk url
    refine trimmed.others.trans ?_
    rw [server]
    rfl
  · rintro rfl
    exact ⟨slashes, bare, rfl⟩

/-- Settings whose base address ends in no slash are normalized. -/
theorem normalize_eq_self (bare : c.server.baseUrl.toList.getLast? ≠ some '/') :
    c.normalize = c := by
  have trimmed : Trimmed c c := ⟨⟨0, (List.append_nil _).symm⟩, bare, rfl⟩
  exact (trimmed_iff.mp trimmed).symm

/-- What settings are once they are normalized and checked. -/
structure Sound (c : Config) : Prop extends Valid c where
  bare : c.server.baseUrl.toList.getLast? ≠ some '/'
  fixed : c.normalize = c
  passes : c.checked = .ok c

theorem checked_eq_ok_iff : c.checked = .ok c₁ ↔ c = c₁ ∧ c.Valid := by
  unfold checked
  rcases fault?_cases c with ⟨none, valid⟩ | ⟨f, some, broken⟩
  · simp [none, valid]
  · simp [some, broken.not_valid]

theorem checked_eq_error_iff {e : ConfigError} :
    c.checked = .error e ↔ ∃ f, FirstBroken c f ∧ e = .invalid f := by
  unfold checked
  constructor
  · intro h
    cases found : c.fault? with
    | none => simp [found] at h
    | some f =>
      rw [found] at h
      exact ⟨f, fault?_eq_some_iff.mp found, (Except.error.inj h).symm⟩
  · rintro ⟨f, broken, rfl⟩
    rw [fault?_eq_some_iff.mpr broken]

/-- Valid settings whose base address ends in no slash are sound. -/
theorem Valid.sound (valid : c.Valid) (bare : c.server.baseUrl.toList.getLast? ≠ some '/') :
    c.Sound :=
  { valid with
    bare
    fixed := normalize_eq_self bare
    passes := checked_eq_ok_iff.mpr ⟨rfl, valid⟩ }

end AvatarVault.Config
