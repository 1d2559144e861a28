import Mathlib.Data.List.TakeWhile
import AvatarVault.File.Path
/-!
The parts of a path against those of the paths made from it: the one without its last part
(`isAbove_of_parent?`) and the one with another extension, which is a path beside it
(`beside_withExtension`) or, where it has that extension already, the path itself
(`withExtension_eq_self`).
-/
namespace AvatarVault.Path

/-! ## Splitting and joining -/

theorem splitParts_ne_nil (bytes : List UInt8) : splitParts bytes ≠ [] := by
  fun_cases splitParts bytes <;> simp_all

theorem slash_notMem_splitParts {bytes : List UInt8} {part : FileName}
    (mem : part ∈ splitParts bytes) : slash ∉ part := by
  induction bytes generalizing part with
  | nil => simp_all [splitParts]
  | cons c bytes ih =>
    rw [splitParts] at mem
    split at mem
    · rcases List.mem_cons.1 mem with rfl | later
      · exact List.not_mem_nil
      · exact ih later
    · rename_i other
      obtain ⟨first, more, split_eq⟩ := List.exists_cons_of_ne_nil (splitParts_ne_nil bytes)
      rw [split_eq] at mem ih
      rcases List.mem_cons.1 mem with rfl | later
      · have := ih (List.mem_cons_self ..)
        simp only [List.mem_cons, not_or]
        exact ⟨fun same => other same.symm, this⟩
      · exact ih (List.mem_cons_of_mem _ later)

theorem splitParts_append_slash {part : FileName} (h : slash ∉ part) (bytes : List UInt8) :
    splitParts (part ++ slash :: bytes) = part :: splitParts bytes := by
  induction part with
  | nil => simp [splitParts]
  | cons c part ih =>
    simp only [List.mem_cons, not_or] at h
    rw [List.cons_append, splitParts, if_neg (Ne.symm h.1), ih h.2]

theorem splitParts_of_notMem {part : FileName} (h : slash ∉ part) : splitParts part = [part] := by
  induction part with
  | nil => rfl
  | cons c part ih =>
    simp only [List.mem_cons, not_or] at h
    rw [splitParts, if_neg (Ne.symm h.1), ih h.2]

theorem joinParts_cons (part next : FileName) (more : List FileName) :
    joinParts (part :: next :: more) = part ++ slash :: joinParts (next :: more) := rfl

theorem splitParts_joinParts {parts : List FileName} (some_part : parts ≠ [])
    (h : ∀ part ∈ parts, slash ∉ part) : splitParts (joinParts parts) = parts := by
  fun_induction joinParts parts with
  | case1 => contradiction
  | case2 part => exact splitParts_of_notMem (h part (by simp))
  | case3 part more nonempty ih =>
    rw [splitParts_append_slash (h part (by simp)), ih nonempty fun q mem => h q (by simp [mem])]

theorem joinParts_splitParts (bytes : List UInt8) : joinParts (splitParts bytes) = bytes := by
  induction bytes with
  | nil => rfl
  | cons c bytes ih =>
    obtain ⟨part, more, split_eq⟩ := List.exists_cons_of_ne_nil (splitParts_ne_nil bytes)
    rw [splitParts]
    rw [split_eq] at ih ⊢
    split
    · rename_i same
      rw [joinParts_cons, ih, same, List.nil_append]
    · rw [← ih]
      cases more <;> rfl

theorem joinParts_append {front back : List FileName} (some_front : front ≠ [])
    (some_back : back ≠ []) :
    joinParts (front ++ back) = joinParts front ++ slash :: joinParts back := by
  induction front with
  | nil => contradiction
  | cons part front ih =>
    obtain ⟨next, more, rfl⟩ := List.exists_cons_of_ne_nil some_back
    cases front with
    | nil => rfl
    | cons other front =>
      rw [List.cons_append, List.cons_append, joinParts_cons, ← List.cons_append,
        ih (List.cons_ne_nil _ _), joinParts_cons, List.append_assoc, List.cons_append]

theorem parts_ne_nil (p : Path) : p.parts ≠ [] := splitParts_ne_nil _

/-- A path is written by its parts. -/
theorem ofParts_parts (p : Path) : ofParts p.isAbsolute p.parts = p := by
  rw [ofParts, parts, joinParts_splitParts]
  rcases p with ⟨bytes⟩
  cases bytes with
  | nil => rfl
  | cons c bytes =>
    by_cases absolute : c = slash
    · simp [isAbsolute, absolute]
    · simp [isAbsolute, absolute]

theorem slash_notMem_parts {p : Path} {part : FileName} (mem : part ∈ p.parts) : slash ∉ part :=
  slash_notMem_splitParts mem

/-- Only the empty path is relative and starts with an empty part. -/
theorem parts_of_relative {p : Path} (relative : p.isAbsolute = false) {more : List FileName}
    (h : p.parts = [] :: more) : more = [] := by
  rw [parts, relative, if_neg Bool.false_ne_true] at h
  cases bytes_eq : p.bytes with
  | nil =>
    rw [bytes_eq] at h
    exact (List.cons.inj h).2.symm
  | cons c bytes =>
    rw [isAbsolute, bytes_eq] at relative
    rw [bytes_eq, splitParts, if_neg (by simpa using relative)] at h
    split at h <;> simp at h

/-- What makes `ofParts` give back the parts: no part holds a slash, and a relative path does not
start with an empty one. -/
structure Writable (isAbsolute : Bool) (parts : List FileName) : Prop where
  nonempty : parts ≠ []
  noSlash : ∀ part ∈ parts, slash ∉ part
  first : isAbsolute = false → parts.head? ≠ some []

theorem Writable.isAbsolute_ofParts {isAbsolute : Bool} {parts : List FileName}
    (h : Writable isAbsolute parts) : (ofParts isAbsolute parts).isAbsolute = isAbsolute := by
  cases isAbsolute with
  | true => rfl
  | false =>
    obtain ⟨first, more, rfl⟩ := List.exists_cons_of_ne_nil h.nonempty
    have nonempty : first ≠ [] := fun e => h.first rfl (by simp [e])
    obtain ⟨c, part, rfl⟩ := List.exists_cons_of_ne_nil nonempty
    have other := h.noSlash _ (List.mem_cons_self ..)
    simp only [List.mem_cons, not_or] at other
    cases more <;> simp [Path.isAbsolute, ofParts, joinParts, Ne.symm other.1]

theorem Writable.parts_ofParts {isAbsolute : Bool} {parts : List FileName}
    (h : Writable isAbsolute parts) : (ofParts isAbsolute parts).parts = parts := by
  rw [Path.parts, h.isAbsolute_ofParts]
  cases isAbsolute <;> exact splitParts_joinParts h.nonempty h.noSlash

/-- Parts taken from a path can be written again, another name at the end. -/
theorem writable_of_parts {p : Path} {front back : List FileName} {part last : FileName}
    (h : p.parts = front ++ part :: back) (some_last : last ≠ []) (noSlash : slash ∉ last) :
    Writable p.isAbsolute (front ++ [last]) where
  nonempty := by simp
  noSlash q mem := by
    rcases List.mem_append.1 mem with early | late
    · exact slash_notMem_parts (by rw [h]; exact List.mem_append_left _ early)
    · rwa [List.mem_singleton.1 late]
  first relative := by
    cases front with
    | nil => simpa using some_last
    | cons first front =>
      rintro e
      obtain rfl : first = [] := by simpa using e
      have := parts_of_relative relative h
      simp at this

/-! ## Parts that count -/

theorem dropIdleEnd_append (parts : List FileName) :
    ∃ idle, parts = dropIdleEnd parts ++ idle ∧ ∀ part ∈ idle, isIdle part = true := by
  refine ⟨(parts.reverse.takeWhile isIdle).reverse, ?_, fun part mem => ?_⟩
  · rw [dropIdleEnd, ← List.reverse_append, List.takeWhile_append_dropWhile, List.reverse_reverse]
  · exact List.mem_takeWhile_imp (List.mem_reverse.1 mem)

theorem not_isIdle_of_dropIdleEnd {parts front : List FileName} {last : FileName}
    (h : dropIdleEnd parts = front ++ [last]) : isIdle last = false := by
  have reversed : parts.reverse.dropWhile isIdle = last :: front.reverse := by
    rw [dropIdleEnd] at h
    simpa using congrArg List.reverse h
  have := List.head_dropWhile_not isIdle (l := parts.reverse) (by rw [reversed]; simp)
  simpa [reversed] using this

/-- Idle parts stand behind the parts that are kept. -/
theorem trimParts_append (isAbsolute : Bool) (parts : List FileName) :
    ∃ idle, parts = trimParts isAbsolute parts ++ idle ∧ ∀ part ∈ idle, isIdle part = true := by
  cases parts with
  | nil => exact ⟨[], rfl, by simp⟩
  | cons first rest =>
    rw [trimParts]
    split
    · exact dropIdleEnd_append _
    · obtain ⟨idle, rest_eq, all⟩ := dropIdleEnd_append rest
      exact ⟨idle, by rw [List.cons_append, ← rest_eq], all⟩

/-- The last of at least two parts that are kept is not idle; a single one may be the dot at the
start of a relative path. -/
theorem last_of_trimParts {isAbsolute : Bool} {parts front : List FileName} {last : FileName}
    (h : trimParts isAbsolute parts = front ++ [last]) :
    isIdle last = false ∨ (front = [] ∧ last ≠ []) := by
  cases parts with
  | nil => simp [trimParts] at h
  | cons first rest =>
    rw [trimParts] at h
    split at h
    · exact .inl (not_isIdle_of_dropIdleEnd h)
    · rename_i kept
      cases front with
      | nil =>
        obtain ⟨rfl, -⟩ := List.cons.inj h
        exact .inr ⟨rfl, fun e => kept (by simp [e])⟩
      | cons part front => exact .inl (not_isIdle_of_dropIdleEnd (List.cons.inj h).2)

theorem ne_nil_of_trimParts {isAbsolute : Bool} {parts front : List FileName} {last : FileName}
    (h : trimParts isAbsolute parts = front ++ [last]) : last ≠ [] := by
  rcases last_of_trimParts h with counts | ⟨-, some_last⟩
  · rintro rfl
    simp [isIdle] at counts
  · exact some_last

theorem solidParts_append (p : Path) :
    ∃ idle, p.parts = p.solidParts ++ idle ∧ ∀ part ∈ idle, isIdle part = true :=
  trimParts_append _ _

/-! ## The path around a path -/

/-- Whether a path leads to a place on the way of another one: a part that counts follows. -/
structure LeadsTo (q p : Path) : Prop where
  isAbsolute : q.isAbsolute = p.isAbsolute
  parts : ∃ rest, p.parts = q.parts ++ rest ∧ ∃ part ∈ rest, isIdle part = false

theorem LeadsTo.trans {q r p : Path} (first : LeadsTo q r) (second : LeadsTo r p) :
    LeadsTo q p where
  isAbsolute := first.isAbsolute.trans second.isAbsolute
  parts := by
    obtain ⟨rest, r_parts, part, mem, counts⟩ := first.parts
    obtain ⟨more, p_parts, -⟩ := second.parts
    exact ⟨rest ++ more, by rw [p_parts, r_parts, List.append_assoc], part,
      List.mem_append_left _ mem, counts⟩

/-- What leads to a place on the way is where the path begins. -/
theorem LeadsTo.isPrefix {p q : Path} (h : LeadsTo q p) : q.bytes <+: p.bytes := by
  obtain ⟨rest, p_parts, part, mem, -⟩ := h.parts
  have written : p.bytes = q.bytes ++ slash :: joinParts rest := by
    rw [← ofParts_parts p, ← ofParts_parts q, p_parts, ← h.isAbsolute, ofParts, ofParts,
      joinParts_append q.parts_ne_nil (List.ne_nil_of_mem mem)]
    cases q.isAbsolute <;> simp
  exact ⟨_, written.symm⟩

/-- The bytes of a path end in those of its last part. -/
theorem getLast?_joinParts (front : List FileName) {last : FileName} (some_last : last ≠ []) :
    (joinParts (front ++ [last])).getLast? = last.getLast? := by
  induction front with
  | nil => rfl
  | cons part front ih =>
    obtain ⟨next, more, tail⟩ := List.exists_cons_of_ne_nil
      (List.append_ne_nil_of_right_ne_nil front (List.cons_ne_nil last []))
    rw [List.cons_append, tail, joinParts_cons, ← tail, List.getLast?_append, List.getLast?_cons,
      ih, List.getLast?_eq_some_getLast some_last]
    simp

theorem getLast?_ofParts (isAbsolute : Bool) (front : List FileName) {last : FileName}
    (some_last : last ≠ []) :
    (ofParts isAbsolute (front ++ [last])).bytes.getLast? = last.getLast? := by
  have joined := getLast?_joinParts front some_last
  cases isAbsolute with
  | false => exact joined
  | true =>
    rw [ofParts, if_pos rfl, List.getLast?_cons, joined,
      List.getLast?_eq_some_getLast some_last]
    rfl

/-- What `parent?` keeps stands before the last part, which then is not the only one and counts. -/
theorem parts_of_kept {p : Path} {before front : List FileName} {final last : FileName}
    (solid : p.solidParts = before ++ [final])
    (kept : trimParts p.isAbsolute before = front ++ [last]) :
    ∃ rest, p.parts = front ++ last :: rest ∧ final ∈ rest ∧ isIdle final = false := by
  obtain ⟨idle, p_parts, -⟩ := p.solidParts_append
  obtain ⟨between, before_eq, -⟩ := trimParts_append p.isAbsolute before
  rw [kept] at before_eq
  refine ⟨between ++ final :: idle, ?_, by simp, ?_⟩
  · rw [p_parts, solid, before_eq]
    simp
  · refine (last_of_trimParts solid).resolve_right fun single => ?_
    rw [single.1] at before_eq
    simp at before_eq

/-- A path above a path as `parent?` writes it: the empty path, the root, or a path that does not
end in a slash. -/
def IsAbove (q p : Path) : Prop :=
  q.bytes = [] ∨ q.bytes = [slash] ∨ (LeadsTo q p ∧ q.bytes.getLast? ≠ some slash)

/-- **The path without its last part is a path above.** -/
theorem isAbove_of_parent? {p q : Path} (h : p.parent? = some q) : IsAbove q p := by
  rw [parent?] at h
  split at h
  · cases h
  · rename_i nonempty
    cases h
    obtain ⟨before, final, solid⟩ :=
      (List.eq_nil_or_concat p.solidParts).resolve_left (by simpa using nonempty)
    rw [List.concat_eq_append] at solid
    rw [solid, List.dropLast_concat]
    rcases List.eq_nil_or_concat (trimParts p.isAbsolute before) with
      none_kept | ⟨front, last, kept⟩
    · rw [none_kept]
      cases p.isAbsolute <;> simp [IsAbove, ofParts, joinParts]
    · rw [List.concat_eq_append] at kept
      obtain ⟨rest, whole, later, counts⟩ := parts_of_kept solid kept
      have some_last := ne_nil_of_trimParts kept
      have noSlash : slash ∉ last := slash_notMem_parts (by rw [whole]; simp)
      have writable := writable_of_parts whole some_last noSlash
      rw [kept]
      refine .inr (.inr ⟨⟨writable.isAbsolute_ofParts, rest, ?_, final, later, counts⟩, ?_⟩)
      · rw [writable.parts_ofParts, whole, List.append_assoc, List.singleton_append]
      · rw [getLast?_ofParts _ _ some_last]
        exact fun ends => noSlash (List.mem_of_getLast? ends)

/-- Above a path above there are only paths above. -/
theorem IsAbove.parent? {p q r : Path} (way : IsAbove q p) (h : q.parent? = some r) :
    IsAbove r p := by
  rcases way with empty | root | ⟨leads, -⟩
  · obtain rfl : q = ⟨[]⟩ := congrArg Path.mk empty
    cases h
  · obtain rfl : q = ⟨[slash]⟩ := congrArg Path.mk root
    cases h
  · rcases isAbove_of_parent? h with empty | root | ⟨leads', last⟩
    · exact .inl empty
    · exact .inr (.inl root)
    · exact .inr (.inr ⟨leads'.trans leads, last⟩)

/-! ## The file name and its extension -/

/-- The bytes of a name after its last dot, if there is a dot and it is not the first byte. -/
def suffix? (name : FileName) : Option FileName :=
  let reversed := name.reverse
  match reversed.dropWhile (· != dot) with
  | [] => none
  | _ :: before => if before.isEmpty then none else some (reversed.takeWhile (· != dot)).reverse

/-- The extension of the name that a path ends in. -/
def extension? (p : Path) : Option FileName := p.fileName?.bind suffix?

theorem stem_of_suffix?_none {name : FileName} (h : suffix? name = none) : stem name = name := by
  simp only [suffix?, stem] at h ⊢
  generalize name.reverse.dropWhile (· != dot) = cut at h ⊢
  cases cut with
  | nil => rfl
  | cons c before =>
    dsimp only at h ⊢
    split at h
    · rename_i empty
      rw [if_pos empty]
    · cases h

theorem stem_append_suffix {name extension : FileName} (h : suffix? name = some extension) :
    stem name ++ dot :: extension = name ∧ stem name ≠ [] := by
  have joined := congrArg List.reverse
    (List.takeWhile_append_dropWhile (p := (· != dot)) (l := name.reverse))
  have stops := List.head?_dropWhile_not (· != dot) name.reverse
  simp only [suffix?, stem] at h ⊢
  generalize name.reverse.dropWhile (· != dot) = cut at h joined stops ⊢
  cases cut with
  | nil => cases h
  | cons c before =>
    obtain rfl : c = dot := by simpa using stops
    dsimp only at h ⊢
    split at h
    · cases h
    · rename_i some_before
      cases h
      rw [if_neg some_before]
      exact ⟨by simpa using joined, by simpa using some_before⟩

/-- A name is no other name with its last part replaced by the extension that it lacks. -/
theorem stem_append_ne {name extension : FileName} (h : suffix? name ≠ some extension) :
    stem name ++ dot :: extension ≠ name := by
  intro same
  cases found : suffix? name with
  | none =>
    have := congrArg List.length same
    rw [stem_of_suffix?_none found] at this
    simp at this
  | some other =>
    have := (stem_append_suffix found).1.trans same.symm
    obtain rfl : other = extension := by simpa using this
    exact h found

theorem slash_notMem_stem {name : FileName} (h : slash ∉ name) : slash ∉ stem name := by
  cases found : suffix? name with
  | none => rwa [stem_of_suffix?_none found]
  | some extension =>
    intro mem
    exact h ((stem_append_suffix found).1 ▸ List.mem_append_left _ mem)

/-- Whether a part names a file or directory of its own. -/
def IsName (part : FileName) : Prop := isIdle part = false ∧ part ≠ above

/-- Whether only a directory can be at the path: its last part is idle or leads up. -/
def OfDirectory (p : Path) : Prop :=
  ∃ front last, p.parts = front ++ [last] ∧ ¬ IsName last

theorem parts_of_not_ofDirectory {p : Path} (h : ¬ OfDirectory p) : p.parts = p.solidParts := by
  obtain ⟨idle, p_parts, all⟩ := p.solidParts_append
  rcases List.eq_nil_or_concat idle with rfl | ⟨before, last, rfl⟩
  · rwa [List.append_nil] at p_parts
  · refine absurd ⟨p.solidParts ++ before, last, by simp [p_parts], fun name => ?_⟩ h
    have idle := all last (by simp)
    rw [name.1] at idle
    cases idle

theorem ofDirectory_of_fileName?_none {p : Path} (h : p.fileName? = none) : OfDirectory p := by
  by_contra only
  obtain ⟨front, last, p_eq⟩ := (List.eq_nil_or_concat p.parts).resolve_left p.parts_ne_nil
  rw [List.concat_eq_append] at p_eq
  refine only ⟨front, last, p_eq, ?_⟩
  rw [fileName?, ← parts_of_not_ofDirectory only, p_eq] at h
  simpa [IsName] using h

/-- A file name stands before idle parts. -/
theorem parts_of_fileName? {p : Path} {name : FileName} (h : p.fileName? = some name) :
    ∃ idle, p.parts = p.solidParts.dropLast ++ name :: idle ∧
      (∀ part ∈ idle, isIdle part = true) ∧ IsName name := by
  obtain ⟨idle, p_parts, all⟩ := p.solidParts_append
  obtain ⟨last, isName⟩ := Option.filter_eq_some_iff.1 h
  obtain ⟨front, solid⟩ := List.getLast?_eq_some_iff.1 last
  refine ⟨idle, by rw [p_parts, solid]; simp, all, ?_⟩
  simpa [IsName] using isName

/-- Whether a path leads to another name in the directory of a path. -/
structure Beside (q p : Path) : Prop where
  isAbsolute : q.isAbsolute = p.isAbsolute
  parts : ∃ front name idle other, p.parts = front ++ name :: idle ∧
    (∀ part ∈ idle, isIdle part = true) ∧ q.parts = front ++ [other] ∧
    IsName name ∧ IsName other ∧ other ≠ name

/-- **A new extension makes a path of another file in the same directory**, or of a directory. -/
theorem beside_withExtension {p : Path} {extension : FileName} (noSlash : slash ∉ extension)
    (long : 2 ≤ extension.length) (h : p.extension? ≠ some extension) :
    Beside (p.withExtension extension) p ∨ OfDirectory (p.withExtension extension) := by
  rw [withExtension]
  cases found : p.fileName? with
  | none => exact .inr (ofDirectory_of_fileName?_none found)
  | some name =>
    obtain ⟨idle, p_parts, all, isName⟩ := parts_of_fileName? found
    have name_noSlash : slash ∉ name := slash_notMem_parts (by rw [p_parts]; simp)
    dsimp only
    split
    · rename_i up
      obtain ⟨front, p_eq⟩ : ∃ front, p.parts = front ++ [name] :=
        List.getLast?_eq_some_iff.1 (by simpa using (Bool.and_eq_true_iff.1 up).2)
      have writable : Writable p.isAbsolute (front ++ [above]) :=
        writable_of_parts p_eq (by decide) (by decide)
      rw [p_eq, List.dropLast_concat]
      exact .inr ⟨front, above, writable.parts_ofParts, fun name => name.2 rfl⟩
    · have different : suffix? name ≠ some extension := by rwa [extension?, found] at h
      have other_noSlash : slash ∉ stem name ++ dot :: extension := by
        simp only [List.mem_append, List.mem_cons, not_or]
        exact ⟨slash_notMem_stem name_noSlash, by decide, noSlash⟩
      have writable := writable_of_parts p_parts (by simp) other_noSlash
      have length : 3 ≤ (stem name ++ dot :: extension).length := by simp; omega
      have other : IsName (stem name ++ dot :: extension) := by
        refine ⟨Bool.eq_false_iff.2 fun idle => ?_, fun up => ?_⟩
        · rcases Bool.or_eq_true_iff.1 idle with empty | dotAlone
          · simp at empty
          · rw [beq_iff_eq.1 dotAlone] at length
            exact absurd length (by decide)
        · rw [up] at length
          exact absurd length (by decide)
      exact .inl ⟨writable.isAbsolute_ofParts, _, name, idle, _, p_parts, all,
        writable.parts_ofParts, isName, other, stem_append_ne different⟩

/-- **A path that has the new extension already stays as it is**, unless only a directory can be
there or the name is hidden behind two dots. -/
theorem withExtension_eq_self {p : Path} {extension : FileName} (only : ¬ OfDirectory p)
    (h : p.extension? = some extension) (plain : p.fileName? ≠ some (dot :: dot :: extension)) :
    p.withExtension extension = p := by
  obtain ⟨name, found, suffix⟩ := Option.bind_eq_some_iff.1 h
  obtain ⟨whole, -⟩ := stem_append_suffix suffix
  obtain ⟨front, solid⟩ := List.getLast?_eq_some_iff.1 (Option.filter_eq_some_iff.1 found).1
  have visible : (stem name == here) = false := by
    refine beq_eq_false_iff_ne.2 fun same => plain ?_
    rw [found, ← whole, same]
    rfl
  rw [withExtension, found]
  simp only [visible, Bool.false_and, Bool.false_eq_true, if_false]
  rw [whole, solid, List.dropLast_concat, ← solid, ← parts_of_not_ofDirectory only, ofParts_parts]

end AvatarVault.Path
