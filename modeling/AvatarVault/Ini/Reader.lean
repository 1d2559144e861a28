import AvatarVault.Ini.Document
import AvatarVault.Text.Blank
/-!
Reading files of named sections.  A heading stands in brackets; an entry is a key, an equals
sign or a colon, and a value up to the end of the line, of which the first pieces may be quoted.
A comment takes a line of its own.  A backslash changes what the sign after it means.  One fault
spoils the whole file.
-/
namespace AvatarVault.Ini

/-- What a letter after a backslash stands for; any other sign stands for itself. -/
def escapedSign : Char → Char
  | '0' => '\x00'
  | 'a' => '\x07'
  | 'b' => '\x08'
  | 't' => '\t'
  | 'r' => '\r'
  | 'n' => '\n'
  | c => c

/-- The value of a base-sixteen digit. -/
def hexDigit? (c : Char) : Option Nat :=
  if c.isDigit then some (c.toNat - '0'.toNat)
  else if 'a' ≤ c ∧ c ≤ 'f' then some (c.toNat - 'a'.toNat + 10)
  else if 'A' ≤ c ∧ c ≤ 'F' then some (c.toNat - 'A'.toNat + 10)
  else none

/-- The character whose number four signs write: base-sixteen digits, the first of which may be
a plus sign. -/
def numbered? (a b c d : Char) : Option Char := do
  let high ← if a = '+' then some 0 else hexDigit? a
  let n := ((high * 16 + (← hexDigit? b)) * 16 + (← hexDigit? c)) * 16 + (← hexDigit? d)
  if n < 0xd800 ∨ 0xdfff < n then some (Char.ofNat n) else none

/-- What was read, with a sign before it. -/
def withSign (sign : Char) : Option (List Char × List Char) → Option (List Char × List Char)
  | none => none
  | some (text, rest) => some (sign :: text, rest)

/-- The text before the first stop sign, and what follows from that sign on.  Without a stop sign
the text runs to the end of the file, if `mayEnd` lets it.  A backslash at the end of a line joins
it to the next one. -/
def textUntil (isStop : Char → Bool) (mayEnd : Bool) :
    List Char → Option (List Char × List Char)
  | [] => if mayEnd then some ([], []) else none
  | ['\\'] => none
  | '\\' :: '\n' :: rest => textUntil isStop mayEnd rest
  | '\\' :: 'x' :: a :: b :: c :: d :: rest =>
    match numbered? a b c d with
    | none => none
    | some sign => withSign sign (textUntil isStop mayEnd rest)
  | '\\' :: c :: rest =>
    if c = 'x' then none else withSign (escapedSign c) (textUntil isStop mayEnd rest)
  | c :: rest =>
    if isStop c then some ([], c :: rest) else withSign c (textUntil isStop mayEnd rest)

theorem withSign_eq_some {sign : Char} {read : Option (List Char × List Char)}
    {text rest : List Char} (h : withSign sign read = some (text, rest)) :
    ∃ later, read = some (later, rest) := by
  cases read with
  | none => simp [withSign] at h
  | some found =>
    simp only [withSign, Option.some.injEq, Prod.mk.injEq] at h
    exact ⟨found.1, by rw [← h.2]⟩

theorem length_textUntil {isStop : Char → Bool} {mayEnd : Bool} {cs text rest : List Char}
    (h : textUntil isStop mayEnd cs = some (text, rest)) : rest.length ≤ cs.length := by
  fun_induction textUntil isStop mayEnd cs generalizing text rest with
  | case1 => simp_all
  | case2 => simp at h
  | case3 => simp at h
  | case4 left ih =>
    have := ih h
    simp only [List.length_cons]
    omega
  | case5 => simp at h
  | case6 a b c d left sign _ ih =>
    obtain ⟨later, hl⟩ := withSign_eq_some h
    have := ih hl
    simp only [List.length_cons]
    omega
  | case7 => simp at h
  | case8 c left _ _ _ ih =>
    obtain ⟨later, hl⟩ := withSign_eq_some h
    have := ih hl
    simp only [List.length_cons]
    omega
  | case9 =>
    simp only [Option.some.injEq, Prod.mk.injEq] at h
    simp [← h.2]
  | case10 c left _ _ _ _ _ ih =>
    obtain ⟨later, hl⟩ := withSign_eq_some h
    have := ih hl
    simp only [List.length_cons]
    omega

/-- Whether the sign ends a line. -/
def endsLine (c : Char) : Bool := c == '\n' || c == '\r'

/-- A value and what follows it.  `isFirst` says that no quoted piece came before. -/
def readValue (isFirst : Bool) (cs : List Char) : Option (List Char × List Char) :=
  match cs with
  | [] => some ([], [])
  | c :: rest =>
    if c = '"' ∨ c = '\'' then
      match _h : textUntil (· == c) false rest with
      | none => none
      | some (piece, left) =>
        (readValue false left.tail).map fun (text, left) => (piece ++ text, left)
    else
      (textUntil endsLine true (c :: rest)).map fun (text, rest) =>
        (if isFirst then trimChars text else (text.reverse.dropWhile isBlank).reverse, rest)
termination_by cs.length
decreasing_by
  have := length_textUntil _h
  simp only [List.length_tail, List.length_cons]
  omega

theorem length_readValue {isFirst : Bool} {cs text rest : List Char}
    (h : readValue isFirst cs = some (text, rest)) : rest.length ≤ cs.length := by
  fun_induction readValue isFirst cs generalizing text rest with
  | case1 => simp_all
  | case2 => simp at h
  | case3 isFirst c cs hc piece more hp ih =>
    obtain ⟨⟨later, left⟩, hv, hr⟩ := Option.map_eq_some_iff.1 h
    cases hr
    have := ih hv
    have := length_textUntil hp
    simp only [List.length_tail, List.length_cons] at *
    omega
  | case4 isFirst c cs hc =>
    obtain ⟨⟨plain, left⟩, hv, hr⟩ := Option.map_eq_some_iff.1 h
    cases hr
    exact length_textUntil hv

/-- Whether the sign stands between a key and its value. -/
def isSeparator (c : Char) : Bool := c == '=' || c == ':'

/-- What follows a separator and the blanks after it on the same line. -/
def afterSeparator (cs : List Char) : List Char :=
  cs.tail.dropWhile fun c => isBlank c && !endsLine c

theorem length_afterSeparator (cs : List Char) : (afterSeparator cs).length ≤ cs.tail.length :=
  (List.dropWhile_suffix _).length_le

/-- What follows the first end of line. -/
def afterLine (cs : List Char) : List Char := (cs.dropWhile (· != '\n')).tail

theorem length_afterLine (cs : List Char) : (afterLine cs).length ≤ cs.length := by
  have := (List.dropWhile_suffix (l := cs) (· != '\n')).length_le
  simp only [afterLine, List.length_tail]
  omega

/-- Reads headings and entries.  `isLineStart` says that the next sign is the first of its line,
where alone a comment may start. -/
def readItems (isLineStart : Bool) (cs : List Char) : Option Document :=
  match cs with
  | [] => some []
  | c :: rest =>
    if isBlank c then readItems (c == '\n') rest
    else if c = ';' ∨ c = '#' then
      if isLineStart then readItems true (afterLine rest) else none
    else if c = '[' then
      match _h : textUntil (· == ']') false rest with
      | none => none
      | some (name, left) =>
        (readItems false left.tail).map (.heading (String.ofList (trimChars name)) :: ·)
    else
      match _h : textUntil isSeparator false (c :: rest) with
      | none => none
      | some (key, left) =>
        let key := trimChars key
        if key.isEmpty then none
        else match _hv : readValue true (afterSeparator left) with
          | none => none
          | some (value, left) =>
            (readItems false left).map (.entry (String.ofList key) (String.ofList value) :: ·)
termination_by cs.length
decreasing_by
  · simp
  · have := length_afterLine rest
    simp only [List.length_cons]
    omega
  · have := length_textUntil _h
    simp only [List.length_tail, List.length_cons]
    omega
  · have := length_textUntil _h
    have := Nat.le_trans (length_readValue _hv) (length_afterSeparator _)
    simp only [List.length_tail, List.length_cons] at *
    omega

/-- The headings and entries of a text. -/
def Document.read? (s : String) : Option Document := readItems true s.toList

end AvatarVault.Ini
