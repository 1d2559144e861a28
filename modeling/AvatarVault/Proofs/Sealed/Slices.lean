import AvatarVault.Proofs.Sealed.Opening
/-!
The opening loop on slices.  The loop of `openFrom` works with places in one text; here it hands on
the rest of the text, every cut is checked, and the rounds are counted.  Both do the same in one
round more than there are full segments (`openSlices_eq`): the loop ends, and no slice is out of
range.
-/
namespace AvatarVault

/-- The two sides of a cut; `none` where the text does not reach so far. -/
def splitAt? (text : ByteArray) (length : Nat) : Option (ByteArray × ByteArray) :=
  if length ≤ text.size then some (text.extract 0 length, text.extract length text.size) else none

/-- Opens the segments of a text, one a round; `none` where the rounds do not do or a slice is out
of range. -/
def openSlicesFrom (cipher : Aead) (key : Bytes 32) (iv : Bytes 24) :
    (rounds : Nat) → (text : ByteArray) → UInt64 → ByteArray → Option (Except OpenFailure ByteArray)
  | 0, _, _, _ => none
  | rounds + 1, text, index, opened =>
    match nextCut text.size with
    | none => some (.error (.truncated index))
    | some (length, isFinal) => do
      let (segment, rest) ← splitAt? text length
      if segment.size < tagSize then some (.error (.noTag index segment.size))
      else
        match cipher.decrypt key (segmentNonce iv index) (segmentData index isFinal) segment with
        | none => some (.error (.unauthentic index))
        | some message =>
          if isFinal then some (.ok (opened ++ message))
          else openSlicesFrom cipher key iv rounds rest (index + 1) (opened ++ message)

/-- Opens a sealed text in at most so many rounds. -/
def openSlices (cipher : Aead) (text : ByteArray) (key : ProfileKey) (rounds : Nat) :
    Option (Except OpenFailure ByteArray) :=
  if text.size < headerSize + tagSize then some (.error (.tooShort text.size))
  else do
    let (header, rest) ← splitAt? text headerSize
    let iv ← Bytes.ofByteArray? 24 header
    openSlicesFrom cipher key.bytes iv rounds rest 0 ByteArray.empty

section Slices

variable {cipher : Aead} {key : Bytes 32} {iv : Bytes 24} {text opened : ByteArray} {start : Nat}
  {index : UInt64}

theorem nextCut_le {rest length : Nat} {isFinal : Bool}
    (h : nextCut rest = some (length, isFinal)) : length ≤ rest := by
  rcases nextCut_cases rest with ⟨-, cut⟩ | ⟨long, cut⟩ | cut
  all_goals rw [cut] at h
  · simp at h
    omega
  · simp at h
    omega
  · simp at h

/-- A segment with more behind it is a full one. -/
theorem nextCut_more {rest length : Nat} (h : nextCut rest = some (length, false)) :
    length = fullSegment := by
  rcases nextCut_cases rest with ⟨-, cut⟩ | ⟨-, cut⟩ | cut
  all_goals
    rw [cut] at h
    simp at h
  exact h.symm

theorem splitAt?_extract {length : Nat} (le : start ≤ text.size)
    (fits : length ≤ text.size - start) :
    splitAt? (text.extract start text.size) length
      = some (text.extract start (start + length), text.extract (start + length) text.size) := by
  have size : (text.extract start text.size).size = text.size - start := by
    rw [ByteArray.size_extract, Nat.min_self]
  rw [splitAt?, size, if_pos fits, ByteArray.extract_extract, ByteArray.extract_extract,
    Nat.min_eq_left (by omega), Nat.min_eq_right (by omega), Nat.add_zero]

/-- One round on the rest of a text: the slices are in range and are those of the loop. -/
theorem openSlicesFrom_of_cut {rounds length : Nat} {isFinal : Bool} (le : start ≤ text.size)
    (cut : nextCut (text.size - start) = some (length, isFinal)) :
    openSlicesFrom cipher key iv (rounds + 1) (text.extract start text.size) index opened =
      if length < tagSize then some (.error (.noTag index length))
      else
        match cipher.decrypt key (segmentNonce iv index) (segmentData index isFinal)
            (text.extract start (start + length)) with
        | none => some (.error (.unauthentic index))
        | some message =>
          if isFinal then some (.ok (opened ++ message))
          else openSlicesFrom cipher key iv rounds (text.extract (start + length) text.size)
            (index + 1) (opened ++ message) := by
  have fits := nextCut_le cut
  have size : (text.extract start text.size).size = text.size - start := by
    rw [ByteArray.size_extract, Nat.min_self]
  have piece : (text.extract start (start + length)).size = length := by
    rw [ByteArray.size_extract]
    omega
  rw [openSlicesFrom, size, cut]
  simp only [splitAt?_extract le fits, Option.bind_eq_bind, Option.bind_some, piece]

/-- The loop on slices does as the loop does, in one round more than there are full segments left:
no slice is out of range. -/
theorem openSlicesFrom_eq {rounds : Nat} (le : start ≤ text.size)
    (enough : (text.size - start) / fullSegment ≤ rounds) :
    openSlicesFrom cipher key iv (rounds + 1) (text.extract start text.size) index opened
      = some (openFrom cipher key iv text start index opened) := by
  fun_induction openFrom cipher key iv text start index opened generalizing rounds with
  | case1 start index opened cut =>
    rw [openSlicesFrom, ByteArray.size_extract, Nat.min_self, cut]
  | case2 start index opened length isFinal cut short =>
    rw [openSlicesFrom_of_cut le cut, if_pos short]
  | case3 start index opened length isFinal cut tag failed =>
    rw [openSlicesFrom_of_cut le cut, if_neg tag, failed]
  | case4 start index opened length tag message cut made =>
    rw [openSlicesFrom_of_cut le cut, if_neg tag, made]
    rfl
  | case5 start index opened length isFinal cut tag message made more ih =>
    have fits := nextCut_le cut
    obtain rfl : isFinal = false := by simpa using more
    obtain rfl := nextCut_more cut
    have left := Nat.div_eq_sub_div (by decide) fits
    rw [Nat.sub_sub] at left
    rw [left] at enough
    cases rounds with
    | zero => exact absurd enough (Nat.not_succ_le_zero _)
    | succ rounds =>
      rw [openSlicesFrom_of_cut le cut, if_neg tag, made]
      simp only [Bool.false_eq_true, if_false]
      exact ih (by omega) (Nat.le_of_succ_le_succ enough)

/-- A text is opened in one round more than it has full segments, and no slice is out of range. -/
theorem openSlices_eq (cipher : Aead) (text : ByteArray) (key : ProfileKey) :
    openSlices cipher text key ((text.size - headerSize) / fullSegment + 1)
      = some (openAvatar cipher text key) := by
  unfold openSlices openAvatar
  split
  · rfl
  · rename_i long
    have header : splitAt? text headerSize
        = some (text.extract 0 headerSize, text.extract headerSize text.size) := by
      rw [splitAt?, if_pos (by omega)]
    have iv : Bytes.ofByteArray? 24 (text.extract 0 headerSize) = some (headerOf text long) :=
      Bytes.ofByteArray?_eq_some_iff.mpr rfl
    simp only [header, iv, Option.bind_eq_bind, Option.bind_some]
    exact openSlicesFrom_eq (by omega) (Nat.le_refl _)

end Slices

end AvatarVault
