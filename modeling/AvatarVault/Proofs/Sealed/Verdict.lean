import AvatarVault.Proofs.Sealed.Layout
/-!
The ways in which opening any text at all can end.  How many segments there are to try depends on
the length alone (`segmentsDue`), and the bytes behind the last full segment (`overhang`) tell
whether one that is marked as the last can follow (`Reached.cases`).  `Verdict` lists the ways, and
from every segment that it comes to, the loop takes one of them (`openRunFrom_verdict`).
-/
namespace AvatarVault

/-! ## The segments of any text -/

/-- The number of full segments that the bytes behind the header have room for. -/
def fullSegments (text : ByteArray) : Nat := (text.size - headerSize) / fullSegment

/-- The number of bytes behind the last full segment. -/
def overhang (text : ByteArray) : Nat := (text.size - headerSize) % fullSegment

/-- The number of segments to try: the full ones and the last, and where that has no room for a
tag, neither it nor the full one before it. -/
def segmentsDue (text : ByteArray) : Nat :=
  if overhang text < tagSize then fullSegments text - 1 else fullSegments text + 1

/-- The bytes of segment `i`, as far as the text reaches. -/
def pieceAt (text : ByteArray) (i : Nat) : ByteArray :=
  text.extract (headerSize + fullSegment * i) (headerSize + fullSegment * (i + 1))

/-- Segment `i` of a text; it is the last where it is not full. -/
def Segment.ofText (iv : Bytes 24) (text : ByteArray) (i : Nat) : Segment :=
  Segment.numbered iv i (decide ((pieceAt text i).size < fullSegment)) (pieceAt text i)

section Lengths

variable {text : ByteArray} {i : Nat}

theorem overhang_lt (text : ByteArray) : overhang text < fullSegment := Nat.mod_lt _ (by decide)

/-- The bytes behind the header, counted in segments. -/
theorem size_eq_segments (room : headerSize ≤ text.size) :
    text.size = headerSize + fullSegment * fullSegments text + overhang text := by
  have := Nat.div_add_mod (text.size - headerSize) fullSegment
  simp only [fullSegments, overhang]
  omega

theorem size_pieceAt :
    (pieceAt text i).size = min fullSegment (text.size - (headerSize + fullSegment * i)) := by
  rw [pieceAt, ByteArray.size_extract, Nat.mul_add_one]
  omega

/-- What is left of the text at segment `i`. -/
theorem left_eq (room : headerSize ≤ text.size) (le : i ≤ fullSegments text) :
    text.size - (headerSize + fullSegment * i)
      = fullSegment * (fullSegments text - i) + overhang text := by
  have size := size_eq_segments room
  have parts : fullSegment * fullSegments text
      = fullSegment * i + fullSegment * (fullSegments text - i) := by
    rw [← Nat.mul_add, Nat.add_sub_cancel' le]
  omega

/-- Too little behind the last full segment: that one is not tried either. -/
theorem segmentsDue_of_short (room : headerSize + tagSize ≤ text.size)
    (short : overhang text < tagSize) : segmentsDue text + 1 = fullSegments text := by
  have size : text.size = headerSize + fullSegment * fullSegments text + overhang text :=
    size_eq_segments (by omega)
  have some_full : fullSegments text ≠ 0 := by
    intro none
    rw [none] at size
    omega
  rw [segmentsDue, if_pos short]
  omega

theorem segmentsDue_of_fits (fits : tagSize ≤ overhang text) :
    segmentsDue text = fullSegments text + 1 := by
  rw [segmentsDue, if_neg (Nat.not_lt.mpr fits)]

/-- The loop comes to segment `i`: it is due, or none is left and there are too few bytes for a last
one. -/
def Reached (text : ByteArray) (i : Nat) : Prop :=
  i < segmentsDue text ∨ (i = segmentsDue text ∧ overhang text < tagSize)

/-- Where the loop comes to a segment, it is a full one with more behind it, or the last one, or the
loop cannot go on. -/
theorem Reached.cases (room : headerSize + tagSize ≤ text.size) (h : Reached text i) :
    (i < segmentsDue text ∧ Reached text (i + 1) ∧
        fullSegment + tagSize ≤ text.size - (headerSize + fullSegment * i)) ∨
      (i + 1 = segmentsDue text ∧ tagSize ≤ overhang text ∧
        text.size - (headerSize + fullSegment * i) = overhang text) ∨
      (i = segmentsDue text ∧ overhang text < tagSize ∧
        text.size - (headerSize + fullSegment * i) = fullSegment + overhang text) := by
  have header : headerSize ≤ text.size := by omega
  rcases Nat.lt_or_ge (overhang text) tagSize with short | fits
  · have due := segmentsDue_of_short room short
    rcases h with lt | ⟨done, -⟩
    · obtain ⟨m, more⟩ : ∃ m, fullSegments text - i = m + 2 := ⟨fullSegments text - i - 2, by omega⟩
      have left := left_eq (i := i) header (by omega)
      rw [more] at left
      refine Or.inl ⟨lt, by unfold Reached; omega, ?_⟩
      simp only [fullSegment, segmentSize, tagSize] at *
      omega
    · have left := left_eq (i := i) header (by omega)
      rw [show fullSegments text - i = 1 by omega, Nat.mul_one] at left
      exact Or.inr (Or.inr ⟨done, short, left⟩)
  · have due := segmentsDue_of_fits fits
    have lt : i < segmentsDue text := by
      unfold Reached at h
      omega
    rcases Nat.lt_or_ge i (fullSegments text) with early | late
    · obtain ⟨m, more⟩ : ∃ m, fullSegments text - i = m + 1 := ⟨fullSegments text - i - 1, by omega⟩
      have left := left_eq (i := i) header (by omega)
      rw [more, Nat.mul_add_one] at left
      exact Or.inl ⟨lt, by unfold Reached; omega, by omega⟩
    · have left := left_eq (i := i) header (by omega)
      rw [show fullSegments text - i = 0 by omega, Nat.mul_zero, Nat.zero_add] at left
      exact Or.inr (Or.inl ⟨by omega, fits, left⟩)

end Lengths

/-! ## The ways in which the loop ends -/

section Loop

variable {cipher : Aead} {key : Bytes 32} {iv : Bytes 24} {text opened : ByteArray} {i : Nat}

/-- Segment `i` authenticates. -/
def OpensAt (cipher : Aead) (key : Bytes 32) (iv : Bytes 24) (text : ByteArray) (i : Nat) : Prop :=
  ((Segment.ofText iv text i).open? cipher key).isSome

/-- The segments from `i` up to `n`. -/
def segmentsFrom (iv : Bytes 24) (text : ByteArray) (i n : Nat) : List Segment :=
  (List.range' i (n - i)).map (Segment.ofText iv text)

theorem segmentsFrom_self : segmentsFrom iv text i i = [] := by
  rw [segmentsFrom, Nat.sub_self]
  rfl

theorem segmentsFrom_of_lt {n : Nat} (h : i < n) :
    segmentsFrom iv text i n = Segment.ofText iv text i :: segmentsFrom iv text (i + 1) n := by
  rw [segmentsFrom, show n - i = n - (i + 1) + 1 by omega, List.range'_succ, List.map_cons]
  rfl

/-- How the loop ends that has come to segment `i`: at the first segment that does not authenticate,
or after the segments that are due where too few bytes are left for a last one, or after the last
one. -/
inductive Verdict (cipher : Aead) (key : Bytes 32) (iv : Bytes 24) (text : ByteArray) (i : Nat)
    (opened : ByteArray) : OpenRun → Prop where
  | unauthentic (j : Nat) (le : i ≤ j) (due : j < segmentsDue text)
      (before : ∀ k, i ≤ k → k < j → OpensAt cipher key iv text k)
      (fails : ¬ OpensAt cipher key iv text j) :
      Verdict cipher key iv text i opened
        { tried := segmentsFrom iv text i (j + 1), result := .error (.unauthentic j.toUInt64) }
  | truncated (short : overhang text < tagSize)
      (all : ∀ k, i ≤ k → k < segmentsDue text → OpensAt cipher key iv text k) :
      Verdict cipher key iv text i opened
        { tried := segmentsFrom iv text i (segmentsDue text)
          result := .error (.truncated (segmentsDue text).toUInt64) }
  | whole (messages : List ByteArray) (fits : tagSize ≤ overhang text)
      (all : (segmentsFrom iv text i (segmentsDue text)).map (·.open? cipher key)
        = messages.map some) :
      Verdict cipher key iv text i opened
        { tried := segmentsFrom iv text i (segmentsDue text)
          result := .ok (opened ++ concatPieces messages) }

/-- A segment that opens comes before whatever the loop does after it. -/
theorem Verdict.after {message : ByteArray} {run : OpenRun} (due : i < segmentsDue text)
    (opens : (Segment.ofText iv text i).open? cipher key = some message)
    (h : Verdict cipher key iv text (i + 1) (opened ++ message) run) :
    Verdict cipher key iv text i opened (run.after (Segment.ofText iv text i)) := by
  have here : OpensAt cipher key iv text i := by rw [OpensAt, opens, Option.isSome_some]
  have from_here {k : Nat} (le : i ≤ k) (later : i + 1 ≤ k → OpensAt cipher key iv text k) :
      OpensAt cipher key iv text k := by
    rcases Nat.eq_or_lt_of_le le with rfl | lt
    · exact here
    · exact later lt
  cases h with
  | unauthentic j le due before fails =>
    rw [OpenRun.after, ← segmentsFrom_of_lt (by omega)]
    exact .unauthentic j (by omega) due
      (fun k le lt => from_here le fun later => before k later lt) fails
  | truncated short all =>
    rw [OpenRun.after, ← segmentsFrom_of_lt due]
    exact .truncated short fun k le lt => from_here le fun later => all k later lt
  | whole messages fits all =>
    rw [OpenRun.after, ← segmentsFrom_of_lt due, ByteArray.append_assoc, ← concatPieces_cons]
    refine .whole (message :: messages) fits ?_
    rw [segmentsFrom_of_lt due, List.map_cons, List.map_cons, opens, all]

/-- The segment that the loop cuts out is segment `i`. -/
theorem extract_size_pieceAt : text.extract (headerSize + fullSegment * i)
    (headerSize + fullSegment * i + (pieceAt text i).size) = pieceAt text i := by
  have stop : headerSize + fullSegment * (i + 1) = headerSize + fullSegment * i + fullSegment := by
    rw [Nat.mul_add_one, Nat.add_assoc]
  rw [size_pieceAt, pieceAt, stop]
  rcases Nat.le_total fullSegment (text.size - (headerSize + fullSegment * i)) with full | short
  · rw [Nat.min_eq_left full]
  · have rest : text.extract (headerSize + fullSegment * i)
          (headerSize + fullSegment * i + fullSegment)
        = text.extract (headerSize + fullSegment * i) text.size := extract_of_size_le (by omega)
    rw [Nat.min_eq_right short, rest, extract_of_size_le (by omega)]

/-- The loop cuts off a segment that is due, and it has room for its tag. -/
theorem nextCut_of_due (room : headerSize + tagSize ≤ text.size) (due : i < segmentsDue text) :
    tagSize ≤ (pieceAt text i).size ∧
      nextCut (text.size - (headerSize + fullSegment * i))
        = some ((pieceAt text i).size, decide ((pieceAt text i).size < fullSegment)) := by
  rw [size_pieceAt]
  rcases Reached.cases room (Or.inl due) with ⟨-, -, more⟩ | ⟨-, fits, left⟩ | ⟨done, -⟩
  · rw [Nat.min_eq_left (by omega), decide_eq_false (Nat.lt_irrefl _)]
    exact ⟨Nat.le_add_left _ _, nextCut_full more⟩
  · have small := overhang_lt text
    rw [left, Nat.min_eq_right (by omega), decide_eq_true small]
    exact ⟨fits, nextCut_last small⟩
  · omega

/-- One round of the loop at a segment that is due. -/
theorem openRunFrom_of_due (room : headerSize + tagSize ≤ text.size) (due : i < segmentsDue text) :
    openRunFrom cipher key iv text (headerSize + fullSegment * i) i.toUInt64 opened =
      match (Segment.ofText iv text i).open? cipher key with
      | none =>
        { tried := [Segment.ofText iv text i], result := .error (.unauthentic i.toUInt64) }
      | some message =>
        if (pieceAt text i).size < fullSegment then
          { tried := [Segment.ofText iv text i], result := .ok (opened ++ message) }
        else
          (openRunFrom cipher key iv text (headerSize + fullSegment * i + (pieceAt text i).size)
            (i.toUInt64 + 1) (opened ++ message)).after (Segment.ofText iv text i) := by
  obtain ⟨tag, cut⟩ := nextCut_of_due room due
  rw [openRunFrom_of_cut cut tag, Segment.cut, extract_size_pieceAt]
  simp only [decide_eq_true_eq]
  rfl

/-- From every segment that it comes to, the loop ends in one of the ways. -/
theorem openRunFrom_verdict (room : headerSize + tagSize ≤ text.size) (h : Reached text i) :
    Verdict cipher key iv text i opened
      (openRunFrom cipher key iv text (headerSize + fullSegment * i) i.toUInt64 opened) := by
  induction left : segmentsDue text - i generalizing i opened with
  | zero =>
    obtain ⟨done, short⟩ : i = segmentsDue text ∧ overhang text < tagSize := by
      unfold Reached at h
      omega
    have cut : nextCut (text.size - (headerSize + fullSegment * i)) = none := by
      rcases h.cases room with ⟨due, -⟩ | ⟨due, -⟩ | ⟨-, -, bytes⟩
      · omega
      · omega
      · rw [nextCut, if_neg (by omega), if_neg (by omega)]
    have ending : Verdict cipher key iv text i opened _ :=
      .truncated short fun k le lt => by omega
    rwa [← done, segmentsFrom_self, ← openRunFrom_of_none cut] at ending
  | succ n ih =>
    have due : i < segmentsDue text := by omega
    rw [openRunFrom_of_due room due]
    cases opens : (Segment.ofText iv text i).open? cipher key with
    | none =>
      have fails : ¬ OpensAt cipher key iv text i := by simp [OpensAt, opens]
      have ending : Verdict cipher key iv text i opened _ :=
        .unauthentic i (Nat.le_refl i) due (fun k le lt => by omega) fails
      rwa [segmentsFrom_of_lt (Nat.lt_succ_self i), segmentsFrom_self] at ending
    | some message =>
      rcases h.cases room with ⟨-, further, more⟩ | ⟨last, fits, bytes⟩ | ⟨done, -⟩
      · have full : (pieceAt text i).size = fullSegment := by
          rw [size_pieceAt]
          omega
        simp only [full, Nat.lt_irrefl, if_false]
        refine Verdict.after due opens ?_
        have next : Verdict cipher key iv text (i + 1) (opened ++ message) _ :=
          ih further (by omega)
        rwa [Nat.mul_add_one, ← Nat.add_assoc, toUInt64_succ] at next
      · have short : (pieceAt text i).size < fullSegment := by
          have small := overhang_lt text
          rw [size_pieceAt]
          omega
        simp only [short, if_true]
        have ending : Verdict cipher key iv text i opened _ :=
          .whole [message] fits (by
            rw [← last, segmentsFrom_of_lt (Nat.lt_succ_self i), segmentsFrom_self, List.map_cons,
              opens]
            rfl)
        rwa [← last, segmentsFrom_of_lt (Nat.lt_succ_self i), segmentsFrom_self, concatPieces_cons,
          concatPieces_nil, ByteArray.append_empty] at ending
      · omega

end Loop

end AvatarVault
