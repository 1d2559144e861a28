import AvatarVault.Proofs.Sealed.Format
import AvatarVault.Sealed.Open
/-!
What the opening loop does.  `openRun` is the loop with a log of the segments that it hands to the
cipher (`openRun_result`), and the log is all that the cipher is asked (`asksInTurn_openRun`).
`Opening` says as a grammar which segments open to which message.  The loop accepts these
(`openRun_of_opening`) and nothing else (`opening_of_openAvatar`), and under the laws of the cipher
they are the segments that hold the message (`Sealing.opening`, `Opening.sealing`).
-/
namespace AvatarVault

/-! ## The loop with a log -/

/-- The segments that an opening hands to the cipher, in order, and how it ends. -/
structure OpenRun where
  tried : List Segment
  result : Except OpenFailure ByteArray

/-- The run, with a segment tried before it. -/
def OpenRun.after (s : Segment) (r : OpenRun) : OpenRun := { r with tried := s :: r.tried }

@[simp] theorem OpenRun.tried_after (s : Segment) (r : OpenRun) :
    (r.after s).tried = s :: r.tried := rfl

@[simp] theorem OpenRun.result_after (s : Segment) (r : OpenRun) :
    (r.after s).result = r.result := rfl

/-- The segment that the loop cuts out of a text. -/
def Segment.cut (iv : Bytes 24) (index : UInt64) (isFinal : Bool) (text : ByteArray)
    (start length : Nat) : Segment :=
  { nonce := segmentNonce iv index
    data := segmentData index isFinal
    text := text.extract start (start + length) }

/-- The message in a segment, where it authenticates. -/
def Segment.open? (cipher : Aead) (key : Bytes 32) (s : Segment) : Option ByteArray :=
  cipher.decrypt key s.nonce s.data s.text

/-- Opens the segments from byte `start` on, as `openFrom` does, and logs them. -/
def openRunFrom (cipher : Aead) (key : Bytes 32) (iv : Bytes 24) (text : ByteArray) (start : Nat)
    (index : UInt64) (opened : ByteArray) : OpenRun :=
  match _ : nextCut (text.size - start) with
  | none => { tried := [], result := .error (.truncated index) }
  | some (length, isFinal) =>
    if length < tagSize then { tried := [], result := .error (.noTag index length) }
    else
      let segment := Segment.cut iv index isFinal text start length
      match cipher.decrypt key segment.nonce segment.data segment.text with
      | none => { tried := [segment], result := .error (.unauthentic index) }
      | some message =>
        if _ : isFinal then { tried := [segment], result := .ok (opened ++ message) }
        else (openRunFrom cipher key iv text (start + length) (index + 1) (opened ++ message)).after
          segment
termination_by text.size - start
decreasing_by
  have := @nextCut_pos (text.size - start) length (by simp_all)
  omega

/-- Opens a sealed text, as `openAvatar` does, and logs the segments. -/
def openRun (cipher : Aead) (text : ByteArray) (key : ProfileKey) : OpenRun :=
  if h : text.size < headerSize + tagSize then
    { tried := [], result := .error (.tooShort text.size) }
  else openRunFrom cipher key.bytes (headerOf text h) text headerSize 0 ByteArray.empty

section Log

variable {cipher : Aead} {key : Bytes 32} {iv : Bytes 24} {text opened : ByteArray} {start : Nat}
  {index : UInt64}

theorem openRunFrom_of_cut {length : Nat} {isFinal : Bool}
    (cut : nextCut (text.size - start) = some (length, isFinal)) (tag : tagSize ≤ length) :
    openRunFrom cipher key iv text start index opened =
      match cipher.decrypt key (segmentNonce iv index) (segmentData index isFinal)
          (text.extract start (start + length)) with
      | none =>
        { tried := [Segment.cut iv index isFinal text start length]
          result := .error (.unauthentic index) }
      | some message =>
        if isFinal then
          { tried := [Segment.cut iv index isFinal text start length]
            result := .ok (opened ++ message) }
        else
          (openRunFrom cipher key iv text (start + length) (index + 1) (opened ++ message)).after
            (Segment.cut iv index isFinal text start length) := by
  rw [openRunFrom]
  split
  · rename_i h
    rw [cut] at h
    simp at h
  · rename_i l f h
    rw [cut] at h
    simp only [Option.some.injEq, Prod.mk.injEq] at h
    obtain ⟨rfl, rfl⟩ := h
    rw [if_neg (Nat.not_lt.mpr tag)]
    simp only [Segment.cut]
    split <;> simp_all

/-- Where it can cut nothing off, the loop ends without another segment. -/
theorem openRunFrom_of_none (none : nextCut (text.size - start) = none) :
    openRunFrom cipher key iv text start index opened
      = { tried := [], result := .error (.truncated index) } := by
  rw [openRunFrom]
  split
  · rfl
  · simp_all

/-- At a segment that has no room for a tag, the loop ends before it. -/
theorem openRunFrom_of_short {length : Nat} {isFinal : Bool}
    (cut : nextCut (text.size - start) = some (length, isFinal)) (short : length < tagSize) :
    openRunFrom cipher key iv text start index opened
      = { tried := [], result := .error (.noTag index length) } := by
  rw [openRunFrom]
  split
  · simp_all
  · simp_all

/-- At a segment that does not authenticate, the loop ends. -/
theorem openRunFrom_of_refusal {length : Nat} {isFinal : Bool}
    (cut : nextCut (text.size - start) = some (length, isFinal)) (tag : tagSize ≤ length)
    (refuses : (Segment.cut iv index isFinal text start length).open? cipher key = none) :
    openRunFrom cipher key iv text start index opened
      = { tried := [Segment.cut iv index isFinal text start length]
          result := .error (.unauthentic index) } := by
  rw [Segment.open?, Segment.cut] at refuses
  rw [openRunFrom_of_cut cut tag, refuses]

/-- A last segment that opens is the end of the message. -/
theorem openRunFrom_of_last {length : Nat} {message : ByteArray}
    (cut : nextCut (text.size - start) = some (length, true)) (tag : tagSize ≤ length)
    (opens : (Segment.cut iv index true text start length).open? cipher key = some message) :
    openRunFrom cipher key iv text start index opened
      = { tried := [Segment.cut iv index true text start length]
          result := .ok (opened ++ message) } := by
  rw [Segment.open?, Segment.cut] at opens
  rw [openRunFrom_of_cut cut tag, opens]
  rfl

/-- Behind any other segment that opens, the loop goes on. -/
theorem openRunFrom_of_more {length : Nat} {message : ByteArray}
    (cut : nextCut (text.size - start) = some (length, false)) (tag : tagSize ≤ length)
    (opens : (Segment.cut iv index false text start length).open? cipher key = some message) :
    openRunFrom cipher key iv text start index opened
      = (openRunFrom cipher key iv text (start + length) (index + 1) (opened ++ message)).after
          (Segment.cut iv index false text start length) := by
  rw [Segment.open?, Segment.cut] at opens
  rw [openRunFrom_of_cut cut tag, opens]
  rfl

theorem openRunFrom_result : (openRunFrom cipher key iv text start index opened).result
    = openFrom cipher key iv text start index opened := by
  fun_induction openFrom cipher key iv text start index opened with
  | case1 start index opened cut => rw [openRunFrom_of_none cut]
  | case2 start index opened length isFinal cut short => rw [openRunFrom_of_short cut short]
  | case3 start index opened length isFinal cut tag failed =>
    rw [openRunFrom_of_refusal cut (Nat.le_of_not_lt tag) failed]
  | case4 start index opened length tag message cut made =>
    rw [openRunFrom_of_last cut (Nat.le_of_not_lt tag) made]
  | case5 start index opened length isFinal cut tag message made more ih =>
    obtain rfl : isFinal = false := eq_false_of_ne_true more
    rw [openRunFrom_of_more cut (Nat.le_of_not_lt tag) made, OpenRun.result_after, ih]

theorem openRun_result {profile : ProfileKey} :
    (openRun cipher text profile).result = openAvatar cipher text profile := by
  unfold openRun openAvatar
  split
  · rfl
  · exact openRunFrom_result

/-- How the loop ends tells whether all segments that it tries authenticate. -/
theorem openRunFrom_authentic_iff :
    (∀ s ∈ (openRunFrom cipher key iv text start index opened).tried,
        (s.open? cipher key).isSome) ↔
      ∀ i, (openRunFrom cipher key iv text start index opened).result ≠ .error (.unauthentic i) := by
  fun_induction openRunFrom cipher key iv text start index opened with
  | case1 start index opened cut => simp
  | case2 start index opened length isFinal cut short => simp
  | case3 start index opened length isFinal cut tag segment failed =>
    simp [Segment.open?, failed]
  | case4 start index opened length tag message cut segment made =>
    simp [Segment.open?, made]
  | case5 start index opened length isFinal cut tag segment message made more ih =>
    have authentic : (segment.open? cipher key).isSome := Option.isSome_of_eq_some made
    simp only [OpenRun.tried_after, OpenRun.result_after, List.forall_mem_cons, authentic, true_and,
      ih]

section Other

variable {other : Aead}

/-- The loop goes by what the cipher says of the segments that it tries: with another cipher that
says the same of these it tries the same and ends alike. -/
theorem openRunFrom_congr
    (alike : ∀ s ∈ (openRunFrom cipher key iv text start index opened).tried,
      s.open? other key = s.open? cipher key) :
    openRunFrom other key iv text start index opened
      = openRunFrom cipher key iv text start index opened := by
  fun_induction openRunFrom cipher key iv text start index opened with
  | case1 start index opened cut => exact openRunFrom_of_none cut
  | case2 start index opened length isFinal cut short => exact openRunFrom_of_short cut short
  | case3 start index opened length isFinal cut tag segment failed =>
    have refused : segment.open? other key = none :=
      (alike segment (List.mem_singleton_self segment)).trans failed
    exact openRunFrom_of_refusal cut (Nat.le_of_not_lt tag) refused
  | case4 start index opened length tag message cut segment made =>
    have opens : segment.open? other key = some message :=
      (alike segment (List.mem_singleton_self segment)).trans made
    exact openRunFrom_of_last cut (Nat.le_of_not_lt tag) opens
  | case5 start index opened length isFinal cut tag segment message made more ih =>
    obtain rfl : isFinal = false := eq_false_of_ne_true more
    rw [OpenRun.tried_after, List.forall_mem_cons] at alike
    have opens : segment.open? other key = some message := alike.1.trans made
    rw [openRunFrom_of_more cut (Nat.le_of_not_lt tag) opens, ih alike.2]

/-- The loop ends at the first segment that the other cipher refuses, if it says the same of those
tried before. -/
theorem openRunFrom_refused {j : Nat} {s : Segment}
    (tried : (openRunFrom cipher key iv text start index opened).tried[j]? = some s)
    (before : ∀ t ∈ (openRunFrom cipher key iv text start index opened).tried.take j,
      t.open? other key = t.open? cipher key)
    (refuses : s.open? other key = none) :
    (openRunFrom other key iv text start index opened).result
      = .error (.unauthentic (index + j.toUInt64)) := by
  fun_induction openRunFrom cipher key iv text start index opened generalizing j with
  | case1 start index opened cut => simp at tried
  | case2 start index opened length isFinal cut short => simp at tried
  | case3 start index opened length isFinal cut tag segment =>
    obtain ⟨rfl, rfl⟩ : j = 0 ∧ segment = s := by simpa [List.getElem?_singleton] using tried
    rw [openRunFrom_of_refusal cut (Nat.le_of_not_lt tag) refuses, add_toUInt64_zero]
  | case4 start index opened length tag message cut segment =>
    obtain ⟨rfl, rfl⟩ : j = 0 ∧ segment = s := by simpa [List.getElem?_singleton] using tried
    rw [openRunFrom_of_refusal cut (Nat.le_of_not_lt tag) refuses, add_toUInt64_zero]
  | case5 start index opened length isFinal cut tag segment message made more =>
    rename_i ih
    obtain rfl : isFinal = false := eq_false_of_ne_true more
    cases j with
    | zero =>
      obtain rfl : segment = s := by simpa using tried
      rw [openRunFrom_of_refusal cut (Nat.le_of_not_lt tag) refuses, add_toUInt64_zero]
    | succ j =>
      rw [OpenRun.tried_after, List.getElem?_cons_succ] at tried
      rw [OpenRun.tried_after, List.take_succ_cons, List.forall_mem_cons] at before
      have opens : segment.open? other key = some message := before.1.trans made
      rw [openRunFrom_of_more cut (Nat.le_of_not_lt tag) opens, OpenRun.result_after,
        add_toUInt64_succ]
      exact ih tried before.2

end Other

end Log

/-- What opening a text asks of the cipher: one segment after the other, and nothing else. -/
structure AsksInTurn (cipher : Aead) (key : ProfileKey) (text : ByteArray)
    (segments : List Segment) : Prop where
  /-- A cipher that says the same of these segments opens the text alike. -/
  only : ∀ other : Aead,
    (∀ s ∈ segments, s.open? other key.bytes = s.open? cipher key.bytes) →
      openAvatar other text key = openAvatar cipher text key
  /-- A cipher that says the same of the first of them and refuses the next ends the opening
  there. -/
  each : ∀ (other : Aead) (j : Nat) (s : Segment), segments[j]? = some s →
    (∀ t ∈ segments.take j, t.open? other key.bytes = t.open? cipher key.bytes) →
      s.open? other key.bytes = none →
        openAvatar other text key = .error (.unauthentic j.toUInt64)

section Asked

variable {cipher : Aead} {key : ProfileKey} {text : ByteArray}

theorem openRun_of_short (short : text.size < headerSize + tagSize) :
    openRun cipher text key = { tried := [], result := .error (.tooShort text.size) } := by
  rw [openRun, dif_pos short]

theorem openRun_of_long (long : ¬ text.size < headerSize + tagSize) :
    openRun cipher text key
      = openRunFrom cipher key.bytes (headerOf text long) text headerSize 0 ByteArray.empty := by
  rw [openRun, dif_neg long]

/-- The segments that are tried are what opening a text asks of the cipher. -/
theorem asksInTurn_openRun (cipher : Aead) (key : ProfileKey) (text : ByteArray) :
    AsksInTurn cipher key text (openRun cipher text key).tried := by
  by_cases short : text.size < headerSize + tagSize
  · constructor
    · intro other alike
      rw [← openRun_result, ← openRun_result, openRun_of_short short, openRun_of_short short]
    · intro other j s tried before refuses
      simp [openRun_of_short short] at tried
  · rw [openRun_of_long short]
    constructor
    · intro other alike
      rw [← openRun_result, ← openRun_result, openRun_of_long short, openRun_of_long short,
        openRunFrom_congr alike]
    · intro other j s tried before refuses
      have ends := openRunFrom_refused tried before refuses
      rw [UInt64.zero_add] at ends
      rw [← openRun_result, openRun_of_long short, ends]

/-- Whether all segments that are tried authenticate can be told by how the opening ends. -/
theorem openRun_authentic_iff :
    (∀ s ∈ (openRun cipher text key).tried, (s.open? cipher key.bytes).isSome) ↔
      ∀ i, openAvatar cipher text key ≠ .error (.unauthentic i) := by
  rw [← openRun_result]
  by_cases short : text.size < headerSize + tagSize
  · simp [openRun_of_short short]
  · rw [openRun_of_long short]
    exact openRunFrom_authentic_iff

end Asked

/-! ## What opens -/

theorem nextCut_last {rest : Nat} (h : rest < fullSegment) : nextCut rest = some (rest, true) := by
  unfold nextCut
  rw [if_pos h]

theorem nextCut_full {rest : Nat} (h : fullSegment + tagSize ≤ rest) :
    nextCut rest = some (fullSegment, false) := by
  unfold nextCut
  rw [if_neg (by omega), if_pos h]

/-- The loop cuts off the rest as the last segment, or a full one, or it stops. -/
theorem nextCut_cases (rest : Nat) :
    (rest < fullSegment ∧ nextCut rest = some (rest, true)) ∨
      (fullSegment + tagSize ≤ rest ∧ nextCut rest = some (fullSegment, false)) ∨
      nextCut rest = none := by
  by_cases short : rest < fullSegment
  · exact Or.inl ⟨short, nextCut_last short⟩
  · by_cases long : fullSegment + tagSize ≤ rest
    · exact Or.inr (Or.inl ⟨long, nextCut_full long⟩)
    · refine Or.inr (Or.inr ?_)
      unfold nextCut
      rw [if_neg short, if_neg long]

theorem nextCut_eq_last {rest length : Nat} (cut : nextCut rest = some (length, true)) :
    length = rest ∧ rest < fullSegment := by
  rcases nextCut_cases rest with ⟨short, e⟩ | ⟨-, e⟩ | e
  · rw [cut] at e
    exact ⟨by simpa using e, short⟩
  · simp [cut] at e
  · simp [cut] at e

theorem nextCut_eq_full {rest length : Nat} (cut : nextCut rest = some (length, false)) :
    length = fullSegment ∧ fullSegment + tagSize ≤ rest := by
  rcases nextCut_cases rest with ⟨-, e⟩ | ⟨long, e⟩ | e
  · simp [cut] at e
  · rw [cut] at e
    exact ⟨by simpa using e, long⟩
  · simp [cut] at e

/-- The segments that open to a message, numbered from `i` on. -/
inductive Opening (cipher : Aead) (key : Bytes 32) (iv : Bytes 24) :
    Nat → List Segment → ByteArray → Prop where
  | last {i : Nat} {text message : ByteArray} (tag : tagSize ≤ text.size)
      (short : text.size < fullSegment)
      (opens : cipher.decrypt key (segmentNonce iv i.toUInt64) (segmentData i.toUInt64 true) text
        = some message) :
      Opening cipher key iv i [Segment.numbered iv i true text] message
  | full {i : Nat} {text head rest : ByteArray} {segments : List Segment}
      (size : text.size = fullSegment)
      (opens : cipher.decrypt key (segmentNonce iv i.toUInt64) (segmentData i.toUInt64 false) text
        = some head)
      (further : Opening cipher key iv (i + 1) segments rest) :
      Opening cipher key iv i (Segment.numbered iv i false text :: segments) (head ++ rest)

namespace Opening

variable {cipher : Aead} {key : Bytes 32} {iv : Bytes 24} {i : Nat} {message : ByteArray}
  {segments : List Segment}

theorem numbered (h : Opening cipher key iv i segments message) : Numbered iv i segments := by
  induction h with
  | last tag short opens => exact Numbered.last _ _
  | full size opens further ih => exact Numbered.next _ ih

/-- Each of the segments authenticates. -/
theorem authentic (h : Opening cipher key iv i segments message) {s : Segment}
    (hs : s ∈ segments) : (cipher.decrypt key s.nonce s.data s.text).isSome := by
  induction h with
  | last tag short opens =>
    rw [List.mem_singleton] at hs
    rw [hs]
    simp only [Segment.numbered, opens, Option.isSome_some]
  | full size opens further ih =>
    rcases List.mem_cons.mp hs with hs | hs
    · rw [hs]
      simp only [Segment.numbered, opens, Option.isSome_some]
    · exact ih hs

theorem tagSize_le_joined (h : Opening cipher key iv i segments message) :
    tagSize ≤ (joined segments).size := by
  cases h with
  | last tag short opens =>
    rw [joined_cons, ByteArray.size_append]
    exact Nat.le_trans tag (Nat.le_add_right _ _)
  | full size opens further =>
    rw [joined_cons, ByteArray.size_append]
    simp only [Segment.numbered, size, fullSegment, tagSize]
    omega

end Opening

section Loop

variable {cipher : Aead} {key : Bytes 32} {iv : Bytes 24} {text : ByteArray}

/-- What the loop cuts off where a last segment is left. -/
theorem cut_last {start : Nat} {piece : ByteArray}
    (rest : text.extract start text.size = piece) (le : start ≤ text.size)
    (short : piece.size < fullSegment) :
    nextCut (text.size - start) = some (piece.size, true) ∧
      text.extract start (start + piece.size) = piece := by
  have size : text.size - start = piece.size := by
    rw [← rest, ByteArray.size_extract, Nat.min_self]
  constructor
  · rw [size]
    exact nextCut_last short
  · rw [← size, Nat.add_sub_cancel' le, rest]

/-- What it cuts off where a full segment is left and enough behind it. -/
theorem cut_full {start : Nat} {piece more : ByteArray}
    (rest : text.extract start text.size = piece ++ more) (le : start ≤ text.size)
    (size : piece.size = fullSegment) (tag : tagSize ≤ more.size) :
    nextCut (text.size - start) = some (fullSegment, false) ∧
      text.extract start (start + fullSegment) = piece ∧
      text.extract (start + fullSegment) text.size = more ∧
      start + fullSegment ≤ text.size := by
  obtain ⟨front, back⟩ := extract_of_append rest le
  rw [size] at front back
  have room : fullSegment + tagSize ≤ text.size - start := by
    have := congrArg ByteArray.size rest
    rw [ByteArray.size_extract, ByteArray.size_append, Nat.min_self] at this
    omega
  exact ⟨nextCut_full room, front, back, by omega⟩

theorem cut_eq_numbered {i start length : Nat} {isFinal : Bool} {piece : ByteArray}
    (whole : text.extract start (start + length) = piece) :
    Segment.cut iv i.toUInt64 isFinal text start length = Segment.numbered iv i isFinal piece := by
  rw [Segment.cut, whole, Segment.numbered]

/-- Where the rest of a text is made of segments that open, the loop opens them all. -/
theorem openRunFrom_of_opening {i : Nat} {segments : List Segment} {message : ByteArray}
    (h : Opening cipher key iv i segments message) {start : Nat} (opened : ByteArray)
    (rest : text.extract start text.size = joined segments) (le : start ≤ text.size) :
    openRunFrom cipher key iv text start i.toUInt64 opened
      = { tried := segments, result := .ok (opened ++ message) } := by
  induction h generalizing start opened with
  | @last i seg message tag short opens =>
    simp only [joined_cons, joined_nil, ByteArray.append_empty, Segment.numbered] at rest
    obtain ⟨cut, whole⟩ := cut_last rest le short
    have same : Segment.cut iv i.toUInt64 true text start seg.size = Segment.numbered iv i true seg :=
      cut_eq_numbered whole
    rw [openRunFrom_of_last cut tag (by rwa [same]), same]
  | @full i seg head tail segments size opens further ih =>
    simp only [joined_cons, Segment.numbered] at rest
    obtain ⟨cut, front, back, inside⟩ := cut_full rest le size further.tagSize_le_joined
    have same : Segment.cut iv i.toUInt64 false text start fullSegment
        = Segment.numbered iv i false seg := cut_eq_numbered front
    have made : (Segment.cut iv i.toUInt64 false text start fullSegment).open? cipher key
        = some head := by rwa [same]
    have next := ih (opened ++ head) back inside
    rw [toUInt64_succ] at next
    rw [openRunFrom_of_more cut (by simp only [fullSegment]; omega) made, next, same, OpenRun.after,
      ByteArray.append_assoc]

/-- Where the last segment is spoiled, the loop opens all segments before it and ends there. -/
theorem openRunFrom_of_spoiled {i n : Nat} {segments : List Segment} {message spoiled : ByteArray}
    (h : Opening cipher key iv i segments message) (count : segments.length = n + 1)
    (tag : tagSize ≤ spoiled.size) (short : spoiled.size < fullSegment)
    (fails : (Segment.numbered iv (i + n) true spoiled).open? cipher key = none) {start : Nat}
    (opened : ByteArray) (rest : text.extract start text.size = joined segments.dropLast ++ spoiled)
    (le : start ≤ text.size) :
    (openRunFrom cipher key iv text start i.toUInt64 opened).result
      = .error (.unauthentic (i + n).toUInt64) := by
  induction h generalizing n start opened with
  | @last i seg message _ _ opens =>
    obtain rfl : n = 0 := by simpa using count
    rw [Nat.add_zero] at fails
    rw [List.dropLast_singleton, joined_nil, ByteArray.empty_append] at rest
    obtain ⟨cut, whole⟩ := cut_last rest le short
    have refused : (Segment.cut iv i.toUInt64 true text start spoiled.size).open? cipher key
        = none := by rwa [cut_eq_numbered whole]
    rw [openRunFrom_of_refusal cut tag refused, Nat.add_zero]
  | @full i seg head tail segments size opens further ih =>
    have more : segments.length ≠ 0 := mt List.length_eq_zero_iff.mp further.numbered.ne_nil
    rw [List.length_cons] at count
    obtain ⟨m, rfl⟩ : ∃ m, n = m + 1 := ⟨n - 1, by omega⟩
    rw [show i + (m + 1) = i + 1 + m by omega] at fails ⊢
    simp only [List.dropLast_cons_of_ne_nil further.numbered.ne_nil, joined_cons,
      ByteArray.append_assoc, Segment.numbered] at rest
    have room : tagSize ≤ (joined segments.dropLast ++ spoiled).size := by
      rw [ByteArray.size_append]
      omega
    obtain ⟨cut, front, back, inside⟩ := cut_full rest le size room
    have made : (Segment.cut iv i.toUInt64 false text start fullSegment).open? cipher key
        = some head := by rwa [cut_eq_numbered front]
    have next := ih (Nat.succ.inj count) fails (opened ++ head) back inside
    rw [toUInt64_succ] at next
    rw [openRunFrom_of_more cut (by simp only [fullSegment]; omega) made, OpenRun.result_after, next]

/-- Where the loop succeeds, the rest of the text is made of the segments it tried, and they open
to what it adds. -/
theorem opening_of_openRunFrom {i start : Nat} {opened plaintext : ByteArray}
    (le : start ≤ text.size)
    (h : (openRunFrom cipher key iv text start i.toUInt64 opened).result = .ok plaintext) :
    ∃ message, plaintext = opened ++ message ∧
      Opening cipher key iv i
        (openRunFrom cipher key iv text start i.toUInt64 opened).tried message ∧
      text.extract start text.size
        = joined (openRunFrom cipher key iv text start i.toUInt64 opened).tried := by
  generalize place : i.toUInt64 = index at h ⊢
  fun_induction openRunFrom cipher key iv text start index opened generalizing i with
  | case1 start index opened cut => cases h
  | case2 start index opened length isFinal cut short => cases h
  | case3 start index opened length isFinal cut tag segment => cases h
  | case4 start index opened length tag message cut segment =>
    rename_i made
    obtain ⟨rfl, short⟩ := nextCut_eq_last cut
    obtain rfl := place
    have whole : text.extract start (start + (text.size - start))
        = text.extract start text.size := by rw [Nat.add_sub_cancel' le]
    have size : (text.extract start text.size).size = text.size - start := by
      rw [ByteArray.size_extract, Nat.min_self]
    have same : segment = Segment.numbered iv i true (text.extract start text.size) :=
      cut_eq_numbered whole
    refine ⟨message, (Except.ok.inj h).symm, ?_, ?_⟩
    · rw [same] at made ⊢
      exact Opening.last (by rw [size]; exact Nat.le_of_not_lt tag) (by rw [size]; exact short) made
    · rw [same, joined_cons, joined_nil, ByteArray.append_empty, Segment.numbered]
  | case5 start index opened length isFinal cut tag segment message made more =>
    rename_i ih
    obtain rfl : isFinal = false := eq_false_of_ne_true more
    obtain ⟨rfl, long⟩ := nextCut_eq_full cut
    obtain rfl := place
    have size : (text.extract start (start + fullSegment)).size = fullSegment := by
      rw [ByteArray.size_extract]
      omega
    have same : segment
        = Segment.numbered iv i false (text.extract start (start + fullSegment)) :=
      cut_eq_numbered rfl
    rw [OpenRun.result_after] at h
    obtain ⟨rest, split, opening, left⟩ := ih (by omega) (toUInt64_succ i) h
    refine ⟨message ++ rest, by rw [split, ByteArray.append_assoc], ?_, ?_⟩
    · rw [OpenRun.tried_after, same]
      rw [same] at made
      exact Opening.full size made opening
    · rw [OpenRun.tried_after, joined_cons, ← left]
      exact ByteArray.extract_eq_extract_append_extract _ (by omega) (by omega)

end Loop

section Whole

variable {cipher : Aead} {key : ProfileKey} {message text : ByteArray}

/-- Behind a header the loop goes through the rest of the text. -/
theorem openRun_of_header (cipher : Aead) (key : ProfileKey) (iv : Bytes 24) {body : ByteArray}
    (room : tagSize ≤ body.size) :
    openRun cipher (iv.val ++ body) key
        = openRunFrom cipher key.bytes iv (iv.val ++ body) headerSize 0 ByteArray.empty ∧
      (iv.val ++ body).extract headerSize (iv.val ++ body).size = body ∧
      headerSize ≤ (iv.val ++ body).size := by
  have size : (iv.val ++ body).size = headerSize + body.size := by
    rw [ByteArray.size_append, iv.property]
    rfl
  have long : ¬ (iv.val ++ body).size < headerSize + tagSize := by omega
  have front : headerOf (iv.val ++ body) long = iv :=
    Subtype.ext (ByteArray.extract_append_eq_left iv.property.symm)
  refine ⟨?_, ByteArray.extract_append_eq_right iv.property.symm (ByteArray.size_append ..),
    by omega⟩
  rw [openRun_of_long long, front]

/-- A header and segments that open to a message open to it as a whole. -/
theorem openRun_of_opening {iv : Bytes 24} {segments : List Segment}
    (h : Opening cipher key.bytes iv 0 segments message) :
    openRun cipher (iv.val ++ joined segments) key
      = { tried := segments, result := .ok message } := by
  obtain ⟨run, rest, le⟩ := openRun_of_header cipher key iv h.tagSize_le_joined
  have opened := openRunFrom_of_opening h ByteArray.empty rest le
  rw [ByteArray.empty_append] at opened
  exact run.trans opened

/-- With the last segment spoiled nothing comes out, and that segment is told. -/
theorem openAvatar_of_spoiled {iv : Bytes 24} {segments : List Segment} {n : Nat}
    {spoiled : ByteArray} (h : Opening cipher key.bytes iv 0 segments message)
    (count : segments.length = n + 1) (tag : tagSize ≤ spoiled.size)
    (short : spoiled.size < fullSegment)
    (fails : (Segment.numbered iv n true spoiled).open? cipher key.bytes = none) :
    openAvatar cipher (iv.val ++ (joined segments.dropLast ++ spoiled)) key
      = .error (.unauthentic n.toUInt64) := by
  have room : tagSize ≤ (joined segments.dropLast ++ spoiled).size := by
    rw [ByteArray.size_append]
    omega
  obtain ⟨run, rest, le⟩ := openRun_of_header cipher key iv room
  rw [← openRun_result, run]
  rw [← Nat.zero_add n] at fails ⊢
  exact openRunFrom_of_spoiled h count tag short fails ByteArray.empty rest le

/-- Where a text opens, it is a header and the segments that were tried, which open to what comes
out. -/
theorem opening_of_openAvatar (h : openAvatar cipher text key = .ok message) :
    ∃ iv : Bytes 24, iv.val = text.extract 0 headerSize ∧
      Opening cipher key.bytes iv 0 (openRun cipher text key).tried message ∧
      text = iv.val ++ joined (openRun cipher text key).tried := by
  rw [← openRun_result] at h
  by_cases short : text.size < headerSize + tagSize
  · simp [openRun_of_short short] at h
  · rw [openRun_of_long short] at h ⊢
    obtain ⟨plain, split, opening, rest⟩ := opening_of_openRunFrom (i := 0) (by omega) h
    rw [ByteArray.empty_append] at split
    refine ⟨_, rfl, split ▸ opening, ?_⟩
    have whole : text.extract 0 text.size
        = text.extract 0 headerSize ++ text.extract headerSize text.size :=
      ByteArray.extract_eq_extract_append_extract _ (Nat.zero_le _) (by omega)
    rw [ByteArray.extract_zero_size, rest] at whole
    exact whole

end Whole

/-! ## Opening and sealing -/

section Laws

variable {cipher : Aead} {key : Bytes 32} {iv : Bytes 24} {i : Nat} {message : ByteArray}
  {segments : List Segment}

/-- The segments of a message open to it. -/
theorem Sealing.opening (seals : cipher.Seals segmentSize) (opens : cipher.Opens)
    (h : Sealing cipher key iv i message segments) : Opening cipher key iv i segments message := by
  induction h with
  | last short made =>
    have size := seals.size_encrypt _ _ _ _ _ made
    refine Opening.last ?_ ?_ (opens.decrypt_encrypt _ _ _ _ _ made)
    · omega
    · simp only [fullSegment]
      omega
  | full size made further ih =>
    refine Opening.full ?_ (opens.decrypt_encrypt _ _ _ _ _ made) ih
    rw [seals.size_encrypt _ _ _ _ _ made, size]
    rfl

/-- Segments that open to a message are the segments of the message. -/
theorem Opening.sealing (seals : cipher.Seals segmentSize) (binds : cipher.Binds)
    (h : Opening cipher key iv i segments message) : Sealing cipher key iv i message segments := by
  induction h with
  | last tag short opens =>
    have made := binds.encrypt_of_decrypt _ _ _ _ _ opens
    have size := seals.size_encrypt _ _ _ _ _ made
    refine Sealing.last ?_ made
    simp only [fullSegment] at short
    omega
  | full size opens further ih =>
    have made := binds.encrypt_of_decrypt _ _ _ _ _ opens
    have grown := seals.size_encrypt _ _ _ _ _ made
    refine Sealing.full ?_ made ih
    simp only [fullSegment] at size
    omega

end Laws

end AvatarVault
