import AvatarVault.Proofs.Sealed.Stream
/-!
A sealing stream under any calls in any order.  `PieceMachine` is what a caller may take the stream
for: the pieces of the sealed avatar, a position among them and whether the stream is closed.
`Stream.Follows` ties a stream to a machine after the same calls; one call keeps it and both answer
alike (`follows_call`), and so does a run (`follows_calls`).  The counters of the stream are part of
it, as exact numbers: none of them ever wraps.
-/
namespace AvatarVault

/-! ## Calls and answers -/

/-- A call of a stream. -/
inductive StreamCall where
  /-- Asks for the next piece. -/
  | produce
  /-- Closes the stream. -/
  | finish
  deriving DecidableEq, Repr

/-- The answer to a call. -/
inductive StreamReply where
  | piece (result : Except SealFailure (Option ByteArray))
  | closing (result : Except SealFailure (UInt64 × Digest))

/-- The piece that an answer hands over. -/
def StreamReply.piece? : StreamReply → Option ByteArray
  | .piece (.ok given) => given
  | _ => none

/-- The failure that an answer reports. -/
def StreamReply.failure? : StreamReply → Option SealFailure
  | .piece (.error e) => some e
  | .closing (.error e) => some e
  | _ => none

namespace Stream

/-- One call of a stream. -/
def call (cipher : Aead) (s : Stream) : StreamCall → StreamReply × Stream
  | .produce => (.piece (s.produce cipher).1, (s.produce cipher).2)
  | .finish => (.closing s.finish.1, s.finish.2)

/-- Calls of a stream, one after another. -/
def calls (cipher : Aead) : Stream → List StreamCall → List StreamReply × Stream
  | s, [] => ([], s)
  | s, c :: rest =>
    let (reply, t) := s.call cipher c
    let (replies, u) := t.calls cipher rest
    (reply :: replies, u)

end Stream

/-! ## The machine -/

/-- Pieces handed out one by one. -/
structure PieceMachine where
  pieces : List ByteArray
  /-- The number of pieces handed out. -/
  position : Nat := 0
  isClosed : Bool := false

namespace PieceMachine

/-- The next piece while any is left, then nothing. -/
def produce (m : PieceMachine) : Except SealFailure (Option ByteArray) × PieceMachine :=
  if m.isClosed then (.error .closed, m)
  else match m.pieces[m.position]? with
    | some piece => (.ok (some piece), { m with position := m.position + 1 })
    | none => (.ok none, m)

/-- Closes the machine, once all pieces are out: their length and their digest. -/
def finish (m : PieceMachine) : Except SealFailure (UInt64 × Digest) × PieceMachine :=
  if m.isClosed then (.error .closedTwice, m)
  else if m.position < m.pieces.length then (.error .unfinished, m)
  else
    (.ok ((concatPieces m.pieces).size.toUInt64, Digest.of (concatPieces m.pieces)),
      { m with isClosed := true })

/-- One call of a machine. -/
def call (m : PieceMachine) : StreamCall → StreamReply × PieceMachine
  | .produce => (.piece m.produce.1, m.produce.2)
  | .finish => (.closing m.finish.1, m.finish.2)

/-- Calls of a machine, one after another. -/
def calls : PieceMachine → List StreamCall → List StreamReply × PieceMachine
  | m, [] => ([], m)
  | m, c :: rest =>
    let (reply, n) := m.call c
    let (replies, o) := n.calls rest
    (reply :: replies, o)

variable {m : PieceMachine}

theorem produce_of_piece {piece : ByteArray} (isOpen : m.isClosed = false)
    (h : m.pieces[m.position]? = some piece) :
    m.produce = (.ok (some piece), { m with position := m.position + 1 }) := by
  simp only [produce, isOpen, h, Bool.false_eq_true, if_false]

theorem produce_at_end (isOpen : m.isClosed = false) (h : m.position = m.pieces.length) :
    m.produce = (.ok none, m) := by
  simp only [produce, isOpen, h, List.getElem?_eq_none (Nat.le_refl _), Bool.false_eq_true,
    if_false]

theorem produce_closed (isClosed : m.isClosed = true) : m.produce = (.error .closed, m) := by
  simp only [produce, isClosed, if_true]

theorem finish_before_end (isOpen : m.isClosed = false) (h : m.position < m.pieces.length) :
    m.finish = (.error .unfinished, m) := by
  simp only [finish, isOpen, h, Bool.false_eq_true, if_false, if_true]

theorem finish_at_end (isOpen : m.isClosed = false) (h : m.position = m.pieces.length) :
    m.finish
      = (.ok ((concatPieces m.pieces).size.toUInt64, Digest.of (concatPieces m.pieces)),
        { m with isClosed := true }) := by
  simp only [finish, isOpen, h, Nat.lt_irrefl, Bool.false_eq_true, if_false]

theorem finish_closed (isClosed : m.isClosed = true) : m.finish = (.error .closedTwice, m) := by
  simp only [finish, isClosed, if_true]

/-- A call hands over the pieces that it moves past. -/
theorem take_call (m : PieceMachine) (c : StreamCall) :
    (m.call c).2.pieces = m.pieces ∧
      (m.call c).2.pieces.take (m.call c).2.position
        = m.pieces.take m.position ++ (m.call c).1.piece?.toList := by
  cases c with
  | produce =>
    simp only [call, produce]
    split
    · simp [StreamReply.piece?]
    · split
      · rename_i piece h
        simp [StreamReply.piece?, List.take_add_one, h]
      · simp [StreamReply.piece?]
  | finish =>
    simp only [call, finish]
    split
    · simp [StreamReply.piece?]
    · split <;> simp [StreamReply.piece?]

/-- A run hands over the pieces up to its position. -/
theorem take_calls (m : PieceMachine) (run : List StreamCall) :
    (m.calls run).2.pieces = m.pieces ∧
      m.pieces.take (m.calls run).2.position
        = m.pieces.take m.position ++ (m.calls run).1.filterMap (·.piece?) := by
  induction run generalizing m with
  | nil => simp [calls]
  | cons c rest ih =>
    obtain ⟨same, first⟩ := take_call m c
    obtain ⟨same', others⟩ := ih (m.call c).2
    rw [same] at same' first others
    refine ⟨same', ?_⟩
    simp only [calls]
    rw [others, first, List.append_assoc, List.filterMap_cons]
    cases (m.call c).1.piece? <;> simp

/-- Every failure of a machine is one of being called at the wrong time. -/
theorem failure_call {c : StreamCall} {e : SealFailure} (h : (m.call c).1.failure? = some e) :
    ∃ text, e.toUploadError = .state text := by
  cases c with
  | produce =>
    simp only [call, produce] at h
    split at h
    · simp only [StreamReply.failure?, Option.some.injEq] at h
      exact h ▸ ⟨_, rfl⟩
    · split at h <;> simp [StreamReply.failure?] at h
  | finish =>
    simp only [call, finish] at h
    split at h
    · simp only [StreamReply.failure?, Option.some.injEq] at h
      exact h ▸ ⟨_, rfl⟩
    · split at h
      · simp only [StreamReply.failure?, Option.some.injEq] at h
        exact h ▸ ⟨_, rfl⟩
      · simp [StreamReply.failure?] at h

theorem failure_calls {run : List StreamCall} {reply : StreamReply} {e : SealFailure}
    (mem : reply ∈ (m.calls run).1) (h : reply.failure? = some e) :
    ∃ text, e.toUploadError = .state text := by
  induction run generalizing m with
  | nil => simp [calls] at mem
  | cons c rest ih =>
    simp only [calls, List.mem_cons] at mem
    rcases mem with rfl | mem
    · exact failure_call h
    · exact ih mem

end PieceMachine

/-! ## A stream follows a machine -/

namespace Stream

/-- Where a stream stands when a machine with its pieces is at its position. -/
inductive Stands (cipher : Aead) (s : Stream) (m : PieceMachine) : Prop where
  | header {segments : List Segment} (phase : s.phase = .header)
      (before : ({ s with phase := .segments } : Stream).Before 0 s.plaintext)
      (sealing : Sealing cipher s.key s.iv 0 s.plaintext segments) (atStart : m.position = 0)
      (pieces : m.pieces = s.iv.val :: segments.map (·.text)) (isOpen : m.isClosed = false)
  | segments {i : Nat} {message : ByteArray} {segments : List Segment}
      (before : s.Before i message) (sealing : Sealing cipher s.key s.iv i message segments)
      (position : m.position = i + 1)
      (left : m.pieces.drop m.position = segments.map (·.text)) (isOpen : m.isClosed = false)
  | drained (phase : s.phase = .drained) (atEnd : m.position = m.pieces.length)
      (isOpen : m.isClosed = false)
  | finished (phase : s.phase = .finished) (isClosed : m.isClosed = true)

/-- A stream over a plaintext and a machine with its pieces, after the same calls. -/
structure Follows (cipher : Aead) (plaintext : ByteArray) (key : Bytes 32) (iv : Bytes 24)
    (s : Stream) (m : PieceMachine) : Prop where
  gave : (fresh plaintext key iv).Gave s (concatPieces (m.pieces.take m.position))
  whole : (concatPieces m.pieces).size = sealedSize plaintext.size
  count : m.pieces.length = plaintext.size / segmentSize + 2
  inside : m.position ≤ m.pieces.length
  /-- The segments given are the pieces without the header. -/
  counted : s.segment = (m.position - 1).toUInt64
  plaintext_eq : s.plaintext = plaintext
  consumed_le : s.consumed ≤ plaintext.size
  stands : Stands cipher s m

end Stream

theorem concatPieces_append (l k : List ByteArray) :
    concatPieces (l ++ k) = concatPieces l ++ concatPieces k := by
  rw [concatPieces, List.foldl_append, foldl_append_eq]
  rfl

theorem getElem?_of_drop {l rest : List ByteArray} {i : Nat} {piece : ByteArray}
    (h : l.drop i = piece :: rest) : l[i]? = some piece ∧ l.drop (i + 1) = rest := by
  constructor
  · rw [← Nat.add_zero i, ← List.getElem?_drop, h]
    rfl
  · rw [← List.drop_drop, h]
    rfl

namespace Stream

section Step

variable {cipher : Aead} {plaintext : ByteArray} {key : Bytes 32} {iv : Bytes 24} {s t : Stream}
  {m : PieceMachine}

/-- The declared length has room for the next piece. -/
theorem Follows.room (h : Follows cipher plaintext key iv s m)
    (fits : sealedSize plaintext.size < 2 ^ 64) {piece : ByteArray}
    (next : m.pieces[m.position]? = some piece) :
    s.produced.toNat + piece.size ≤ s.expected.toNat := by
  obtain ⟨lt, e⟩ := List.getElem?_eq_some_iff.mp next
  have split : m.pieces = m.pieces.take m.position ++ piece :: m.pieces.drop (m.position + 1) := by
    rw [← e, ← List.drop_eq_getElem_cons lt, List.take_append_drop]
  have total := h.whole
  rw [split, concatPieces_append, ByteArray.size_append, concatPieces_cons,
    ByteArray.size_append] at total
  have declared : s.expected.toNat = sealedSize plaintext.size := by
    rw [h.gave.expected]
    exact toNat_ciphertextLength_of_fits fits
  have given := h.gave.produced
  simp only [fresh, UInt64.toNat_zero] at given
  omega

/-- A call that gives the next piece keeps what is counted. -/
theorem Follows.next (h : Follows cipher plaintext key iv s m) {piece : ByteArray}
    (next : m.pieces[m.position]? = some piece) (gave : s.Gave t piece)
    (counted : t.segment = m.position.toUInt64) (same : t.plaintext = s.plaintext)
    (consumed : t.consumed ≤ plaintext.size)
    (stands : Stands cipher t { m with position := m.position + 1 }) :
    Follows cipher plaintext key iv t { m with position := m.position + 1 } where
  gave := by
    simp only [List.take_add_one, next, Option.toList_some, concatPieces_append, concatPieces_cons,
      concatPieces_nil, ByteArray.append_empty]
    exact h.gave.trans gave
  whole := h.whole
  count := h.count
  inside := (List.getElem?_eq_some_iff.mp next).1
  counted := by rw [counted, Nat.add_sub_cancel]
  plaintext_eq := same.trans h.plaintext_eq
  consumed_le := consumed
  stands := stands

/-- The first piece is the header. -/
theorem Follows.produce_header (h : Follows cipher plaintext key iv s m)
    (fits : sealedSize plaintext.size < 2 ^ 64) {segments : List Segment}
    (phase : s.phase = .header)
    (before : ({ s with phase := .segments } : Stream).Before 0 s.plaintext)
    (sealing : Sealing cipher s.key s.iv 0 s.plaintext segments) (atStart : m.position = 0)
    (pieces : m.pieces = s.iv.val :: segments.map (·.text)) (isOpen : m.isClosed = false) :
    (s.produce cipher).1 = m.produce.1 ∧
      Follows cipher plaintext key iv (s.produce cipher).2 m.produce.2 := by
  have next : m.pieces[m.position]? = some s.iv.val := by rw [pieces, atStart]; rfl
  have room := h.room fits next
  rw [s.iv.property] at room
  have gave : ({ s with phase := .segments } : Stream).Gave
      (({ s with phase := .segments } : Stream).emit s.iv.val) s.iv.val := by
    apply gave_emit
    rw [s.iv.property]
    exact room
  rw [Stream.produce_header phase room, PieceMachine.produce_of_piece isOpen next]
  refine ⟨rfl, h.next next ⟨gave.key, gave.iv, gave.expected, gave.produced, gave.taken⟩ ?_ rfl
    h.consumed_le ?_⟩
  · have counted := h.counted
    rw [atStart] at counted ⊢
    exact counted
  · refine Stands.segments (i := 0) ⟨rfl, before.segment, before.left, before.consumed⟩ sealing
      (by simp only [atStart]) ?_ isOpen
    simp only [pieces, atStart]
    rfl

/-- The last segment drains the plaintext. -/
theorem Follows.produce_last (h : Follows cipher plaintext key iv s m)
    (fits : sealedSize plaintext.size < 2 ^ 64) {i : Nat} {message text : ByteArray}
    (before : s.Before i message) (short : message.size < segmentSize)
    (made : cipher.encrypt s.key (segmentNonce s.iv i.toUInt64) (segmentData i.toUInt64 true)
      message = some text)
    (position : m.position = i + 1) (left : m.pieces.drop m.position = [text])
    (isOpen : m.isClosed = false) :
    (s.produce cipher).1 = m.produce.1 ∧
      Follows cipher plaintext key iv (s.produce cipher).2 m.produce.2 := by
  have same := h.plaintext_eq
  obtain ⟨next, rest⟩ := getElem?_of_drop left
  have ready := nextSegment_last before short made
  obtain ⟨produced, gave⟩ := produce_of_nextSegment before.phase ready (h.room fits next)
  rw [produced, PieceMachine.produce_of_piece isOpen next]
  refine ⟨rfl, h.next next gave ?_ rfl ?_ ?_⟩
  · simp only [advance, emit, before.segment, position, toUInt64_succ]
  · simp only [advance, emit, before.consumed, same]
    exact Nat.le_refl _
  · refine Stands.drained (by simp [advance, emit]) ?_ isOpen
    have bound := (List.getElem?_eq_some_iff.mp next).1
    have none_left := List.drop_eq_nil_iff.mp rest
    exact Nat.le_antisymm bound none_left

/-- A full segment leaves the rest of the plaintext to seal. -/
theorem Follows.produce_full (h : Follows cipher plaintext key iv s m)
    (fits : sealedSize plaintext.size < 2 ^ 64) {i : Nat} {head tail text : ByteArray}
    {others : List Segment} (before : s.Before i (head ++ tail)) (size : head.size = segmentSize)
    (made : cipher.encrypt s.key (segmentNonce s.iv i.toUInt64) (segmentData i.toUInt64 false)
      head = some text)
    (further : Sealing cipher s.key s.iv (i + 1) tail others) (position : m.position = i + 1)
    (left : m.pieces.drop m.position = text :: others.map (·.text)) (isOpen : m.isClosed = false) :
    (s.produce cipher).1 = m.produce.1 ∧
      Follows cipher plaintext key iv (s.produce cipher).2 m.produce.2 := by
  obtain ⟨next, rest⟩ := getElem?_of_drop left
  have ready := nextSegment_full before size made
  obtain ⟨produced, gave⟩ := produce_of_nextSegment before.phase ready (h.room fits next)
  have after : ((s.advance { text, taken := segmentSize, isFinal := false }).emit text).Before
      (i + 1) tail := before_advance before size
  rw [produced, PieceMachine.produce_of_piece isOpen next]
  refine ⟨rfl, h.next next gave ?_ rfl ?_ ?_⟩
  · simp only [advance, emit, before.segment, position, toUInt64_succ]
  · have := after.consumed
    simp only [advance, emit] at this ⊢
    rw [h.plaintext_eq] at this
    omega
  · exact Stands.segments after further (by simp only [position]) rest isOpen

/-- Asking for a piece. -/
theorem follows_produce (h : Follows cipher plaintext key iv s m)
    (fits : sealedSize plaintext.size < 2 ^ 64) :
    (s.produce cipher).1 = m.produce.1 ∧
      Follows cipher plaintext key iv (s.produce cipher).2 m.produce.2 := by
  cases h.stands with
  | header phase before sealing atStart pieces isOpen =>
    exact h.produce_header fits phase before sealing atStart pieces isOpen
  | segments before sealing position left isOpen =>
    cases sealing with
    | last short made => exact h.produce_last fits before short made position left isOpen
    | full size made further =>
      exact h.produce_full fits before size made further position left isOpen
  | drained phase atEnd isOpen =>
    rw [produce_drained phase, PieceMachine.produce_at_end isOpen atEnd]
    exact ⟨rfl, h⟩
  | finished phase isClosed =>
    have ours : s.produce cipher = (.error .closed, s) := by simp only [produce, phase]
    rw [ours, PieceMachine.produce_closed isClosed]
    exact ⟨rfl, h⟩

/-- A stream that has given every piece has the length it declared, and the digest of the pieces. -/
theorem Follows.finish_drained (h : Follows cipher plaintext key iv s m)
    (fits : sealedSize plaintext.size < 2 ^ 64) (phase : s.phase = .drained)
    (atEnd : m.position = m.pieces.length) :
    s.finish
      = (.ok ((concatPieces m.pieces).size.toUInt64, Digest.of (concatPieces m.pieces)),
        { s with phase := .finished }) := by
  have gave := h.gave
  rw [atEnd, List.take_length] at gave
  have length : s.produced = (concatPieces m.pieces).size.toUInt64 := by
    apply UInt64.toNat.inj
    rw [gave.produced, h.whole, toNat_toUInt64 fits]
    exact Nat.zero_add _
  have declared : s.produced = s.expected := by
    apply UInt64.toNat.inj
    rw [length, h.whole, toNat_toUInt64 fits, gave.expected]
    exact (toNat_ciphertextLength_of_fits fits).symm
  have digest : s.running.digest = Digest.of (concatPieces m.pieces) := by
    unfold Digest.Running.digest
    rw [gave.taken]
    exact congrArg Digest.of ByteArray.empty_append
  rw [← length, ← digest]
  simp only [finish, phase, declared, ne_eq, not_true_eq_false, if_false]

/-- Closing both keeps what has been given and counted. -/
theorem Follows.close (h : Follows cipher plaintext key iv s m) :
    Follows cipher plaintext key iv { s with phase := .finished } { m with isClosed := true } where
  gave := ⟨h.gave.key, h.gave.iv, h.gave.expected, h.gave.produced, h.gave.taken⟩
  whole := h.whole
  count := h.count
  inside := h.inside
  counted := h.counted
  plaintext_eq := h.plaintext_eq
  consumed_le := h.consumed_le
  stands := .finished rfl rfl

/-- Closing the stream. -/
theorem follows_finish (h : Follows cipher plaintext key iv s m)
    (fits : sealedSize plaintext.size < 2 ^ 64) :
    s.finish.1 = m.finish.1 ∧ Follows cipher plaintext key iv s.finish.2 m.finish.2 := by
  cases h.stands with
  | header phase before sealing atStart pieces isOpen =>
    have early : m.position < m.pieces.length := by
      rw [atStart, pieces]
      exact Nat.succ_pos _
    have ours : s.finish = (.error .unfinished, s) := by simp only [finish, phase]
    rw [ours, PieceMachine.finish_before_end isOpen early]
    exact ⟨rfl, h⟩
  | segments before sealing position left isOpen =>
    have early : m.position < m.pieces.length := by
      have := List.length_pos_iff.mpr sealing.numbered.ne_nil
      have := congrArg List.length left
      rw [List.length_drop, List.length_map] at this
      omega
    have ours : s.finish = (.error .unfinished, s) := by simp only [finish, before.phase]
    rw [ours, PieceMachine.finish_before_end isOpen early]
    exact ⟨rfl, h⟩
  | drained phase atEnd isOpen =>
    rw [h.finish_drained fits phase atEnd, PieceMachine.finish_at_end isOpen atEnd]
    exact ⟨rfl, h.close⟩
  | finished phase isClosed =>
    have ours : s.finish = (.error .closedTwice, s) := by simp only [finish, phase]
    rw [ours, PieceMachine.finish_closed isClosed]
    exact ⟨rfl, h⟩

/-- One call: both answer alike, and the stream goes on following. -/
theorem follows_call (h : Follows cipher plaintext key iv s m)
    (fits : sealedSize plaintext.size < 2 ^ 64) (c : StreamCall) :
    (s.call cipher c).1 = (m.call c).1 ∧
      Follows cipher plaintext key iv (s.call cipher c).2 (m.call c).2 := by
  cases c with
  | produce =>
    obtain ⟨alike, go⟩ := follows_produce h fits
    exact ⟨congrArg StreamReply.piece alike, go⟩
  | finish =>
    obtain ⟨alike, go⟩ := follows_finish h fits
    exact ⟨congrArg StreamReply.closing alike, go⟩

/-- Any calls, in any order. -/
theorem follows_calls (h : Follows cipher plaintext key iv s m)
    (fits : sealedSize plaintext.size < 2 ^ 64) (run : List StreamCall) :
    (s.calls cipher run).1 = (m.calls run).1 ∧
      Follows cipher plaintext key iv (s.calls cipher run).2 (m.calls run).2 := by
  induction run generalizing s m with
  | nil => exact ⟨rfl, h⟩
  | cons c rest ih =>
    obtain ⟨alike, go⟩ := follows_call h fits c
    obtain ⟨others, last⟩ := ih go
    refine ⟨?_, last⟩
    simp only [calls, PieceMachine.calls, alike, others]

/-- At the start, a stream over a plaintext follows the machine with the pieces of its sealed
avatar. -/
theorem follows_fresh (seals : cipher.Seals segmentSize) {segments : List Segment}
    (h : Sealing cipher key iv 0 plaintext segments) :
    Follows cipher plaintext key iv (fresh plaintext key iv)
      { pieces := iv.val :: segments.map (·.text) } where
  gave := ⟨rfl, rfl, rfl, rfl, rfl⟩
  whole := by
    rw [concatPieces_cons]
    exact h.size_sealed seals
  count := by rw [List.length_cons, List.length_map, h.length]
  inside := Nat.zero_le _
  counted := rfl
  plaintext_eq := rfl
  consumed_le := Nat.zero_le _
  stands := Stands.header rfl ⟨rfl, rfl, ByteArray.extract_zero_size, Nat.zero_add _⟩ h rfl rfl rfl

end Step

/-! ## What a caller sees -/

/-- The counters of a stream over a plaintext once it has given some pieces, as exact numbers. -/
structure Counts (plaintext : ByteArray) (given : List ByteArray) (s : Stream) : Prop where
  produced : s.produced.toNat = (concatPieces given).size
  segment : s.segment.toNat = given.length - 1
  consumed : s.consumed ≤ plaintext.size
  expected : s.expected = ciphertextLength plaintext.size.toUInt64
  produced_le : s.produced ≤ s.expected

theorem size_concatPieces_take_le (pieces : List ByteArray) (n : Nat) :
    (concatPieces (pieces.take n)).size ≤ (concatPieces pieces).size := by
  have h := congrArg ByteArray.size (concatPieces_append (pieces.take n) (pieces.drop n))
  rw [List.take_append_drop, ByteArray.size_append] at h
  omega

variable {cipher : Aead} {plaintext : ByteArray} {key : Bytes 32} {iv : Bytes 24} {s : Stream}
  {m : PieceMachine}

theorem Follows.counts (h : Follows cipher plaintext key iv s m)
    (fits : sealedSize plaintext.size < 2 ^ 64) :
    Counts plaintext (m.pieces.take m.position) s := by
  have produced : s.produced.toNat = (concatPieces (m.pieces.take m.position)).size := by
    rw [h.gave.produced]
    exact Nat.zero_add _
  refine ⟨produced, ?_, h.consumed_le, h.gave.expected, ?_⟩
  · have count := h.count
    have inside := h.inside
    have small : m.position - 1 < 2 ^ 64 := by
      simp only [sealedSize, headerSize, nonceSize, tagSize, segmentSize] at fits count
      omega
    rw [h.counted, toNat_toUInt64 small, List.length_take, Nat.min_eq_left inside]
  · rw [UInt64.le_iff_toNat_le, produced, h.gave.expected]
    refine Nat.le_trans (size_concatPieces_take_le _ _) ?_
    rw [h.whole]
    exact Nat.le_of_eq (toNat_ciphertextLength_of_fits fits).symm

/-- After any calls, a stream over a plaintext has answered as the machine with its pieces, no check
of it has failed, and its counters are exact. -/
theorem calls_fresh (seals : cipher.Seals segmentSize) {segments : List Segment}
    (h : Sealing cipher key iv 0 plaintext segments) (fits : sealedSize plaintext.size < 2 ^ 64)
    (run : List StreamCall) :
    ((fresh plaintext key iv).calls cipher run).1
        = (PieceMachine.calls { pieces := iv.val :: segments.map (·.text) } run).1 ∧
      (∀ reply ∈ ((fresh plaintext key iv).calls cipher run).1, ∀ e, reply.failure? = some e →
        ∃ text, e.toUploadError = .state text) ∧
      Counts plaintext (((fresh plaintext key iv).calls cipher run).1.filterMap (·.piece?))
        ((fresh plaintext key iv).calls cipher run).2 := by
  obtain ⟨alike, last⟩ := follows_calls (follows_fresh seals h) fits run
  have counts := last.counts fits
  obtain ⟨same, given⟩ :=
    PieceMachine.take_calls { pieces := iv.val :: segments.map (·.text) } run
  rw [same, given, List.take_zero, List.nil_append] at counts
  refine ⟨alike, ?_, alike ▸ counts⟩
  rw [alike]
  exact fun reply mem e fails => PieceMachine.failure_calls mem fails

end Stream

end AvatarVault
