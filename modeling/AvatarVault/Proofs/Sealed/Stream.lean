import AvatarVault.Proofs.Sealed.Format
/-!
A sealing stream over a plaintext gives the header and then the segments of the plaintext, and no
check of it ever fails.  `Stream.Before s i message` says where a stream stands: segment `i` is
next and `message` is left.  One call (`produce_last`, `produce_full`) moves it by one segment; the
run (`drain_of_sealing`) is by induction on the segments.  `Stream.emitted` records, beside a run,
the segments given and what they were sealed under.
-/
namespace AvatarVault

namespace Stream

variable {cipher : Aead} {s t u : Stream}

/-! ## What a run emits -/

/-- The segment that the next call seals, with its nonce and associated data. -/
def segment? (cipher : Aead) (s : Stream) : Option Segment :=
  match s.phase, s.nextSegment cipher with
  | .segments, .ok next => some
    { nonce := segmentNonce s.iv s.segment
      data := segmentData s.segment next.isFinal
      text := next.text }
  | _, _ => none

/-- The segments that a stream gives until it ends or fails. -/
def emitted (cipher : Aead) (s : Stream) : List Segment :=
  match _ : s.produce cipher with
  | (.ok (some _), t) => (s.segment? cipher).toList ++ t.emitted cipher
  | _ => []
termination_by s.left
decreasing_by exact left_produce_lt ‹_›

theorem emitted_of_produce {piece : ByteArray} (h : s.produce cipher = (.ok (some piece), t)) :
    s.emitted cipher = (s.segment? cipher).toList ++ t.emitted cipher := by
  rw [emitted]
  split
  · rename_i t' h'
    rw [h] at h'
    simp only [Prod.mk.injEq] at h'
    rw [h'.2]
  · rename_i h'
    exact absurd h (h' piece t)

theorem emitted_of_end (h : s.produce cipher = (.ok none, t)) : s.emitted cipher = [] := by
  rw [emitted]
  split
  · rename_i h'
    rw [h] at h'
    simp at h'
  · rfl

theorem drain_of_produce {piece : ByteArray} {pieces : List ByteArray}
    (h : s.produce cipher = (.ok (some piece), t)) (ht : t.drain cipher = (.ok pieces, u)) :
    s.drain cipher = (.ok (piece :: pieces), u) := by
  rw [drain]
  split
  · rename_i piece' t' h'
    rw [h] at h'
    simp only [Prod.mk.injEq, Except.ok.injEq, Option.some.injEq] at h'
    rw [← h'.1, ← h'.2, ht]
  · rename_i h'
    rw [h] at h'
    simp at h'
  · rename_i h'
    rw [h] at h'
    simp at h'

theorem drain_of_end (h : s.produce cipher = (.ok none, t)) : s.drain cipher = (.ok [], t) := by
  rw [drain]
  split
  · rename_i h'
    rw [h] at h'
    simp at h'
  · rename_i h'
    rw [h] at h'
    simp only [Prod.mk.injEq] at h'
    rw [h'.2]
  · rename_i h'
    rw [h] at h'
    simp at h'

/-! ## One call -/

/-- A stream before segment `i`, with `message` still to be sealed. -/
structure Before (s : Stream) (i : Nat) (message : ByteArray) : Prop where
  phase : s.phase = .segments
  segment : s.segment = i.toUInt64
  left : s.plaintext.extract s.consumed s.plaintext.size = message
  consumed : s.consumed + message.size = s.plaintext.size

theorem checkRoom_of_le {length : Nat}
    (room : s.produced.toNat + length ≤ s.expected.toNat) : s.checkRoom length = .ok () := by
  have hp := s.expected.toNat_lt
  have sum : (s.produced + length.toUInt64).toNat = s.produced.toNat + length := by
    rw [UInt64.toNat_add, toNat_toUInt64 (by omega), Nat.mod_eq_of_lt (by omega)]
  unfold checkRoom
  simp only
  rw [if_neg]
  rw [UInt64.lt_iff_toNat_lt, sum]
  omega

/-- Stream `t` is what stream `s` becomes once it has given `written`. -/
structure Gave (s t : Stream) (written : ByteArray) : Prop where
  key : t.key = s.key
  iv : t.iv = s.iv
  expected : t.expected = s.expected
  produced : t.produced.toNat = s.produced.toNat + written.size
  taken : t.running.taken = s.running.taken ++ written

theorem Gave.trans {a b : ByteArray} (h : s.Gave t a) (k : t.Gave u b) : s.Gave u (a ++ b) where
  key := k.key.trans h.key
  iv := k.iv.trans h.iv
  expected := k.expected.trans h.expected
  produced := by rw [k.produced, h.produced, ByteArray.size_append, Nat.add_assoc]
  taken := by rw [k.taken, h.taken, ByteArray.append_assoc]

theorem gave_emit {piece : ByteArray}
    (room : s.produced.toNat + piece.size ≤ s.expected.toNat) : s.Gave (s.emit piece) piece where
  key := rfl
  iv := rfl
  expected := rfl
  produced := by
    have hp := s.expected.toNat_lt
    simp only [emit]
    rw [UInt64.toNat_add, toNat_toUInt64 (by omega), Nat.mod_eq_of_lt (by omega)]
  taken := rfl

theorem nextSegment_last {i : Nat} {message text : ByteArray} (at_ : s.Before i message)
    (short : message.size < segmentSize)
    (made : cipher.encrypt s.key (segmentNonce s.iv i.toUInt64) (segmentData i.toUInt64 true)
      message = some text) :
    s.nextSegment cipher = .ok { text, taken := message.size, isFinal := true } := by
  have remaining : s.plaintext.size - s.consumed = message.size := by
    have := at_.consumed
    omega
  simp only [nextSegment, remaining, short, decide_true, if_true, at_.segment, at_.consumed,
    at_.left, made]

theorem nextSegment_full {i : Nat} {head rest text : ByteArray}
    (at_ : s.Before i (head ++ rest)) (size : head.size = segmentSize)
    (made : cipher.encrypt s.key (segmentNonce s.iv i.toUInt64) (segmentData i.toUInt64 false)
      head = some text) :
    s.nextSegment cipher = .ok { text, taken := segmentSize, isFinal := false } := by
  have consumed := at_.consumed
  rw [ByteArray.size_append, size] at consumed
  have long : ¬ s.plaintext.size - s.consumed < segmentSize := by omega
  have front := (extract_of_append at_.left (by omega)).1
  rw [size] at front
  simp only [nextSegment, long, decide_false, Bool.false_eq_true, if_false, at_.segment, front,
    made]

/-- A call that has room for the next segment gives it. -/
theorem produce_of_nextSegment {next : SealedSegment} (phase : s.phase = .segments)
    (h : s.nextSegment cipher = .ok next)
    (room : s.produced.toNat + next.text.size ≤ s.expected.toNat) :
    s.produce cipher = (.ok (some next.text), (s.advance next).emit next.text) ∧
      s.Gave ((s.advance next).emit next.text) next.text := by
  refine ⟨by simp only [produce, phase, h, checkRoom_of_le room], ?_⟩
  have g : (s.advance next).Gave ((s.advance next).emit next.text) next.text := gave_emit room
  exact ⟨g.key, g.iv, g.expected, g.produced, g.taken⟩

theorem segment?_of_nextSegment {i : Nat} {next : SealedSegment} {message : ByteArray}
    (at_ : s.Before i message) (h : s.nextSegment cipher = .ok next) :
    s.segment? cipher = some (Segment.numbered s.iv i next.isFinal next.text) := by
  simp only [segment?, at_.phase, h, at_.segment, Segment.numbered]

theorem produce_drained (phase : s.phase = .drained) : s.produce cipher = (.ok none, s) := by
  simp only [produce, phase]

/-- The call that gives the last segment. -/
theorem produce_last {i : Nat} {message text : ByteArray} (at_ : s.Before i message)
    (short : message.size < segmentSize)
    (made : cipher.encrypt s.key (segmentNonce s.iv i.toUInt64) (segmentData i.toUInt64 true)
      message = some text)
    (room : s.produced.toNat + text.size ≤ s.expected.toNat) :
    ∃ t, s.produce cipher = (.ok (some text), t) ∧ s.Gave t text ∧ t.phase = .drained ∧
      s.segment? cipher = some (Segment.numbered s.iv i true text) := by
  have next := nextSegment_last at_ short made
  obtain ⟨call, gave⟩ := produce_of_nextSegment at_.phase next room
  exact ⟨_, call, gave, by simp [advance, emit], segment?_of_nextSegment at_ next⟩

/-- Past a full segment the stream stands before the next one. -/
theorem before_advance {i : Nat} {head rest text : ByteArray} (at_ : s.Before i (head ++ rest))
    (size : head.size = segmentSize) :
    ((s.advance { text, taken := segmentSize, isFinal := false }).emit text).Before (i + 1)
      rest where
  phase := by simp [advance, emit]
  segment := by
    simp only [advance, emit, at_.segment]
    exact (toUInt64_succ i).symm
  left := by
    have consumed := at_.consumed
    have back := (extract_of_append at_.left (by omega)).2
    rw [size] at back
    exact back
  consumed := by
    have consumed := at_.consumed
    rw [ByteArray.size_append, size] at consumed
    simp only [advance, emit]
    omega

/-- The call that gives a full segment. -/
theorem produce_full {i : Nat} {head rest text : ByteArray} (at_ : s.Before i (head ++ rest))
    (size : head.size = segmentSize)
    (made : cipher.encrypt s.key (segmentNonce s.iv i.toUInt64) (segmentData i.toUInt64 false)
      head = some text)
    (room : s.produced.toNat + text.size ≤ s.expected.toNat) :
    ∃ t, s.produce cipher = (.ok (some text), t) ∧ s.Gave t text ∧ t.Before (i + 1) rest ∧
      s.segment? cipher = some (Segment.numbered s.iv i false text) := by
  have next := nextSegment_full at_ size made
  obtain ⟨call, gave⟩ := produce_of_nextSegment at_.phase next room
  exact ⟨_, call, gave, before_advance at_ size, segment?_of_nextSegment at_ next⟩

/-! ## The run -/

/-- A stream with room for the segments that are left gives exactly these. -/
theorem drain_of_sealing {key : Bytes 32} {iv : Bytes 24} {i : Nat} {message : ByteArray}
    {segments : List Segment} (h : Sealing cipher key iv i message segments) (s : Stream)
    (hk : s.key = key) (hv : s.iv = iv) (at_ : s.Before i message)
    (room : s.produced.toNat + (joined segments).size ≤ s.expected.toNat) :
    ∃ t, s.drain cipher = (.ok (segments.map (·.text)), t) ∧ s.Gave t (joined segments) ∧
      t.phase = .drained ∧ s.emitted cipher = segments := by
  induction h generalizing s with
  | @last i message text short made =>
    subst hk hv
    rw [joined_cons, joined_nil, ByteArray.append_empty] at room ⊢
    obtain ⟨t, call, gave, phase, named⟩ := produce_last at_ short made room
    have stop : t.produce cipher = (.ok none, t) := produce_drained phase
    refine ⟨t, drain_of_produce call (drain_of_end stop), gave, phase, ?_⟩
    rw [emitted_of_produce call, emitted_of_end stop, named]
    rfl
  | @full i head rest text segments size made further ih =>
    subst hk hv
    rw [joined_cons, ByteArray.size_append] at room
    simp only [Segment.numbered] at room
    obtain ⟨t, call, gave, before, named⟩ := produce_full at_ size made (by omega)
    obtain ⟨u, drained, gave', phase, emits⟩ := ih t gave.key gave.iv before (by
      rw [gave.produced, gave.expected]
      omega)
    refine ⟨u, drain_of_produce call drained, ?_, phase, ?_⟩
    · rw [joined_cons]
      exact gave.trans gave'
    · rw [emitted_of_produce call, emits, named]
      rfl

/-! ## From the start -/

/-- A stream at its start. -/
def fresh (plaintext : ByteArray) (key : Bytes 32) (iv : Bytes 24) : Stream :=
  { key, iv, plaintext
    consumed := 0, segment := 0, phase := .header, running := .empty, produced := 0
    expected := ciphertextLength plaintext.size.toUInt64 }

theorem start_eq (plaintext : ByteArray) (key : Bytes 32) (iv : Bytes 24) :
    start plaintext key.val iv = .ok (fresh plaintext key iv) := by
  unfold start
  rw [Bytes.ofByteArray?_eq_some_iff.mpr rfl]
  rfl

theorem produce_header (phase : s.phase = .header)
    (room : s.produced.toNat + nonceSize ≤ s.expected.toNat) :
    s.produce cipher = (.ok (some s.iv.val), { s with phase := .segments }.emit s.iv.val) := by
  simp only [produce, phase, checkRoom_of_le room]

/-- The first call gives the header. -/
theorem produce_fresh (cipher : Aead) {plaintext : ByteArray} (key : Bytes 32) (iv : Bytes 24)
    (fits : sealedSize plaintext.size < 2 ^ 64) :
    ∃ t, (fresh plaintext key iv).produce cipher = (.ok (some iv.val), t) ∧
      (fresh plaintext key iv).Gave t iv.val ∧ t.Before 0 plaintext := by
  have room : (fresh plaintext key iv).produced.toNat + nonceSize
      ≤ (fresh plaintext key iv).expected.toNat := by
    simp only [fresh, toNat_ciphertextLength_of_fits fits, sealedSize, headerSize]
    rw [UInt64.toNat_zero]
    omega
  let s : Stream := { fresh plaintext key iv with phase := .segments }
  refine ⟨s.emit iv.val, produce_header rfl room, ?_, ?_⟩
  · have g : s.Gave (s.emit iv.val) iv.val := by
      apply gave_emit
      rw [iv.property]
      exact room
    exact ⟨g.key, g.iv, g.expected, g.produced, g.taken⟩
  · refine ⟨rfl, rfl, ByteArray.extract_zero_size, ?_⟩
    simp only [s, emit, fresh, Nat.zero_add]

/-- A stream over a plaintext gives the header, then the segments of the plaintext. -/
theorem drain_fresh (seals : cipher.Seals segmentSize) {plaintext : ByteArray} {key : Bytes 32}
    {iv : Bytes 24} {segments : List Segment} (h : Sealing cipher key iv 0 plaintext segments)
    (fits : sealedSize plaintext.size < 2 ^ 64) :
    ∃ t, (fresh plaintext key iv).drain cipher = (.ok (iv.val :: segments.map (·.text)), t) ∧
      (fresh plaintext key iv).Gave t (iv.val ++ joined segments) ∧ t.phase = .drained ∧
      (fresh plaintext key iv).emitted cipher = segments := by
  obtain ⟨s, call, gave, before⟩ := produce_fresh cipher key iv fits
  have room : s.produced.toNat + (joined segments).size ≤ s.expected.toNat := by
    rw [gave.produced, gave.expected, h.size_joined seals, iv.property]
    simp only [fresh, toNat_ciphertextLength_of_fits fits, sealedSize, headerSize, nonceSize]
    rw [UInt64.toNat_zero]
    omega
  obtain ⟨t, drained, gave', phase, emits⟩ := drain_of_sealing h s gave.key gave.iv before room
  refine ⟨t, drain_of_produce call drained, gave.trans gave', phase, ?_⟩
  rw [emitted_of_produce call, emits]
  rfl

end Stream

/-! ## Sealing a whole avatar -/

/-- The segments that sealing gives to its caller, with what they are sealed under. -/
def emittedSegments (cipher : Aead) (plaintext : ByteArray) (key : ProfileKey) (iv : Bytes 24) :
    List Segment :=
  match Stream.start plaintext key.bytes.val iv with
  | .ok s => s.emitted cipher
  | .error _ => []

section Whole

variable {cipher : Aead} {plaintext : ByteArray} {key : ProfileKey} {iv : Bytes 24}
  {segments : List Segment}

theorem emittedSegments_of_sealing (seals : cipher.Seals segmentSize)
    (h : Sealing cipher key.bytes iv 0 plaintext segments)
    (fits : sealedSize plaintext.size < 2 ^ 64) :
    emittedSegments cipher plaintext key iv = segments := by
  obtain ⟨t, -, -, -, emits⟩ := Stream.drain_fresh seals h fits
  unfold emittedSegments
  rw [Stream.start_eq]
  exact emits

/-- Sealing gives the header and the segments of the plaintext, and the digest of all that. -/
theorem sealAvatar_of_sealing (seals : cipher.Seals segmentSize)
    (h : Sealing cipher key.bytes iv 0 plaintext segments)
    (fits : sealedSize plaintext.size < 2 ^ 64) :
    sealAvatar cipher plaintext key iv = .ok
      { ciphertext := iv.val ++ joined segments
        digest := Digest.of (iv.val ++ joined segments) } := by
  obtain ⟨t, drained, gave, phase, -⟩ := Stream.drain_fresh seals h fits
  have size := h.size_sealed seals
  have length : t.produced = (iv.val ++ joined segments).size.toUInt64 := by
    apply UInt64.toNat.inj
    rw [gave.produced, size, toNat_toUInt64 fits]
    exact Nat.zero_add _
  have expected : t.produced = t.expected := by
    apply UInt64.toNat.inj
    rw [length, size, toNat_toUInt64 fits, gave.expected]
    exact (toNat_ciphertextLength_of_fits fits).symm
  have taken : t.running.digest = Digest.of (iv.val ++ joined segments) := by
    unfold Digest.Running.digest
    rw [gave.taken]
    exact congrArg Digest.of ByteArray.empty_append
  have finish : t.finish.1
      = .ok ((iv.val ++ joined segments).size.toUInt64, Digest.of (iv.val ++ joined segments)) := by
    simp only [Stream.finish, phase, expected, ne_eq, not_true_eq_false, if_false]
    rw [← expected, length, ← taken]
  have pieces : concatPieces (iv.val :: segments.map (·.text)) = iv.val ++ joined segments := by
    rw [concatPieces_cons]
    rfl
  unfold sealAvatar
  rw [Stream.start_eq]
  simp only [bind, Except.bind, drained, finish, pieces, ne_eq, not_true_eq_false, if_false, pure,
    Except.pure]

end Whole

end AvatarVault
