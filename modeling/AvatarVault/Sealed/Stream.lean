import AvatarVault.Digest
import AvatarVault.Key
import AvatarVault.Sealed.Layout
/-!
Sealing piece by piece: a stream gives the header, then one sealed segment a call, and at its
end the length and the digest of all it gave.  `left_produce_lt` bounds the number of pieces.
-/
namespace AvatarVault

/-- Why sealing fails. -/
inductive SealFailure where
  /-- The key does not have 32 bytes. -/
  | keySize (actual : Nat)
  /-- A piece was asked for after the stream was closed. -/
  | closed
  /-- The stream was closed twice. -/
  | closedTwice
  /-- The stream was closed before its last piece. -/
  | unfinished
  /-- A piece would pass the declared length. -/
  | overshoot (after declared : UInt64)
  /-- The pieces fall short of the declared length. -/
  | shortfall (emitted declared : UInt64)
  /-- The cipher refused a segment. -/
  | cipher (segment : UInt64)
  /-- The collected text differs in length from what the stream reports. -/
  | collected (size : Nat) (reported : UInt64)
  deriving DecidableEq, Repr

/-- The failure as the error of an upload. -/
def SealFailure.toUploadError : SealFailure → UploadError
  | keySize actual => .key s!"cipher initialization failed: key is {actual} bytes, expected 32"
  | closed => .state "produce() called after finish()"
  | closedTwice => .state "finish() called twice"
  | unfinished => .state "finish() called before end of stream"
  | overshoot after declared =>
    .internalEncoding s!"stream would emit {after.toNat} bytes, declared {declared.toNat}"
  | shortfall emitted declared =>
    .internalEncoding s!"stream emitted {emitted.toNat} bytes, declared {declared.toNat}"
  | cipher segment =>
    .internalEncoding s!"segment {segment.toNat} encryption failed: aead::Error"
  | collected size reported =>
    .internalEncoding s!"buffered {size} bytes, stream reported {reported.toNat}"

/-- How far a stream has come. -/
inductive Phase where
  /-- The header comes next. -/
  | header
  /-- A segment comes next. -/
  | segments
  /-- The last segment is out. -/
  | drained
  /-- The stream is closed. -/
  | finished
  deriving DecidableEq, Repr

/-- A stream of sealed pieces. -/
structure Stream where
  key : Bytes 32
  iv : Bytes 24
  plaintext : ByteArray
  /-- The number of plaintext bytes already sealed. -/
  consumed : Nat
  /-- The index of the next segment. -/
  segment : UInt64
  phase : Phase
  running : Digest.Running
  /-- The number of bytes given so far. -/
  produced : UInt64
  /-- The number of bytes the stream gives in all. -/
  expected : UInt64

/-- A sealed segment, not yet given. -/
structure SealedSegment where
  text : ByteArray
  /-- The number of plaintext bytes in it. -/
  taken : Nat
  isFinal : Bool

namespace Stream

/-- A stream over a plaintext, at its start. -/
def start (plaintext key : ByteArray) (iv : Bytes 24) : Except SealFailure Stream :=
  match Bytes.ofByteArray? 32 key with
  | none => .error (.keySize key.size)
  | some key => .ok
    { key, iv, plaintext
      consumed := 0, segment := 0, phase := .header, running := .empty, produced := 0
      expected := ciphertextLength plaintext.size.toUInt64 }

/-- Refuses a piece that would pass the declared length. -/
def checkRoom (s : Stream) (length : Nat) : Except SealFailure Unit :=
  let after := s.produced + length.toUInt64
  if s.expected < after then .error (.overshoot after s.expected) else .ok ()

/-- Seals the next segment; the stream stays where it is. -/
def nextSegment (cipher : Aead) (s : Stream) : Except SealFailure SealedSegment :=
  let remaining := s.plaintext.size - s.consumed
  let isFinal := decide (remaining < segmentSize)
  let taken := if isFinal then remaining else segmentSize
  let message := s.plaintext.extract s.consumed (s.consumed + taken)
  match cipher.encrypt s.key (segmentNonce s.iv s.segment) (segmentData s.segment isFinal)
      message with
  | some text => .ok { text, taken, isFinal }
  | none => .error (.cipher s.segment)

/-- Counts a piece and takes it into the digest. -/
def emit (s : Stream) (piece : ByteArray) : Stream :=
  { s with running := s.running.absorb piece, produced := s.produced + piece.size.toUInt64 }

/-- Moves past a segment. -/
def advance (s : Stream) (segment : SealedSegment) : Stream :=
  { s with
    consumed := s.consumed + segment.taken
    segment := s.segment + 1
    phase := if segment.isFinal then .drained else .segments }

/-- The next piece, or nothing at the end.  A failure leaves the stream as it was. -/
def produce (cipher : Aead) (s : Stream) : Except SealFailure (Option ByteArray) × Stream :=
  match s.phase with
  | .finished => (.error .closed, s)
  | .drained => (.ok none, s)
  | .header =>
    match s.checkRoom nonceSize with
    | .error e => (.error e, s)
    | .ok () => (.ok (some s.iv.val), { s with phase := .segments }.emit s.iv.val)
  | .segments =>
    match s.nextSegment cipher with
    | .error e => (.error e, s)
    | .ok next =>
      match s.checkRoom next.text.size with
      | .error e => (.error e, s)
      | .ok () => (.ok (some next.text), (s.advance next).emit next.text)

/-- Closes the stream: the length and the digest of all its pieces. -/
def finish (s : Stream) : Except SealFailure (UInt64 × Digest) × Stream :=
  match s.phase with
  | .finished => (.error .closedTwice, s)
  | .header | .segments => (.error .unfinished, s)
  | .drained =>
    let s := { s with phase := .finished }
    if s.produced ≠ s.expected then (.error (.shortfall s.produced s.expected), s)
    else (.ok (s.produced, s.running.digest), s)

/-- A bound on the pieces still to come. -/
def left (s : Stream) : Nat :=
  match s.phase with
  | .header => s.plaintext.size - s.consumed + 2
  | .segments => s.plaintext.size - s.consumed + 1
  | .drained | .finished => 0

/-- A segment holds what is left, or is not the last and takes away from it. -/
theorem nextSegment_taken {cipher : Aead} {s : Stream} {next : SealedSegment}
    (h : s.nextSegment cipher = .ok next) :
    next.isFinal = true ∨ s.plaintext.size - (s.consumed + next.taken)
      < s.plaintext.size - s.consumed := by
  simp only [nextSegment] at h
  split at h
  · simp only [Except.ok.injEq] at h
    subst h
    by_cases hr : s.plaintext.size - s.consumed < segmentSize
    · exact Or.inl (by simp [hr])
    · refine Or.inr ?_
      simp only [hr, decide_false, Bool.false_eq_true, if_false]
      simp only [segmentSize] at *
      omega
  · simp at h

/-- Every piece brings the stream nearer to its end. -/
theorem left_produce_lt {cipher : Aead} {s t : Stream} {piece : ByteArray}
    (h : s.produce cipher = (.ok (some piece), t)) : t.left < s.left := by
  unfold produce at h
  split at h
  · simp at h
  · simp at h
  · rename_i hp
    split at h
    · simp at h
    · simp only [Prod.mk.injEq] at h
      rw [← h.2]
      simp [left, emit, hp]
  · rename_i hp
    split at h
    · simp at h
    · rename_i next hn
      split at h
      · simp at h
      · simp only [Prod.mk.injEq] at h
        rw [← h.2]
        rcases nextSegment_taken hn with hf | hl
        · simp [left, emit, advance, hp, hf]
        · cases hf : next.isFinal
          · simp [left, emit, advance, hp, hf]
            omega
          · simp [left, emit, advance, hp, hf]

/-- All pieces still to come; where one fails, the failure, and the stream before it. -/
def drain (cipher : Aead) (s : Stream) : Except SealFailure (List ByteArray) × Stream :=
  match _ : s.produce cipher with
  | (.ok (some piece), t) =>
    match t.drain cipher with
    | (.ok pieces, u) => (.ok (piece :: pieces), u)
    | (.error e, u) => (.error e, u)
  | (.ok none, t) => (.ok [], t)
  | (.error e, t) => (.error e, t)
termination_by s.left
decreasing_by exact left_produce_lt ‹_›

end Stream

end AvatarVault
