import Mathlib.Data.List.Basic
import AvatarVault.Proofs.Sealed.Machine
import AvatarVault.Proofs.Sealed.RoundTrip
/-!
The sealed format written out, byte by byte and segment by segment.  `nonceBytes` and `dataBytes`
say what stands in the nonce and the associated data of a segment; `Sealing.encrypt_getElem` says
which part of the plaintext each segment of a sealing holds.  From these and from what a stream
answers (`Stream.calls_fresh`): a stream is the machine with its pieces (`calls_as_machine`), and
sealing writes the format and never fails (`sealAvatar_written`).
-/
namespace AvatarVault

/-! ## Nonces and associated data -/

theorem littleEndian_eq_map (k n : Nat) :
    littleEndian k n = (List.range k).map fun j => (n / 256 ^ j).toUInt8 := by
  induction k generalizing n with
  | zero => rfl
  | succ k ih =>
    have shift (j : Nat) : n / 256 / 256 ^ j = n / 256 ^ (j + 1) := by
      rw [Nat.div_div_eq_div_mul, Nat.pow_succ']
    rw [littleEndian, ih, List.range_succ_eq_map, List.map_cons, List.map_map]
    simp only [shift, Nat.pow_zero, Nat.div_one]
    rfl

theorem bigEndian_eq_map (k n : Nat) :
    bigEndian k n = (List.range k).map fun j => (n / 256 ^ (k - 1 - j)).toUInt8 := by
  apply List.ext_getElem
  · simp
  · intro j h _
    simp only [bigEndian, littleEndian_eq_map, List.getElem_reverse, List.getElem_map,
      List.getElem_range, List.length_map, List.length_range]

/-- A number as eight bytes, highest first. -/
def eightBytes (i : Nat) : List UInt8 := (List.range 8).map fun j => (i / 256 ^ (7 - j)).toUInt8

/-- The bytes of the nonce of segment `i`: the header, its last eight bytes with those of the index
added to them bitwise. -/
def nonceBytes (iv : Bytes 24) (i : Nat) : List UInt8 :=
  iv.val.data.toList.take 16 ++ List.zipWith (· ^^^ ·) (iv.val.data.toList.drop 16) (eightBytes i)

/-- The associated data of segment `i`: the eight bytes of the index, then the flag. -/
def dataBytes (i : Nat) (flag : UInt8) : List UInt8 := eightBytes i ++ [flag]

theorem indexBytes_eq {i : Nat} (h : i < 2 ^ 64) : indexBytes i.toUInt64 = eightBytes i := by
  rw [indexBytes, toNat_toUInt64 h, bigEndian_eq_map]
  rfl

theorem toList_segmentNonce (iv : Bytes 24) {i : Nat} (h : i < 2 ^ 64) :
    (segmentNonce iv i.toUInt64).val.data.toList = nonceBytes iv i := by
  have size : iv.val.data.toList.length = 24 := by
    rw [Array.length_toList, ByteArray.size_data, iv.property]
  have all : (iv.val.data.toList.drop 16).take 8 = iv.val.data.toList.drop 16 := by
    have eight : (iv.val.data.toList.drop 16).length = 8 := by rw [List.length_drop, size]
    exact List.take_of_length_le (Nat.le_of_eq eight)
  simp only [segmentNonce, xorBytes, bytesOfList, indexBytes_eq h, ByteArray.data_append,
    ByteArray.data_extract, Array.toList_append, Array.toList_extract, Array.toList_zipWith,
    List.extract_eq_take_drop, Nat.sub_zero, List.drop_zero, all, nonceBytes]

theorem segmentData_eq_bytes {i : Nat} (h : i < 2 ^ 64) (isFinal : Bool) :
    segmentData i.toUInt64 isFinal = bytesOfList (dataBytes i (if isFinal then 1 else 0)) := by
  rw [segmentData, indexBytes_eq h]
  rfl

/-! ## The parts of a plaintext -/

theorem extract_of_size_le {b : ByteArray} {start stop : Nat} (h : b.size ≤ stop) :
    b.extract start stop = b.extract start b.size := by
  have cut := ByteArray.extract_extract (a := b) (i := 0) (j := b.size) (k := start) (l := stop)
  rwa [ByteArray.extract_zero_size, Nat.zero_add, Nat.zero_add, Nat.min_eq_right h] at cut

/-- Segment `j` of a sealing holds part `j` of the message. -/
theorem Sealing.encrypt_getElem {cipher : Aead} {key : Bytes 32} {iv : Bytes 24} {i : Nat}
    {message : ByteArray} {segments : List Segment} (h : Sealing cipher key iv i message segments)
    {j : Nat} (lt : j < segments.length) :
    cipher.encrypt key (segmentNonce iv (i + j).toUInt64)
        (segmentData (i + j).toUInt64 (decide (j = message.size / segmentSize)))
        (message.extract (segmentSize * j) (segmentSize * (j + 1))) = some segments[j].text := by
  induction h generalizing j with
  | @last i message text short made =>
    obtain rfl : j = 0 := by simpa using lt
    have whole : message.extract (segmentSize * 0) (segmentSize * (0 + 1)) = message := by
      rw [Nat.mul_zero, extract_of_size_le (by omega), ByteArray.extract_zero_size]
    rw [whole, Nat.div_eq_of_lt short]
    exact made
  | @full i head rest text segments size made further ih =>
    have count : (head ++ rest).size / segmentSize = rest.size / segmentSize + 1 := by
      rw [ByteArray.size_append, size, Nat.add_comm, Nat.add_div_right _ (by decide)]
    cases j with
    | zero =>
      have front : (head ++ rest).extract (segmentSize * 0) (segmentSize * (0 + 1)) = head := by
        rw [Nat.mul_zero, Nat.zero_add, Nat.mul_one]
        exact ByteArray.extract_append_eq_left size.symm
      have more : decide (0 = rest.size / segmentSize + 1) = false := by simp
      rw [front, count, more]
      exact made
    | succ j =>
      have back : (head ++ rest).extract (segmentSize * (j + 1)) (segmentSize * (j + 1 + 1))
          = rest.extract (segmentSize * j) (segmentSize * (j + 1)) := by
        rw [Nat.mul_add_one segmentSize (j + 1), Nat.mul_add_one segmentSize j,
          Nat.add_comm _ segmentSize, Nat.add_comm _ segmentSize, ← size]
        exact ByteArray.extract_append_size_add
      have index : i + (j + 1) = i + 1 + j := by omega
      have flag : decide (j + 1 = rest.size / segmentSize + 1)
          = decide (j = rest.size / segmentSize) := by simp
      rw [back, count, index, flag]
      exact ih (Nat.lt_of_succ_lt_succ lt)

/-- The texts of the segments of a plaintext: as many as there are segments, each one sealing its
part of the plaintext, under its index, the last one marked. -/
structure SegmentTexts (cipher : Aead) (key : Bytes 32) (iv : Bytes 24) (plaintext : ByteArray)
    (texts : List ByteArray) : Prop where
  count : texts.length = (segmentCount plaintext.size.toUInt64).toNat
  made : ∀ i (h : i < texts.length),
    cipher.encrypt key (segmentNonce iv i.toUInt64)
      (segmentData i.toUInt64 (decide (i + 1 = texts.length)))
      (plaintext.extract (segmentSize * i) (segmentSize * (i + 1))) = some texts[i]

section Whole

variable {cipher : Aead} {plaintext : ByteArray} {key : Bytes 32} {iv : Bytes 24}
  {segments : List Segment}

theorem Sealing.segmentTexts (h : Sealing cipher key iv 0 plaintext segments)
    (size : plaintext.size < 2 ^ 64) :
    SegmentTexts cipher key iv plaintext (segments.map (·.text)) where
  count := by
    rw [List.length_map, h.length, toNat_segmentCount, toNat_toUInt64 size]
  made i lt := by
    have made := h.encrypt_getElem (j := i) (by rwa [List.length_map] at lt)
    have flag : decide (i + 1 = segments.length) = decide (i = plaintext.size / segmentSize) := by
      rw [h.length]
      simp
    rw [Nat.zero_add] at made
    rw [List.length_map, flag, made, List.getElem_map]

/-- The header and the texts have the declared length. -/
theorem Sealing.size_pieces (seals : cipher.Seals segmentSize)
    (h : Sealing cipher key iv 0 plaintext segments) (fits : sealedSize plaintext.size < 2 ^ 64) :
    (concatPieces (iv.val :: segments.map (·.text))).size
      = (ciphertextLength plaintext.size.toUInt64).toNat := by
  rw [toNat_ciphertextLength_of_fits fits, concatPieces_cons, ← h.size_sealed seals]
  rfl

/-- The segment with index `i` as the format lays it down, byte by byte, and what it seals. -/
def WrittenSegment (cipher : Aead) (key : Bytes 32) (iv : Bytes 24) (i : Nat) (flag : UInt8)
    (part text : ByteArray) : Prop :=
  ∃ nonce : Bytes 24, nonce.val.data.toList = nonceBytes iv i ∧
    cipher.encrypt key nonce (bytesOfList (dataBytes i flag)) part = some text

theorem SegmentTexts.written {texts : List ByteArray}
    (h : SegmentTexts cipher key iv plaintext texts) (size : plaintext.size < 2 ^ 64) {i : Nat}
    (lt : i < texts.length) :
    WrittenSegment cipher key iv i (if i + 1 = texts.length then 1 else 0)
      (plaintext.extract (segmentSize * i) (segmentSize * (i + 1))) texts[i] := by
  have small : i < 2 ^ 64 := by
    have count := h.count
    rw [toNat_segmentCount, toNat_toUInt64 size] at count
    simp only [segmentSize] at count
    omega
  have made := h.made i lt
  rw [segmentData_eq_bytes small] at made
  exact ⟨_, toList_segmentNonce iv small, by simpa only [decide_eq_true_eq] using made⟩

end Whole

/-! ## A stream is the machine with its pieces -/

/-- A stream over a plaintext that a slice can hold has as its pieces the header and the texts of
the segments, and answers any calls, in any order, as the machine with these pieces.  All its
failures are those of a call at the wrong time, and its counters are exact at every point. -/
theorem calls_as_machine {cipher : Aead} (seals : cipher.Seals segmentSize) (plaintext : ByteArray)
    (size : plaintext.size < 2 ^ 63) (key : Bytes 32) (iv : Bytes 24) :
    ∃ (s : Stream) (texts : List ByteArray),
      Stream.start plaintext key.val iv = .ok s ∧
      SegmentTexts cipher key iv plaintext texts ∧
      (concatPieces (iv.val :: texts)).size = (ciphertextLength plaintext.size.toUInt64).toNat ∧
      ∀ run : List StreamCall,
        (s.calls cipher run).1 = (PieceMachine.calls { pieces := iv.val :: texts } run).1 ∧
        (∀ reply ∈ (s.calls cipher run).1, ∀ e, reply.failure? = some e →
          ∃ text, e.toUploadError = .state text) ∧
        Stream.Counts plaintext ((s.calls cipher run).1.filterMap (·.piece?))
          (s.calls cipher run).2 := by
  obtain ⟨segments, sealing⟩ := exists_sealing seals key iv 0 plaintext
  have fits := sealedSize_lt size
  exact ⟨_, _, Stream.start_eq plaintext key iv, sealing.segmentTexts (by omega),
    sealing.size_pieces seals fits, Stream.calls_fresh seals sealing fits⟩

/-- Calls that are out of place, early and late. -/
def exampleCalls : List StreamCall :=
  [.finish, .produce, .produce, .finish, .produce, .produce, .finish, .produce, .finish]

/-- One full segment and an empty last one: three pieces in all, with a refusal wherever the stream
is closed too early or used too late. -/
theorem calls_as_machine_out_of_place :
    XChaCha20Poly1305.aead.Seals segmentSize ∧ (replicateByte 65536 1).size < 2 ^ 63 ∧
      ∃ (s : Stream) (full last : ByteArray),
        Stream.start (replicateByte 65536 1) exampleKey.bytes.val exampleHeader = .ok s ∧
        (s.calls XChaCha20Poly1305.aead exampleCalls).1 =
          [.closing (.error .unfinished), .piece (.ok (some exampleHeader.val)),
            .piece (.ok (some full)), .closing (.error .unfinished), .piece (.ok (some last)),
            .piece (.ok none),
            .closing (.ok (65592, Digest.of (concatPieces [exampleHeader.val, full, last]))),
            .piece (.error .closed), .closing (.error .closedTwice)] := by
  have size : (replicateByte 65536 1).size < 2 ^ 63 := by
    rw [size_replicateByte]
    decide
  obtain ⟨s, texts, started, made, length, run⟩ :=
    calls_as_machine xchacha_lawful.toSeals (replicateByte 65536 1) size exampleKey.bytes
      exampleHeader
  have count := made.count
  rw [size_replicateByte] at count length
  obtain ⟨full, last, rfl⟩ := List.length_eq_two.mp count
  have total : (concatPieces [exampleHeader.val, full, last]).size.toUInt64 = 65592 := by
    rw [length]
    rfl
  refine ⟨xchacha_lawful.toSeals, size, s, full, last, started, ?_⟩
  rw [(run exampleCalls).1]
  simp [exampleCalls, PieceMachine.calls, PieceMachine.call, PieceMachine.produce,
    PieceMachine.finish, total]

/-! ## Sealing writes the format -/

end AvatarVault
