import Mathlib.Algebra.Group.Nat.Defs
import AvatarVault.Sealed.Seal
/-!
The sealed format as a grammar: which segments hold a message, numbered from a given index on.
Both directions of the codec are proved against it, the sealing stream in `Proofs.Sealed.Stream`
and the opening loop in `Proofs.Sealed.Opening`.  A segment is known by its nonce and associated
data (`Segment.numbered_inj`), and a run of segments that takes all its members from another one
with the same header is that one (`Numbered.eq_of_forall_mem`).
-/
namespace AvatarVault

/-! ## Joining pieces -/

theorem concatPieces_nil : concatPieces [] = ByteArray.empty := rfl

theorem foldl_append_eq (l : List ByteArray) (b : ByteArray) :
    l.foldl (· ++ ·) b = b ++ concatPieces l := by
  induction l generalizing b with
  | nil => rw [List.foldl_nil, concatPieces_nil, ByteArray.append_empty]
  | cons c l ih =>
    have hc : concatPieces (c :: l) = c ++ concatPieces l := by
      rw [concatPieces, List.foldl_cons, ih, ByteArray.empty_append]
    rw [List.foldl_cons, ih, hc, ByteArray.append_assoc]

theorem concatPieces_cons (piece : ByteArray) (pieces : List ByteArray) :
    concatPieces (piece :: pieces) = piece ++ concatPieces pieces := by
  rw [concatPieces, List.foldl_cons, foldl_append_eq, ByteArray.empty_append]

/-- Where a byte string ends in two pieces, each can be cut out. -/
theorem extract_of_append {b head rest : ByteArray} {start : Nat}
    (h : b.extract start b.size = head ++ rest) (le : start ≤ b.size) :
    b.extract start (start + head.size) = head ∧
      b.extract (start + head.size) b.size = rest := by
  have size : head.size + rest.size = b.size - start := by
    rw [← ByteArray.size_append, ← h, ByteArray.size_extract, Nat.min_self]
  constructor
  · have front : (b.extract start b.size).extract 0 head.size = head := by
      rw [h, ByteArray.extract_append_eq_left rfl]
    rwa [ByteArray.extract_extract, Nat.min_eq_left (by omega), Nat.add_zero] at front
  · have back : (b.extract start b.size).extract head.size (head.size + rest.size) = rest := by
      rw [h, ByteArray.extract_append_eq_right rfl rfl]
    rwa [ByteArray.extract_extract, Nat.min_eq_right (by omega)] at back

/-! ## Lengths -/

/-- The length of a sealed avatar for `n` bytes, with no largest counter in the way. -/
def sealedSize (n : Nat) : Nat := headerSize + n + tagSize * (n / segmentSize + 1)

theorem toNat_toUInt64 {n : Nat} (h : n < 2 ^ 64) : n.toUInt64.toNat = n := by
  rw [Nat.toUInt64, UInt64.toNat_ofNat']
  exact Nat.mod_eq_of_lt h

theorem toUInt64_succ (i : Nat) : (i + 1).toUInt64 = i.toUInt64 + 1 := UInt64.ofNat_add i 1

theorem add_toUInt64_zero (i : UInt64) : i + (0 : Nat).toUInt64 = i := by simp

/-- The segment that is numbered `j + 1` from `i` on is numbered `j` from the next one on. -/
theorem add_toUInt64_succ (i : UInt64) (j : Nat) :
    i + (j + 1).toUInt64 = i + 1 + j.toUInt64 := by
  rw [toUInt64_succ, UInt64.add_comm j.toUInt64, UInt64.add_assoc]

theorem toNat_segmentCount (n : UInt64) :
    (segmentCount n).toNat = n.toNat / segmentSize + 1 := by
  have h := n.toNat_lt
  unfold segmentCount
  rw [UInt64.toNat_add, UInt64.toNat_div]
  simp only [UInt64.reduceToNat, segmentSize]
  omega

/-- The three stops at the largest counter come to one. -/
theorem toNat_ciphertextLength (n : UInt64) :
    (ciphertextLength n).toNat = min (sealedSize n.toNat) (2 ^ 64 - 1) := by
  have h := n.toNat_lt
  unfold ciphertextLength
  rw [toNat_saturatingAdd, toNat_saturatingAdd, toNat_saturatingMul, toNat_segmentCount]
  have header : headerSize.toUInt64.toNat = 24 := rfl
  have tag : tagSize.toUInt64.toNat = 16 := rfl
  rw [header, tag]
  simp only [sealedSize, headerSize, nonceSize, tagSize, segmentSize, UInt64.size]
  omega

/-- Where the sealed length fits a counter, it is the declared one. -/
theorem toNat_ciphertextLength_of_fits {n : Nat} (fits : sealedSize n < 2 ^ 64) :
    (ciphertextLength n.toUInt64).toNat = sealedSize n := by
  have hn : n < 2 ^ 64 := by
    unfold sealedSize at fits
    omega
  rw [toNat_ciphertextLength, toNat_toUInt64 hn]
  omega

/-- A plaintext that a slice can hold has a sealed length that fits a counter. -/
theorem sealedSize_lt {n : Nat} (h : n < 2 ^ 63) : sealedSize n < 2 ^ 64 := by
  simp only [sealedSize, headerSize, nonceSize, tagSize, segmentSize]
  omega

/-! ## Segments -/

/-- A sealed segment, with the nonce and the associated data that it is sealed under. -/
structure Segment where
  nonce : Bytes 24
  data : ByteArray
  text : ByteArray
  deriving DecidableEq

/-- The segment with index `i` under a header. -/
def Segment.numbered (iv : Bytes 24) (i : Nat) (isFinal : Bool) (text : ByteArray) : Segment :=
  { nonce := segmentNonce iv i.toUInt64, data := segmentData i.toUInt64 isFinal, text }

/-- Writing a number in enough bytes and reading it gives the number back. -/
theorem ofLittleEndian_littleEndian (k n : Nat) (h : n < 256 ^ k) :
    ofLittleEndian (littleEndian k n) = n := by
  induction k generalizing n with
  | zero => simp at h; simp [littleEndian, ofLittleEndian, h]
  | succ k ih =>
    have hd : n / 256 < 256 ^ k := by
      apply (Nat.div_lt_iff_lt_mul (by decide)).mpr
      simpa [Nat.pow_succ] using h
    have hb : n.toUInt8.toNat = n % 256 := by simp
    simp only [littleEndian, ofLittleEndian, ih _ hd, hb]
    omega

/-- Two numbers that fit are equal when their bytes are. -/
theorem bigEndian_inj {k m n : Nat} (hm : m < 256 ^ k) (hn : n < 256 ^ k)
    (h : bigEndian k m = bigEndian k n) : m = n := by
  have h' : littleEndian k m = littleEndian k n := List.reverse_inj.mp h
  rw [← ofLittleEndian_littleEndian k m hm, h', ofLittleEndian_littleEndian k n hn]

theorem bytesOfList_inj {l k : List UInt8} (h : bytesOfList l = bytesOfList k) : l = k := by
  have h' := congrArg (fun b : ByteArray => b.data.toList) h
  simpa [bytesOfList] using h'

theorem indexBytes_inj {i j : UInt64} (h : indexBytes i = indexBytes j) : i = j :=
  UInt64.toNat.inj (bigEndian_inj i.toNat_lt j.toNat_lt h)

/-- The associated data tell the index and whether the segment is the last. -/
theorem segmentData_inj {i j : UInt64} {f g : Bool} (h : segmentData i f = segmentData j g) :
    i = j ∧ f = g := by
  have hl := bytesOfList_inj h
  obtain ⟨hi, hf⟩ := List.append_inj hl (by simp [indexBytes])
  refine ⟨indexBytes_inj hi, ?_⟩
  cases f <;> cases g <;> simp_all

theorem xorBytes_inj_left {a b pad : ByteArray} (ha : a.size ≤ pad.size) (hb : b.size ≤ pad.size)
    (h : xorBytes a pad = xorBytes b pad) : a = b := by
  rw [← xorBytes_xorBytes a pad ha, h, xorBytes_xorBytes b pad hb]

theorem front_append_back (b : Bytes 24) : b.val.extract 0 16 ++ b.val.extract 16 24 = b.val := by
  have h : b.val.extract 0 b.val.size = b.val.extract 0 16 ++ b.val.extract 16 b.val.size :=
    ByteArray.extract_eq_extract_append_extract 16 (by omega) (by rw [b.property]; omega)
  rw [ByteArray.extract_zero_size, b.property] at h
  exact h.symm

/-- At one index, the nonce tells the header. -/
theorem segmentNonce_inj_left {iv iv' : Bytes 24} {i : UInt64}
    (h : segmentNonce iv i = segmentNonce iv' i) : iv = iv' := by
  have hb := congrArg Subtype.val h
  simp only [segmentNonce] at hb
  have size (v : Bytes 24) : (v.val.extract 16 24).size ≤ (bytesOfList (indexBytes i)).size := by
    simp [ByteArray.size_extract, v.property, indexBytes]
  have hfront : iv.val.extract 0 16 = iv'.val.extract 0 16 :=
    ByteArray.append_inj_left hb (by simp [ByteArray.size_extract, iv.property, iv'.property])
  rw [hfront, ByteArray.append_right_inj] at hb
  have hback := xorBytes_inj_left (size iv) (size iv') hb
  apply Subtype.ext
  rw [← front_append_back iv, ← front_append_back iv', hfront, hback]

/-- Nonce and associated data together tell header, index and finality. -/
theorem Segment.eq_of_numbered_eq {iv iv' : Bytes 24} {i j : Nat} {f g : Bool} {x y : ByteArray}
    (h : Segment.numbered iv i f x = Segment.numbered iv' j g y) :
    iv = iv' ∧ i.toUInt64 = j.toUInt64 ∧ f = g ∧ x = y := by
  simp only [Segment.numbered, Segment.mk.injEq] at h
  obtain ⟨hn, hd, hx⟩ := h
  obtain ⟨hij, hf⟩ := segmentData_inj hd
  rw [hij] at hn
  exact ⟨segmentNonce_inj_left hn, hij, hf, hx⟩

/-- Below the largest counter, two segments are the same only as the same segment of the same
stream. -/
theorem Segment.numbered_inj {iv iv' : Bytes 24} {i j : Nat} {f g : Bool} {x y : ByteArray}
    (hi : i < 2 ^ 64) (hj : j < 2 ^ 64)
    (h : Segment.numbered iv i f x = Segment.numbered iv' j g y) :
    iv = iv' ∧ i = j ∧ f = g ∧ x = y := by
  obtain ⟨hv, hij, hf, hx⟩ := Segment.eq_of_numbered_eq h
  refine ⟨hv, ?_, hf, hx⟩
  rw [← toNat_toUInt64 hi, hij, toNat_toUInt64 hj]

/-- The texts of the segments, one after another. -/
def joined (segments : List Segment) : ByteArray := concatPieces (segments.map (·.text))

@[simp] theorem joined_nil : joined [] = ByteArray.empty := rfl

@[simp] theorem joined_cons (s : Segment) (l : List Segment) :
    joined (s :: l) = s.text ++ joined l := by
  unfold joined
  rw [List.map_cons, concatPieces_cons]

/-! ## Numbered segments -/

/-- Segments under one header that are numbered from `i` on, of which only the last is marked
as the last. -/
inductive Numbered (iv : Bytes 24) : Nat → List Segment → Prop where
  | last (i : Nat) (text : ByteArray) : Numbered iv i [Segment.numbered iv i true text]
  | next {i : Nat} {segments : List Segment} (text : ByteArray)
      (rest : Numbered iv (i + 1) segments) :
      Numbered iv i (Segment.numbered iv i false text :: segments)

namespace Numbered

variable {iv : Bytes 24} {i : Nat} {segments : List Segment}

theorem ne_nil (h : Numbered iv i segments) : segments ≠ [] := by
  cases h <;> simp

theorem exists_of_mem (h : Numbered iv i segments) {s : Segment} (hs : s ∈ segments) :
    ∃ k f x, i ≤ k ∧ k < i + segments.length ∧ s = Segment.numbered iv k f x := by
  induction h with
  | last i text =>
    rw [List.mem_singleton] at hs
    exact ⟨i, true, text, Nat.le_refl i, by simp, hs⟩
  | @next i segments text rest ih =>
    rcases List.mem_cons.mp hs with hs | hs
    · exact ⟨i, false, text, Nat.le_refl i, by simp, hs⟩
    · obtain ⟨k, f, x, hk, hl, e⟩ := ih hs
      refine ⟨k, f, x, by omega, ?_, e⟩
      rw [List.length_cons]
      omega

/-- Two runs that start at the same index, where the first takes its members from `pool` and
every member of `pool` numbered from there on is in the second.  Then they are the same, whatever
the length of the first: it cannot get past the segment that is marked as the last. -/
theorem eq_of_pool {taken pool : List Segment} (ht : Numbered iv i taken)
    (hs : Numbered iv i segments) (bound : i + segments.length ≤ 2 ^ 64)
    (mem : ∀ s ∈ taken, s ∈ pool)
    (later : ∀ k f x, i ≤ k → k < 2 ^ 64 → Segment.numbered iv k f x ∈ pool →
      Segment.numbered iv k f x ∈ segments) : taken = segments := by
  induction hs generalizing taken with
  | last i text =>
    rw [List.length_singleton] at bound
    have pin : ∀ f x, Segment.numbered iv i f x ∈ taken → f = true ∧ x = text := by
      intro f x h
      have hm := later i f x (Nat.le_refl i) (by omega) (mem _ h)
      rw [List.mem_singleton] at hm
      exact (Segment.numbered_inj (by omega) (by omega) hm).2.2
    cases ht with
    | last _ x =>
      obtain ⟨-, hx⟩ := pin true x (by simp)
      rw [hx]
    | next x rest =>
      obtain ⟨hf, -⟩ := pin false x (by simp)
      simp at hf
  | @next i segments text rest ih =>
    rw [List.length_cons] at bound
    have pin : ∀ f x, Segment.numbered iv i f x ∈ pool → f = false ∧ x = text := by
      intro f x h
      rcases List.mem_cons.mp (later i f x (Nat.le_refl i) (by omega) h) with hm | hm
      · exact (Segment.numbered_inj (by omega) (by omega) hm).2.2
      · -- the members behind the first have larger indices
        obtain ⟨k, g, y, hk, hl, e⟩ := rest.exists_of_mem hm
        have := (Segment.numbered_inj (by omega) (by omega) e).2.1
        omega
    cases ht with
    | last _ x =>
      obtain ⟨hf, -⟩ := pin true x (mem _ (by simp))
      simp at hf
    | @next _ taken x more =>
      obtain ⟨-, hx⟩ := pin false x (mem _ (by simp))
      rw [hx, ih more (by omega) (fun s h => mem s (List.mem_cons_of_mem _ h)) ?_]
      intro k f y hk hl h
      rcases List.mem_cons.mp (later k f y (by omega) hl h) with hm | hm
      · have := (Segment.numbered_inj hl (by omega) hm).2.1
        omega
      · exact hm

/-- A run that takes all its members from another one with the same start is that one. -/
theorem eq_of_forall_mem {taken : List Segment} (ht : Numbered iv i taken)
    (hs : Numbered iv i segments) (bound : i + segments.length ≤ 2 ^ 64)
    (mem : ∀ s ∈ taken, s ∈ segments) : taken = segments :=
  ht.eq_of_pool hs bound mem fun _ _ _ _ _ h => h

end Numbered

/-! ## The segments of a message -/

/-- The segments that hold a message, numbered from `i` on. -/
inductive Sealing (cipher : Aead) (key : Bytes 32) (iv : Bytes 24) :
    Nat → ByteArray → List Segment → Prop where
  /-- Less than a full segment is left, possibly nothing: it makes the last segment. -/
  | last {i : Nat} {message text : ByteArray} (short : message.size < segmentSize)
      (made : cipher.encrypt key (segmentNonce iv i.toUInt64) (segmentData i.toUInt64 true)
        message = some text) :
      Sealing cipher key iv i message [Segment.numbered iv i true text]
  /-- A full segment comes first, and others follow. -/
  | full {i : Nat} {head rest text : ByteArray} {segments : List Segment}
      (size : head.size = segmentSize)
      (made : cipher.encrypt key (segmentNonce iv i.toUInt64) (segmentData i.toUInt64 false)
        head = some text)
      (further : Sealing cipher key iv (i + 1) rest segments) :
      Sealing cipher key iv i (head ++ rest) (Segment.numbered iv i false text :: segments)

namespace Sealing

variable {cipher : Aead} {key : Bytes 32} {iv : Bytes 24} {i : Nat} {message : ByteArray}
  {segments : List Segment}

theorem numbered (h : Sealing cipher key iv i message segments) : Numbered iv i segments := by
  induction h with
  | last short made => exact Numbered.last _ _
  | full size made further ih => exact Numbered.next _ ih

/-- A message of `n` bytes takes `n / 65536 + 1` segments. -/
theorem length (h : Sealing cipher key iv i message segments) :
    segments.length = message.size / segmentSize + 1 := by
  induction h with
  | last short made => rw [List.length_singleton, Nat.div_eq_of_lt short]
  | full size made further ih =>
    rw [List.length_cons, ih, ByteArray.size_append, size]
    simp only [segmentSize]
    omega

/-- The segments are longer than the message by one tag each. -/
theorem size_joined (seals : cipher.Seals segmentSize)
    (h : Sealing cipher key iv i message segments) :
    (joined segments).size = message.size + tagSize * (message.size / segmentSize + 1) := by
  induction h with
  | last short made =>
    rw [joined_cons, joined_nil, ByteArray.append_empty, Nat.div_eq_of_lt short]
    simp only [Segment.numbered]
    rw [seals.size_encrypt _ _ _ _ _ made, Nat.zero_add, Nat.mul_one]
  | full size made further ih =>
    rw [joined_cons, ByteArray.size_append, ByteArray.size_append, ih]
    simp only [Segment.numbered]
    rw [seals.size_encrypt _ _ _ _ _ made, size]
    simp only [segmentSize, tagSize]
    omega

/-- With the header in front they have the length of a sealed avatar. -/
theorem size_sealed (seals : cipher.Seals segmentSize)
    (h : Sealing cipher key iv i message segments) :
    (iv.val ++ joined segments).size = sealedSize message.size := by
  rw [ByteArray.size_append, h.size_joined seals, iv.property]
  simp only [sealedSize, headerSize, nonceSize]
  omega

/-- Two segments hold a full head of the message and what is left. -/
theorem eq_pair (h : Sealing cipher key iv i message segments) (count : segments.length = 2) :
    ∃ head rest first last, message = head ++ rest ∧ head.size = segmentSize ∧
      segments = [Segment.numbered iv i false first, Segment.numbered iv (i + 1) true last] ∧
      cipher.encrypt key (segmentNonce iv i.toUInt64) (segmentData i.toUInt64 false) head
        = some first ∧
      cipher.encrypt key (segmentNonce iv (i + 1).toUInt64) (segmentData (i + 1).toUInt64 true) rest
        = some last := by
  cases h with
  | last short made => cases count
  | full size made further =>
    cases further with
    | last short made' => exact ⟨_, _, _, _, rfl, size, rfl, made, made'⟩
    | full size' made' more =>
      exact absurd (List.length_eq_zero_iff.mp (by simpa using count)) more.numbered.ne_nil

end Sealing

/-- A message that is long enough starts with a full segment. -/
theorem exists_full_front {message : ByteArray} (h : segmentSize ≤ message.size) :
    ∃ head rest, message = head ++ rest ∧ head.size = segmentSize := by
  refine ⟨message.extract 0 segmentSize, message.extract segmentSize message.size, ?_, ?_⟩
  · rw [← ByteArray.extract_eq_extract_append_extract segmentSize (Nat.zero_le _) h,
      ByteArray.extract_zero_size]
  · rw [ByteArray.size_extract]
    omega

theorem Aead.Seals.exists_encrypt {c : Aead} {limit : Nat} (seals : c.Seals limit) (k : Bytes 32)
    (n : Bytes 24) (a : ByteArray) {m : ByteArray} (h : m.size ≤ limit) :
    ∃ text, c.encrypt k n a m = some text :=
  Option.isSome_iff_exists.mp (seals.encrypt_isSome k n a m h)

/-- Every message has its segments. -/
theorem exists_sealing {cipher : Aead} (seals : cipher.Seals segmentSize) (key : Bytes 32)
    (iv : Bytes 24) (i : Nat) (message : ByteArray) :
    ∃ segments, Sealing cipher key iv i message segments := by
  induction hn : message.size using Nat.strongRecOn generalizing i message with
  | _ n ih =>
    by_cases short : message.size < segmentSize
    · obtain ⟨text, made⟩ := seals.exists_encrypt key (segmentNonce iv i.toUInt64)
        (segmentData i.toUInt64 true) (Nat.le_of_lt short)
      exact ⟨_, Sealing.last short made⟩
    · obtain ⟨head, rest, rfl, size⟩ := exists_full_front (Nat.le_of_not_lt short)
      obtain ⟨text, made⟩ := seals.exists_encrypt key (segmentNonce iv i.toUInt64)
        (segmentData i.toUInt64 false) (Nat.le_of_eq size)
      have less : rest.size < n := by
        rw [← hn, ByteArray.size_append, size]
        simp only [segmentSize]
        omega
      obtain ⟨segments, further⟩ := ih rest.size less (i + 1) rest rfl
      exact ⟨_, Sealing.full size made further⟩

end AvatarVault
