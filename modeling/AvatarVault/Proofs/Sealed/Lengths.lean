import AvatarVault.Proofs.Sealed.Foreign
/-!
The lengths of sealed avatars.  What is declared for a plaintext is one exact number, cut off at the
largest counter (`toNat_ciphertextLength`), and grows with the plaintext.  Header and tags leave
gaps between the lengths that occur (`exists_sealedSize_iff`), and the texts that have one of them
are those through which the opening loop walks to a segment that is marked as the last, if nothing
else stops it (`AllAuthentic.walksThrough`, `AllAuthentic.reachesLast_iff`).  These are also the
texts that open then (`AllAuthentic.reachesLast_iff_opens`).
-/
namespace AvatarVault

/-! ## Lengths in exact integers -/

section Exact

variable {n m length : Nat}

theorem sealedSize_eq (n : Nat) : sealedSize n = 24 + n + 16 * (n / 65536 + 1) := rfl

theorem sealedSize_lt_sealedSize (lt : m < n) : sealedSize m < sealedSize n := by
  rw [sealedSize_eq, sealedSize_eq]
  omega

theorem sealedSize_le_sealedSize (le : m ≤ n) : sealedSize m ≤ sealedSize n := by
  rw [sealedSize_eq, sealedSize_eq]
  omega

/-- The full segments of a sealed avatar and the bytes of its last one. -/
theorem sealedSize_segments (n : Nat) :
    40 ≤ sealedSize n ∧ (sealedSize n - 24) / 65552 = n / 65536 ∧
      (sealedSize n - 24) % 65552 = n % 65536 + 16 := by
  rw [sealedSize_eq]
  omega

/-- A length occurs exactly if a header and tags fit, and behind the full segments there is room
for the tag of another one. -/
theorem exists_sealedSize_iff :
    (∃ n, sealedSize n = length) ↔ 40 ≤ length ∧ 16 ≤ (length - 24) % 65552 := by
  constructor
  · rintro ⟨n, rfl⟩
    obtain ⟨room, -, last⟩ := sealedSize_segments n
    omega
  · rintro ⟨room, fits⟩
    refine ⟨65536 * ((length - 24) / 65552) + ((length - 24) % 65552 - 16), ?_⟩
    rw [sealedSize_eq]
    omega

end Exact

/-! ## Declared lengths -/

section Declared

variable {m n : UInt64}

theorem ciphertextLength_le (le : m ≤ n) : ciphertextLength m ≤ ciphertextLength n := by
  have grown := sealedSize_le_sealedSize (UInt64.le_iff_toNat_le.mp le)
  rw [UInt64.le_iff_toNat_le, toNat_ciphertextLength, toNat_ciphertextLength]
  omega

theorem ciphertextLength_lt (lt : m < n) (below : (ciphertextLength m).toNat < 2 ^ 64 - 1) :
    ciphertextLength m < ciphertextLength n := by
  have grown := sealedSize_lt_sealedSize (UInt64.lt_iff_toNat_lt.mp lt)
  rw [toNat_ciphertextLength] at below
  rw [UInt64.lt_iff_toNat_lt, toNat_ciphertextLength, toNat_ciphertextLength]
  omega

theorem ciphertextLength_inj (below : (ciphertextLength m).toNat < 2 ^ 64 - 1)
    (same : ciphertextLength m = ciphertextLength n) : m = n := by
  rcases Nat.lt_trichotomy m.toNat n.toNat with lt | equal | lt
  · have grown := ciphertextLength_lt (UInt64.lt_iff_toNat_lt.mpr lt) below
    rw [same] at grown
    exact absurd grown (UInt64.lt_irrefl _)
  · exact UInt64.toNat_inj.mp equal
  · have grown := ciphertextLength_lt (UInt64.lt_iff_toNat_lt.mpr lt) (same ▸ below)
    rw [same] at grown
    exact absurd grown (UInt64.lt_irrefl _)

/-- Below the largest counter nothing is cut off. -/
theorem toNat_ciphertextLength_eq_iff {length : Nat} (below : length < 2 ^ 64 - 1) :
    (ciphertextLength n).toNat = length ↔ sealedSize n.toNat = length := by
  rw [toNat_ciphertextLength]
  omega

/-- The lengths below the largest counter that are declared for some plaintext. -/
theorem exists_ciphertextLength_iff {length : Nat} (below : length < 2 ^ 64 - 1) :
    (∃ n : UInt64, (ciphertextLength n).toNat = length) ↔
      40 ≤ length ∧ 16 ≤ (length - 24) % 65552 := by
  rw [← exists_sealedSize_iff]
  constructor
  · rintro ⟨n, declared⟩
    exact ⟨n.toNat, (toNat_ciphertextLength_eq_iff below).mp declared⟩
  · rintro ⟨n, rfl⟩
    exact ⟨n.toUInt64, toNat_ciphertextLength_of_fits (by omega)⟩

end Declared

/-! ## The walk through a text -/

section Walk

variable {cipher : Aead} {key : ProfileKey} {text : ByteArray}

/-- Whether each segment that the loop tries authenticates. -/
def AllAuthentic (cipher : Aead) (key : ProfileKey) (text : ByteArray) : Prop :=
  ∀ s ∈ (openRun cipher text key).tried, (s.open? cipher key.bytes).isSome

/-- Whether the loop comes to a segment that it tries as the last one. -/
def ReachesLast (cipher : Aead) (key : ProfileKey) (text : ByteArray) : Prop :=
  ∃ s ∈ (openRun cipher text key).tried, ∃ index, s.data = segmentData index true

/-- The loop goes through a text as through the sealed avatar of `n` bytes, to the last segment. -/
structure WalksThrough (cipher : Aead) (key : ProfileKey) (text : ByteArray) (n : UInt64) :
    Prop where
  count : (openRun cipher text key).tried.length = (segmentCount n).toNat
  /-- The segment tried at the end is marked as the last and has what the full ones leave over. -/
  last : ∃ s, (openRun cipher text key).tried.getLast? = some s ∧
    s.data = segmentData (segmentCount n - 1) true ∧ s.text.size = n.toNat % 65536 + 16
  opens : ∃ plaintext, openAvatar cipher text key = .ok plaintext

/-- Where too few bytes are left for a last segment, all segments that are due are full ones. -/
theorem data_of_due {iv : Bytes 24} {i : Nat} (room : headerSize + tagSize ≤ text.size)
    (short : overhang text < tagSize) (due : i < segmentsDue text) :
    (Segment.ofText iv text i).data = segmentData i.toUInt64 false := by
  have full : fullSegment ≤ (pieceAt text i).size := by
    rw [size_pieceAt]
    rcases Reached.cases room (Or.inl due) with ⟨-, -, more⟩ | ⟨-, fits, -⟩ | ⟨done, -⟩
    · omega
    · omega
    · omega
  rw [Segment.ofText, decide_eq_false (Nat.not_lt.mpr full)]
  rfl

/-- Where all segments authenticate, the loop goes on until it has no room for another segment, or
to the end of the last one. -/
theorem AllAuthentic.cases (authentic : AllAuthentic cipher key text)
    (long : ¬ text.size < headerSize + tagSize) :
    (overhang text < tagSize ∧
        (openRun cipher text key).tried
          = segmentsFrom (headerOf text long) text 0 (segmentsDue text) ∧
        ∀ plaintext, openAvatar cipher text key ≠ .ok plaintext) ∨
      (tagSize ≤ overhang text ∧
        (openRun cipher text key).tried
          = segmentsFrom (headerOf text long) text 0 (fullSegments text + 1) ∧
        ∃ plaintext, openAvatar cipher text key = .ok plaintext) := by
  have verdict : Verdict cipher key.bytes (headerOf text long) text 0 _ (openRun cipher text key) :=
    openRun_verdict long
  unfold AllAuthentic at authentic
  rw [← openRun_result]
  generalize openRun cipher text key = run at verdict authentic ⊢
  cases verdict with
  | unauthentic j le due before fails =>
    refine absurd (authentic (Segment.ofText (headerOf text long) text j) ?_) fails
    rw [segmentsFrom_zero]
    exact List.mem_map_of_mem (List.mem_range.mpr (Nat.lt_succ_self j))
  | truncated short all => exact .inl ⟨short, rfl, nofun⟩
  | whole messages fits all => exact .inr ⟨fits, by rw [segmentsDue_of_fits fits], _, rfl⟩

theorem overhang_eq : overhang text = (text.size - 24) % 65552 := rfl

theorem fullSegments_eq : fullSegments text = (text.size - 24) / 65552 := rfl

/-- The segment behind the full ones is tried as the last one. -/
theorem ofText_fullSegments (iv : Bytes 24) (room : headerSize + tagSize ≤ text.size) :
    (Segment.ofText iv text (fullSegments text)).data
        = segmentData (fullSegments text).toUInt64 true ∧
      (Segment.ofText iv text (fullSegments text)).text.size = overhang text := by
  have small := overhang_lt text
  have left := left_eq (i := fullSegments text) (Nat.le_of_add_right_le room) (Nat.le_refl _)
  rw [Nat.sub_self, Nat.mul_zero, Nat.zero_add] at left
  have size : (pieceAt text (fullSegments text)).size = overhang text := by
    rw [size_pieceAt, left]
    omega
  rw [Segment.ofText, size, decide_eq_true small]
  exact ⟨rfl, size⟩

/-- Through a text of the length of a sealed avatar the loop walks as through one. -/
theorem AllAuthentic.walksThrough (authentic : AllAuthentic cipher key text) {n : UInt64}
    (below : text.size < 2 ^ 64 - 1) (length : (ciphertextLength n).toNat = text.size) :
    WalksThrough cipher key text n := by
  have exact_length := (toNat_ciphertextLength_eq_iff below).mp length
  obtain ⟨room, segments, last⟩ := sealedSize_segments n.toNat
  rw [exact_length] at room segments last
  have long : ¬ text.size < headerSize + tagSize := Nat.not_lt.mpr room
  rw [← fullSegments_eq] at segments
  rw [← overhang_eq] at last
  have counted : (segmentCount n).toNat = fullSegments text + 1 := by
    rw [toNat_segmentCount, segments]
    rfl
  have index : segmentCount n - 1 = (fullSegments text).toUInt64 := by
    rw [segments, segmentCount, UInt64.add_sub_cancel, ← UInt64.toNat_inj, UInt64.toNat_div,
      toNat_toUInt64 (Nat.lt_of_le_of_lt (Nat.div_le_self _ _) n.toNat_lt)]
    rfl
  rcases authentic.cases long with ⟨short, -, -⟩ | ⟨-, tried, opens⟩
  · simp only [tagSize] at short
    omega
  · obtain ⟨marked, size⟩ := ofText_fullSegments (headerOf text long) room
    rw [segmentsFrom_zero] at tried
    refine ⟨?_, ⟨Segment.ofText (headerOf text long) text (fullSegments text), ?_, ?_, ?_⟩, opens⟩
    · rw [tried, List.length_map, List.length_range, counted]
    · rw [tried, List.range_succ, List.map_append, List.map_singleton, List.getLast?_concat]
    · rw [marked, index]
    · rw [size, last]

/-- If all segments authenticate, the loop comes to a last one exactly where there is room for its
tag. -/
theorem AllAuthentic.reachesLast_iff_fits (authentic : AllAuthentic cipher key text)
    (long : ¬ text.size < headerSize + tagSize) :
    ReachesLast cipher key text ↔ tagSize ≤ overhang text := by
  have room : headerSize + tagSize ≤ text.size := Nat.le_of_not_lt long
  rcases authentic.cases long with ⟨few, tried, -⟩ | ⟨fits, tried, -⟩
  · refine ⟨?_, fun fits => absurd fits (Nat.not_le.mpr few)⟩
    rintro ⟨s, mem, index, marked⟩
    rw [tried, segmentsFrom_zero] at mem
    obtain ⟨i, due, rfl⟩ := List.mem_map.mp mem
    rw [data_of_due room few (List.mem_range.mp due)] at marked
    cases (segmentData_inj marked).2
  · refine ⟨fun _ => fits, fun _ => ?_⟩
    refine ⟨Segment.ofText (headerOf text long) text (fullSegments text), ?_, _,
      (ofText_fullSegments _ room).1⟩
    rw [tried, segmentsFrom_zero]
    exact List.mem_map_of_mem (List.mem_range.mpr (Nat.lt_succ_self _))

/-- No text too short for a header and a tag has a last segment. -/
theorem not_reachesLast (short : text.size < headerSize + tagSize) :
    ¬ ReachesLast cipher key text := by
  rintro ⟨s, mem, -⟩
  rw [openRun_of_short short] at mem
  exact absurd mem List.not_mem_nil

/-- If all segments authenticate, the loop comes to a last one exactly for the lengths of sealed
avatars. -/
theorem AllAuthentic.reachesLast_iff (authentic : AllAuthentic cipher key text) :
    ReachesLast cipher key text ↔ 40 ≤ text.size ∧ 16 ≤ (text.size - 24) % 65552 := by
  by_cases short : text.size < headerSize + tagSize
  · exact iff_of_false (not_reachesLast short) fun sealing => absurd sealing.1 (Nat.not_le.mpr short)
  · rw [authentic.reachesLast_iff_fits short]
    exact ⟨fun fits => ⟨Nat.le_of_not_lt short, fits⟩, And.right⟩

/-- It comes to a last one exactly where the text opens. -/
theorem AllAuthentic.reachesLast_iff_opens (authentic : AllAuthentic cipher key text) :
    ReachesLast cipher key text ↔ ∃ plaintext, openAvatar cipher text key = .ok plaintext := by
  by_cases short : text.size < headerSize + tagSize
  · refine iff_of_false (not_reachesLast short) ?_
    rw [← openRun_result, openRun_of_short short]
    simp
  · rw [authentic.reachesLast_iff_fits short]
    rcases authentic.cases short with ⟨few, -, closed⟩ | ⟨fits, -, opens⟩
    · exact iff_of_false (Nat.not_le.mpr few) fun ⟨plaintext, opens⟩ => closed plaintext opens
    · exact iff_of_true fits opens

end Walk

/-- **The lengths of sealed avatars.**  The length that is declared for a plaintext is the exact one,
cut off at the largest counter, and neither the segments nor their tags are too many for a counter.
It grows with the plaintext, and below the largest counter it tells the plaintext's length.  The
lengths that occur there are those that have room for a header and a tag and for another tag behind
the full segments.  Exactly at these the opening loop comes to a last segment, if all segments that
it tries authenticate, and then it goes through as many segments as are declared, the last one as
long as what the full ones leave over.  The segments that it tries are what opening asks of the
cipher; how the opening ends tells whether all of them authenticate, and then whether the loop came
to a last one. -/
theorem sealed_lengths_exact (cipher : Aead) :
    (∀ n : UInt64,
      (segmentCount n).toNat = n.toNat / 65536 + 1 ∧
      (saturatingMul (segmentCount n) tagSize.toUInt64).toNat = 16 * (n.toNat / 65536 + 1) ∧
      (saturatingAdd headerSize.toUInt64 n).toNat = min (2 ^ 64 - 1) (24 + n.toNat) ∧
      (ciphertextLength n).toNat
        = min (2 ^ 64 - 1) (24 + n.toNat + 16 * (n.toNat / 65536 + 1))) ∧
    (∀ m n : UInt64, m ≤ n → ciphertextLength m ≤ ciphertextLength n) ∧
    (∀ m n : UInt64, (ciphertextLength m).toNat < 2 ^ 64 - 1 →
      (m < n → ciphertextLength m < ciphertextLength n) ∧
        (ciphertextLength m = ciphertextLength n → m = n)) ∧
    (∀ length : Nat, length < 2 ^ 64 - 1 →
      ((∃ n : UInt64, (ciphertextLength n).toNat = length) ↔
        40 ≤ length ∧ 16 ≤ (length - 24) % 65552)) ∧
    (∀ (key : ProfileKey) (text : ByteArray), text.size < 2 ^ 64 - 1 →
      AllAuthentic cipher key text →
      (ReachesLast cipher key text ↔ 40 ≤ text.size ∧ 16 ≤ (text.size - 24) % 65552) ∧
        ∀ n : UInt64, (ciphertextLength n).toNat = text.size →
          WalksThrough cipher key text n) ∧
    ∀ (key : ProfileKey) (text : ByteArray),
      AsksInTurn cipher key text (openRun cipher text key).tried ∧
      (AllAuthentic cipher key text ↔
        ∀ i, openAvatar cipher text key ≠ .error (.unauthentic i)) ∧
      (AllAuthentic cipher key text →
        (ReachesLast cipher key text ↔
          ∃ plaintext, openAvatar cipher text key = .ok plaintext)) := by
  refine ⟨fun n => ⟨toNat_segmentCount n, ?_, ?_, ?_⟩, fun m n => ciphertextLength_le,
    fun m n below => ⟨fun lt => ciphertextLength_lt lt below, ciphertextLength_inj below⟩,
    fun length => exists_ciphertextLength_iff,
    fun key text below authentic =>
      ⟨authentic.reachesLast_iff, fun n length => authentic.walksThrough below length⟩,
    fun key text => ⟨asksInTurn_openRun cipher key text, openRun_authentic_iff,
      AllAuthentic.reachesLast_iff_opens⟩⟩
  · have small := n.toNat_lt
    have tag : tagSize.toUInt64.toNat = 16 := rfl
    rw [toNat_saturatingMul, toNat_segmentCount, tag]
    simp only [segmentSize, UInt64.size]
    omega
  · rw [toNat_saturatingAdd]
    exact Nat.min_comm _ _
  · rw [toNat_ciphertextLength, sealedSize_eq]
    exact Nat.min_comm _ _

/-- A plaintext of one full segment: its sealed avatar has an empty last segment, and there is none
with a single full segment and nothing behind it. -/
theorem sealed_lengths_exact_one_full :
    ∃ text : ByteArray, text.size < 2 ^ 64 - 1 ∧
      AllAuthentic XChaCha20Poly1305.aead exampleKey text ∧
      (ciphertextLength 65536).toNat = text.size ∧
      WalksThrough XChaCha20Poly1305.aead exampleKey text 65536 ∧
      (65535 : UInt64) ≤ 65536 ∧ (ciphertextLength 65535).toNat < 2 ^ 64 - 1 ∧
      ciphertextLength 65535 < ciphertextLength 65536 ∧
      ¬ ∃ n : UInt64, (ciphertextLength n).toNat = 65576 := by
  have laws := xchacha_lawful
  obtain ⟨segments, sealing, -⟩ := exists_sealed laws.toSeals (replicateByte 65536 1) exampleKey
    exampleHeader (by rw [size_replicateByte]; decide)
  have opening := sealing.opening laws.toSeals laws.toOpens
  have length : (ciphertextLength 65536).toNat
      = (exampleHeader.val ++ joined segments).size := by
    rw [sealing.size_sealed laws.toSeals, size_replicateByte]
    rfl
  have below : (exampleHeader.val ++ joined segments).size < 2 ^ 64 - 1 := by
    rw [← length]
    decide
  have authentic : AllAuthentic XChaCha20Poly1305.aead exampleKey
      (exampleHeader.val ++ joined segments) := by
    intro s mem
    rw [openRun_of_opening opening] at mem
    exact opening.authentic mem
  have shorter : (ciphertextLength 65535).toNat < 2 ^ 64 - 1 := by decide
  obtain ⟨-, -, grows, occurs, walks, -⟩ := sealed_lengths_exact XChaCha20Poly1305.aead
  exact ⟨_, below, authentic, length, (walks _ _ below authentic).2 65536 length, by decide,
    shorter, (grows _ _ shorter).1 (by decide), mt (occurs 65576 (by decide)).mp (by decide)⟩

end AvatarVault
