import AvatarVault.Proofs.Sealed.Slices
import AvatarVault.Proofs.Sealed.Verdict
/-!
What is told of every text that is handed in to be opened, sealed or not.  The ways in which the
loop can end exclude one another, so each error is reported exactly where its way is taken
(`Verdict.classified`, `openAvatar_classified`).
-/
namespace AvatarVault

/-! ## Which error is reported -/

/-- What is told of a text that has room for a header and a tag, and the segments that are tried for
it: which of the ways is taken depends on the length and on which segments authenticate. -/
structure Classified (cipher : Aead) (key : Bytes 32) (iv : Bytes 24) (text : ByteArray)
    (tried : List Segment) (told : Except UploadError ByteArray) : Prop where
  /-- The segments are tried in turn. -/
  inTurn : tried = (List.range tried.length).map (Segment.ofText iv text)
  /-- A segment is tried if it is due and those before it authenticate. -/
  reached : ∀ i, i < tried.length ↔
    i < segmentsDue text ∧ ∀ k < i, OpensAt cipher key iv text k
  /-- The first segment that does not authenticate is named. -/
  unauthentic : ∀ i : Nat,
    told = .error (.key s!"segment {i} failed authentication: wrong key or corrupted data") ↔
      i < segmentsDue text ∧ (∀ k < i, OpensAt cipher key iv text k) ∧
        ¬ OpensAt cipher key iv text i
  /-- Too few bytes behind the last full segment are reported where all before that one
  authenticate. -/
  truncated : ∀ i : Nat,
    told = .error (.validation s!"sealed avatar truncated after segment {i}") ↔
      overhang text < tagSize ∧ i + 1 = fullSegments text ∧
        ∀ k < i, OpensAt cipher key iv text k
  /-- A plaintext is what all the segments open to, the last one included. -/
  whole : ∀ plaintext, told = .ok plaintext ↔
    tagSize ≤ overhang text ∧ ∃ messages : List ByteArray,
      (List.range (fullSegments text + 1)).map
          (fun i => (Segment.ofText iv text i).open? cipher key) = messages.map some ∧
        plaintext = concatPieces messages
  /-- Nothing else is told. -/
  exhaustive : (∃ plaintext, told = .ok plaintext) ∨
    (∃ i : Nat, told
      = .error (.key s!"segment {i} failed authentication: wrong key or corrupted data")) ∨
    ∃ i : Nat, told = .error (.validation s!"sealed avatar truncated after segment {i}")

section Classes

variable {cipher : Aead} {key : Bytes 32} {iv : Bytes 24} {text : ByteArray} {i n : Nat}

theorem segmentsFrom_zero :
    segmentsFrom iv text 0 n = (List.range n).map (Segment.ofText iv text) := by
  rw [segmentsFrom, Nat.sub_zero, List.range_eq_range']

/-- Where each of the segments gives a message, each of them authenticates. -/
theorem opensAt_of_messages {messages : List ByteArray} (lt : i < n)
    (all : (List.range n).map (fun i => (Segment.ofText iv text i).open? cipher key)
      = messages.map some) : OpensAt cipher key iv text i := by
  have mem : (Segment.ofText iv text i).open? cipher key ∈ messages.map some := by
    rw [← all]
    exact List.mem_map_of_mem (List.mem_range.mpr lt)
  obtain ⟨message, -, made⟩ := List.mem_map.mp mem
  rw [OpensAt, ← made, Option.isSome_some]

theorem segmentsDue_le (room : headerSize + tagSize ≤ text.size) :
    segmentsDue text ≤ text.size := by
  have full : fullSegments text ≤ text.size - headerSize := Nat.div_le_self _ _
  rw [segmentsDue]
  split
  all_goals
    simp only [headerSize, nonceSize, tagSize] at *
    omega

/-- A number in an error text is known by its digits. -/
theorem number_eq_of_repr {m n : Nat} (h : m.repr = n.repr) : m = n := by
  have digits : Nat.toDigits 10 m = Nat.toDigits 10 n := by
    rw [← Nat.toList_repr, h, Nat.toList_repr]
  rw [← Nat.ofDigitChars_toDigits (b := 10) (n := m) (by decide) (by decide), digits,
    Nat.ofDigitChars_toDigits (by decide) (by decide)]

/-- There is one first segment that does not authenticate. -/
theorem first_unique {j : Nat} (before : ∀ k < j, OpensAt cipher key iv text k)
    (fails : ¬ OpensAt cipher key iv text j) (earlier : ∀ k < i, OpensAt cipher key iv text k)
    (too : ¬ OpensAt cipher key iv text i) : i = j := by
  rcases Nat.lt_trichotomy i j with lt | rfl | lt
  · exact absurd (before i lt) too
  · rfl
  · exact absurd (earlier j lt) fails

theorem unauthentic_toUploadError (h : i < 2 ^ 64) :
    (OpenFailure.unauthentic i.toUInt64).toUploadError
      = .key s!"segment {i} failed authentication: wrong key or corrupted data" := by
  rw [OpenFailure.toUploadError, toNat_toUInt64 h]

theorem truncated_toUploadError (h : i < 2 ^ 64) :
    (OpenFailure.truncated i.toUInt64).toUploadError
      = .validation s!"sealed avatar truncated after segment {i}" := by
  rw [OpenFailure.toUploadError, toNat_toUInt64 h]

/-- The loop stopped at segment `j`, which does not authenticate. -/
theorem classified_unauthentic {j : Nat} (counted : j < 2 ^ 64) (due : j < segmentsDue text)
    (before : ∀ k < j, OpensAt cipher key iv text k) (fails : ¬ OpensAt cipher key iv text j) :
    Classified cipher key iv text (segmentsFrom iv text 0 (j + 1))
      (.error (OpenFailure.unauthentic j.toUInt64).toUploadError) := by
  rw [unauthentic_toUploadError counted, segmentsFrom_zero]
  refine ⟨by simp, fun i => ?_, fun i => ?_, fun i => ?_, fun plaintext => ?_,
    Or.inr (Or.inl ⟨j, rfl⟩)⟩
  · rw [List.length_map, List.length_range]
    constructor
    · intro lt
      exact ⟨by omega, fun k early => before k (by omega)⟩
    · rintro ⟨-, earlier⟩
      refine Nat.lt_succ_of_le (Nat.le_of_not_lt fun later => ?_)
      exact fails (earlier j later)
  · constructor
    · intro told
      obtain rfl : j = i := number_eq_of_repr (by simpa using told)
      exact ⟨due, before, fails⟩
    · rintro ⟨-, earlier, too⟩
      rw [first_unique before fails earlier too]
  · constructor
    · intro told
      simp at told
    · rintro ⟨short, place, earlier⟩
      refine absurd (earlier j ?_) fails
      rw [segmentsDue, if_pos short] at due
      omega
  · constructor
    · intro told
      simp at told
    · rintro ⟨fits, messages, all, -⟩
      rw [segmentsDue_of_fits fits] at due
      exact absurd (opensAt_of_messages due all) fails

/-- The loop stopped behind the segments that are due, without a last one. -/
theorem classified_truncated (counted : segmentsDue text < 2 ^ 64)
    (room : headerSize + tagSize ≤ text.size) (short : overhang text < tagSize)
    (all : ∀ k < segmentsDue text, OpensAt cipher key iv text k) :
    Classified cipher key iv text (segmentsFrom iv text 0 (segmentsDue text))
      (.error (OpenFailure.truncated (segmentsDue text).toUInt64).toUploadError) := by
  rw [truncated_toUploadError counted, segmentsFrom_zero]
  have due := segmentsDue_of_short room short
  refine ⟨by simp, fun i => ?_, fun i => ?_, fun i => ?_, fun plaintext => ?_,
    Or.inr (Or.inr ⟨segmentsDue text, rfl⟩)⟩
  · rw [List.length_map, List.length_range]
    exact ⟨fun lt => ⟨lt, fun k early => all k (by omega)⟩, fun h => h.1⟩
  · constructor
    · intro told
      simp at told
    · rintro ⟨lt, -, fails⟩
      exact absurd (all i lt) fails
  · constructor
    · intro told
      obtain rfl : segmentsDue text = i := number_eq_of_repr (by simpa using told)
      exact ⟨short, due, all⟩
    · rintro ⟨-, place, -⟩
      obtain rfl : segmentsDue text = i := by omega
      rfl
  · constructor
    · intro told
      simp at told
    · rintro ⟨fits, -⟩
      omega

/-- The loop came to the end of the last segment. -/
theorem classified_whole {messages : List ByteArray} (fits : tagSize ≤ overhang text)
    (all : (segmentsFrom iv text 0 (segmentsDue text)).map (·.open? cipher key)
      = messages.map some) :
    Classified cipher key iv text (segmentsFrom iv text 0 (segmentsDue text))
      (.ok (concatPieces messages)) := by
  rw [segmentsFrom_zero, List.map_map] at all
  rw [segmentsFrom_zero]
  have due := segmentsDue_of_fits fits
  refine ⟨by simp, fun i => ?_, fun i => ?_, fun i => ?_, fun plaintext => ?_,
    Or.inl ⟨_, rfl⟩⟩
  · rw [List.length_map, List.length_range]
    exact ⟨fun lt => ⟨lt, fun k early => opensAt_of_messages (by omega) all⟩, fun h => h.1⟩
  · constructor
    · intro told
      simp at told
    · rintro ⟨lt, -, fails⟩
      exact absurd (opensAt_of_messages lt all) fails
  · constructor
    · intro told
      simp at told
    · rintro ⟨short, -⟩
      omega
  · rw [← due]
    constructor
    · intro told
      simp only [Except.ok.injEq] at told
      exact ⟨fits, messages, all, told.symm⟩
    · rintro ⟨-, others, same, rfl⟩
      have equal : messages.map some = others.map some := all.symm.trans same
      rw [List.map_inj_right (fun _ _ => Option.some.inj) |>.mp equal]

theorem Verdict.classified (counted : text.size < 2 ^ 64)
    (room : headerSize + tagSize ≤ text.size) {run : OpenRun}
    (h : Verdict cipher key iv text 0 ByteArray.empty run) :
    Classified cipher key iv text run.tried (run.result.mapError OpenFailure.toUploadError) := by
  have few := segmentsDue_le room
  cases h with
  | unauthentic j le due before fails =>
    exact classified_unauthentic (by omega) due (fun k => before k (Nat.zero_le k)) fails
  | truncated short all =>
    exact classified_truncated (by omega) room short fun k => all k (Nat.zero_le k)
  | whole messages fits all =>
    rw [Except.mapError, ByteArray.empty_append]
    exact classified_whole fits all

end Classes

/-! ## Every text -/

theorem zero_reached {text : ByteArray} : Reached text 0 := by
  unfold Reached
  rcases Nat.lt_or_ge (overhang text) tagSize with short | fits
  · omega
  · have due := segmentsDue_of_fits fits
    omega

/-- The two errors of framing differ. -/
theorem tooShort_ne_truncated (n i : Nat) :
    s!"sealed avatar too short: {n} bytes (minimum {headerSize + tagSize})"
      ≠ s!"sealed avatar truncated after segment {i}" := by
  intro h
  have behind := congrArg (fun t : String => t.toList.drop 15) h
  simp [toString] at behind

section Every

variable {cipher : Aead} {text : ByteArray} {key : ProfileKey}

/-- The run on a text with room for a header and a tag ends in one of the ways. -/
theorem openRun_verdict (long : ¬ text.size < headerSize + tagSize) :
    Verdict cipher key.bytes (headerOf text long) text 0 ByteArray.empty
      (openRun cipher text key) := by
  rw [openRun_of_long long]
  exact openRunFrom_verdict (Nat.le_of_not_lt long) zero_reached

/-- No segment is shorter than its tag. -/
theorem openAvatar_ne_noTag (index : UInt64) (size : Nat) :
    openAvatar cipher text key ≠ .error (.noTag index size) := by
  rw [← openRun_result]
  by_cases short : text.size < headerSize + tagSize
  · simp [openRun_of_short short]
  · have verdict : Verdict cipher key.bytes _ text 0 _ (openRun cipher text key) :=
      openRun_verdict short
    generalize openRun cipher text key = run at verdict ⊢
    cases verdict <;> simp

/-- **What opening makes of every text**, sealed or not, under every key.  It is too short, or its
length and the segments that authenticate decide what is told.  Opening takes at most one round more
than there are full segments, each slice is in range, and no segment is shorter than its tag. -/
theorem openAvatar_classified (cipher : Aead) (text : ByteArray) (key : ProfileKey)
    (counted : text.size < 2 ^ 64) :
    (∀ n : Nat, (openAvatar cipher text key).mapError OpenFailure.toUploadError
        = .error (.validation
            s!"sealed avatar too short: {n} bytes (minimum {headerSize + tagSize})") ↔
      n = text.size ∧ text.size < headerSize + tagSize) ∧
    (∀ long : ¬ text.size < headerSize + tagSize,
      Classified cipher key.bytes (headerOf text long) text (openRun cipher text key).tried
        ((openAvatar cipher text key).mapError OpenFailure.toUploadError)) ∧
    openSlices cipher text key (fullSegments text + 1) = some (openAvatar cipher text key) ∧
    ∀ index size, openAvatar cipher text key ≠ .error (.noTag index size) := by
  have classified (long : ¬ text.size < headerSize + tagSize) :
      Classified cipher key.bytes (headerOf text long) text (openRun cipher text key).tried
        ((openAvatar cipher text key).mapError OpenFailure.toUploadError) := by
    rw [← openRun_result]
    exact (openRun_verdict long).classified counted (Nat.le_of_not_lt long)
  refine ⟨fun n => ?_, classified, openSlices_eq cipher text key, openAvatar_ne_noTag⟩
  constructor
  · intro told
    by_cases short : text.size < headerSize + tagSize
    · rw [openAvatar, dif_pos short] at told
      have same : text.size = n := number_eq_of_repr (by
        simpa [Except.mapError, OpenFailure.toUploadError] using told)
      exact ⟨same.symm, short⟩
    · rcases (classified short).exhaustive with ⟨_, other⟩ | ⟨i, other⟩ | ⟨i, other⟩
      all_goals rw [told] at other
      · simp at other
      · simp at other
      · simp only [Except.error.injEq, UploadError.validation.injEq] at other
        exact absurd other (tooShort_ne_truncated n i)
  · rintro ⟨rfl, short⟩
    rw [openAvatar, dif_pos short]
    rfl

end Every

/-- A full segment that authenticates, and 65560 bytes behind it: the loop stops without a last one,
after a segment that it never looks at. -/
theorem openAvatar_classified_eight_over :
    ∃ text : ByteArray, text.size < 2 ^ 64 ∧ overhang text = 8 ∧
      OpensAt XChaCha20Poly1305.aead exampleKey.bytes exampleHeader text 0 ∧
      (openRun XChaCha20Poly1305.aead text exampleKey).tried.length = 1 ∧
      (openAvatar XChaCha20Poly1305.aead text exampleKey).mapError OpenFailure.toUploadError
        = .error (.validation s!"sealed avatar truncated after segment {1}") := by
  have laws := xchacha_lawful
  have size : (replicateByte segmentSize 1).size = segmentSize := size_replicateByte ..
  obtain ⟨segment, made⟩ := Option.isSome_iff_exists.mp
    (laws.encrypt_isSome exampleKey.bytes (segmentNonce exampleHeader (0 : Nat).toUInt64)
      (segmentData (0 : Nat).toUInt64 false) _ (Nat.le_of_eq size))
  have full : segment.size = fullSegment := by
    rw [laws.size_encrypt _ _ _ _ _ made, size]
    rfl
  have opens := laws.decrypt_encrypt _ _ _ _ _ made
  let text := exampleHeader.val ++ (segment ++ replicateByte 65560 0)
  have length : text.size = 131136 := by
    simp only [text, ByteArray.size_append, exampleHeader.property, full, size_replicateByte]
    rfl
  have counted : text.size < 2 ^ 64 := by
    rw [length]
    decide
  have long : ¬ text.size < headerSize + tagSize := by
    rw [length]
    decide
  have eight : overhang text = 8 := by
    rw [overhang, length]
    rfl
  have two : fullSegments text = 2 := by
    rw [fullSegments, length]
    rfl
  have header : headerOf text long = exampleHeader :=
    Subtype.ext (ByteArray.extract_append_eq_left exampleHeader.property.symm)
  have piece : pieceAt text 0 = segment := by
    have rest : text.extract headerSize text.size = segment ++ replicateByte 65560 0 :=
      ByteArray.extract_append_eq_right exampleHeader.property.symm (ByteArray.size_append ..)
    have front := (extract_of_append rest (by rw [length]; decide)).1
    rwa [full] at front
  have first : OpensAt XChaCha20Poly1305.aead exampleKey.bytes exampleHeader text 0 := by
    rw [OpensAt, Segment.open?, Segment.ofText, piece, full, decide_eq_false (Nat.lt_irrefl _)]
    simp only [Segment.numbered]
    rw [opens, Option.isSome_some]
  obtain ⟨-, classified, -⟩ :=
    openAvatar_classified XChaCha20Poly1305.aead text exampleKey counted
  have classified := classified long
  rw [header] at classified
  have due : segmentsDue text = 1 := by
    rw [segmentsDue, eight, two]
    rfl
  refine ⟨text, counted, eight, first, ?_, (classified.truncated 1).mpr ⟨?_, ?_, ?_⟩⟩
  · have one := (classified.reached 0).mpr ⟨by omega, fun k lt => by omega⟩
    have no_more := mt (classified.reached 1).mp fun h => by omega
    omega
  · rw [eight]
    decide
  · rw [two]
  · intro k lt
    obtain rfl : k = 0 := by omega
    exact first

end AvatarVault
