import AvatarVault.Key
import AvatarVault.Sealed.Layout
/-!
Opening a sealed avatar, segment by segment.
-/
namespace AvatarVault

/-- Why a text does not open. -/
inductive OpenFailure where
  /-- There is no room for a header and a tag. -/
  | tooShort (size : Nat)
  /-- After this many segments too little is left for a last one. -/
  | truncated (segment : UInt64)
  /-- A segment is shorter than its tag. -/
  | noTag (segment : UInt64) (size : Nat)
  /-- A segment was not sealed under this key at this place. -/
  | unauthentic (segment : UInt64)
  deriving DecidableEq, Repr

/-- The failure as the error of an upload. -/
def OpenFailure.toUploadError : OpenFailure → UploadError
  | tooShort size =>
    .validation s!"sealed avatar too short: {size} bytes (minimum {headerSize + tagSize})"
  | truncated segment => .validation s!"sealed avatar truncated after segment {segment.toNat}"
  | noTag segment size =>
    .validation s!"segment {segment.toNat} shorter than its tag ({size} bytes)"
  | unauthentic segment =>
    .key s!"segment {segment.toNat} failed authentication: wrong key or corrupted data"

/-- The bytes of a sealed segment that is not the last. -/
def fullSegment : Nat := segmentSize + tagSize

/-- The length of the next segment when `rest` bytes are left, and whether it is the last: a
full segment is never the last, and one with room for a tag must follow it. -/
def nextCut (rest : Nat) : Option (Nat × Bool) :=
  if rest < fullSegment then some (rest, true)
  else if fullSegment + tagSize ≤ rest then some (fullSegment, false)
  else none

theorem nextCut_pos {rest length : Nat} (h : nextCut rest = some (length, false)) :
    0 < length ∧ length ≤ rest := by
  unfold nextCut fullSegment at h
  split at h
  · simp at h
  · split at h
    · simp only [Option.some.injEq, Prod.mk.injEq] at h
      rw [← h.1]
      simp only [segmentSize, tagSize] at *
      omega
    · simp at h

/-- Opens the segments from byte `start` on and adds their plaintexts to `opened`. -/
def openFrom (cipher : Aead) (key : Bytes 32) (iv : Bytes 24) (text : ByteArray) (start : Nat)
    (index : UInt64) (opened : ByteArray) : Except OpenFailure ByteArray :=
  match _ : nextCut (text.size - start) with
  | none => .error (.truncated index)
  | some (length, isFinal) =>
    if length < tagSize then .error (.noTag index length)
    else
      match cipher.decrypt key (segmentNonce iv index) (segmentData index isFinal)
          (text.extract start (start + length)) with
      | none => .error (.unauthentic index)
      | some message =>
        if _ : isFinal then .ok (opened ++ message)
        else openFrom cipher key iv text (start + length) (index + 1) (opened ++ message)
termination_by text.size - start
decreasing_by
  have := @nextCut_pos (text.size - start) length (by simp_all)
  omega

/-- The header of a text that has room for one. -/
def headerOf (text : ByteArray) (h : ¬ text.size < headerSize + tagSize) : Bytes 24 :=
  ⟨text.extract 0 headerSize, by
    simp only [headerSize, nonceSize, tagSize] at h
    simp only [ByteArray.size_extract, headerSize, nonceSize]
    omega⟩

/-- The avatar in a sealed text. -/
def openAvatar (cipher : Aead) (text : ByteArray) (key : ProfileKey) :
    Except OpenFailure ByteArray :=
  if h : text.size < headerSize + tagSize then .error (.tooShort text.size)
  else openFrom cipher key.bytes (headerOf text h) text headerSize 0 ByteArray.empty

end AvatarVault
