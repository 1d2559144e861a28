import Mathlib.Data.List.Nodup
import AvatarVault.Proofs.Sealed.Integrity
import AvatarVault.Proofs.Sealed.Machine
/-!
No nonce is used twice.  A nonce tells the index under its header and the first sixteen bytes of the
header (`segmentNonce_inj_right`, `extract_segmentNonce`).  `Stream.requests` is a sealing
with a log of everything that it hands to the cipher; the log is complete (`Stream.drain_congr`) and
numbered (`Stream.inTurn_requests`), whatever the cipher answers.  Opening asks the cipher for the
segments of `openRun` and for nothing else (`asksInTurn_openRun`), by the same numbers
(`inTurn_openRunFrom`).
-/
namespace AvatarVault

/-! ## What a nonce tells -/

theorem xorBytes_comm (a b : ByteArray) : xorBytes a b = xorBytes b a := by
  apply ByteArray.ext
  simp only [xorBytes]
  rw [Array.zipWith_comm]
  simp only [UInt8.xor_comm]

/-- Under one header, the nonce tells the index. -/
theorem segmentNonce_inj_right {iv : Bytes 24} {i j : UInt64}
    (h : segmentNonce iv i = segmentNonce iv j) : i = j := by
  have hb := congrArg Subtype.val h
  simp only [segmentNonce, ByteArray.append_right_inj] at hb
  have size (k : UInt64) : (bytesOfList (indexBytes k)).size ≤ (iv.val.extract 16 24).size := by
    simp [ByteArray.size_extract, iv.property, indexBytes]
  rw [xorBytes_comm _ (bytesOfList (indexBytes i)), xorBytes_comm _ (bytesOfList (indexBytes j))]
    at hb
  exact indexBytes_inj (bytesOfList_inj (xorBytes_inj_left (size i) (size j) hb))

/-- The nonce has the first sixteen bytes of the header. -/
theorem extract_segmentNonce (iv : Bytes 24) (i : UInt64) :
    (segmentNonce iv i).val.extract 0 16 = iv.val.extract 0 16 :=
  ByteArray.extract_append_eq_left (by simp [ByteArray.size_extract, iv.property])

/-- The first eight bytes of the associated data are the index. -/
theorem extract_segmentData (i : UInt64) (isFinal : Bool) :
    (segmentData i isFinal).extract 0 8 = bytesOfList (indexBytes i) := by
  have split : segmentData i isFinal
      = bytesOfList (indexBytes i) ++ bytesOfList [if isFinal then 1 else 0] := by
    apply ByteArray.ext
    simp [segmentData, bytesOfList]
  rw [split]
  exact ByteArray.extract_append_eq_left (by simp [indexBytes])

/-! ## Numbered in turn -/

/-- Nonces and associated data under one header, numbered without a gap from an index on. -/
inductive InTurn (iv : Bytes 24) : UInt64 → List (Bytes 24 × ByteArray) → Prop where
  | nil (i : UInt64) : InTurn iv i []
  | cons {i : UInt64} {rest : List (Bytes 24 × ByteArray)} (isFinal : Bool)
      (further : InTurn iv (i + 1) rest) :
      InTurn iv i ((segmentNonce iv i, segmentData i isFinal) :: rest)

namespace InTurn

variable {iv : Bytes 24} {i : UInt64} {pairs : List (Bytes 24 × ByteArray)}

theorem getElem? (h : InTurn iv i pairs) {j : Nat} {pair : Bytes 24 × ByteArray}
    (at_ : pairs[j]? = some pair) :
    pair.1 = segmentNonce iv (i + j.toUInt64) ∧
      ∃ isFinal, pair.2 = segmentData (i + j.toUInt64) isFinal := by
  induction h generalizing j with
  | nil i => simp at at_
  | @cons i rest isFinal further ih =>
    cases j with
    | zero =>
      simp only [List.getElem?_cons_zero, Option.some.injEq] at at_
      rw [← at_, add_toUInt64_zero]
      exact ⟨rfl, isFinal, rfl⟩
    | succ j =>
      rw [add_toUInt64_succ]
      exact ih at_

/-- As long as the indices do not come round, no two nonces are the same. -/
theorem nodup (h : InTurn iv i pairs) (bound : pairs.length ≤ 2 ^ 64) :
    (pairs.map (·.1)).Nodup := by
  rw [List.nodup_iff_injective_get]
  intro a b same
  have place (c : Fin (pairs.map (·.1)).length) :
      (pairs.map (·.1)).get c = segmentNonce iv (i + c.val.toUInt64) := by
    have lt : c.val < pairs.length := by simpa using c.isLt
    rw [List.get_eq_getElem, List.getElem_map]
    exact (h.getElem? (List.getElem?_eq_getElem lt)).1
  rw [place, place] at same
  have index := (UInt64.add_right_inj i).mp (segmentNonce_inj_right same)
  have small (c : Fin (pairs.map (·.1)).length) : c.val < 2 ^ 64 := by
    have lt := c.isLt
    have count : (pairs.map (·.1)).length = pairs.length := List.length_map ..
    omega
  apply Fin.ext
  rw [← toNat_toUInt64 (small a), index, toNat_toUInt64 (small b)]

end InTurn

/-! ## What a sealing hands to the cipher -/

/-- What the cipher seals for one segment. -/
structure CipherRequest where
  nonce : Bytes 24
  data : ByteArray
  message : ByteArray
  deriving DecidableEq

/-- What tells one request from another: its nonce and its associated data. -/
def CipherRequest.place (r : CipherRequest) : Bytes 24 × ByteArray := (r.nonce, r.data)

/-- Two ciphers that answer a request under a key alike. -/
def CipherRequest.Alike (c d : Aead) (key : Bytes 32) (r : CipherRequest) : Prop :=
  c.encrypt key r.nonce r.data r.message = d.encrypt key r.nonce r.data r.message

namespace Stream

variable {cipher : Aead} {s t u : Stream}

/-- What the next segment of a stream is made from. -/
def request (s : Stream) : CipherRequest :=
  let remaining := s.plaintext.size - s.consumed
  let isFinal := decide (remaining < segmentSize)
  let taken := if isFinal then remaining else segmentSize
  { nonce := segmentNonce s.iv s.segment
    data := segmentData s.segment isFinal
    message := s.plaintext.extract s.consumed (s.consumed + taken) }

/-- What a call for a piece hands to the cipher: nothing for the header and at the end. -/
def asked (s : Stream) : List CipherRequest := if s.phase = .segments then [s.request] else []

/-- All that a stream hands to the cipher until it ends or fails, in order. -/
def requests (cipher : Aead) (s : Stream) : List CipherRequest :=
  match _ : s.produce cipher with
  | (.ok (some _), t) => s.asked ++ t.requests cipher
  | _ => s.asked
termination_by s.left
decreasing_by exact left_produce_lt ‹_›

theorem requests_of_produce {piece : ByteArray} (h : s.produce cipher = (.ok (some piece), t)) :
    s.requests cipher = s.asked ++ t.requests cipher := by
  rw [requests]
  split
  · rename_i t' h'
    rw [h] at h'
    simp only [Prod.mk.injEq] at h'
    rw [h'.2]
  · rename_i h'
    exact absurd h (h' piece t)

theorem requests_of_stop (h : ∀ piece t, s.produce cipher ≠ (.ok (some piece), t)) :
    s.requests cipher = s.asked := by
  rw [requests]
  split
  · rename_i piece t h'
    exact absurd h' (h piece t)
  · rfl

/-- All that a call can do to the place of a stream: past the header, past a full segment, or past
the last one. -/
theorem moved_of_produce {piece : ByteArray} (h : s.produce cipher = (.ok (some piece), t)) :
    t.iv = s.iv ∧ t.key = s.key ∧ t.plaintext = s.plaintext ∧
      ((s.phase = .header ∧ t.phase = .segments ∧ t.segment = s.segment ∧
          t.consumed = s.consumed) ∨
        (s.phase = .segments ∧ t.phase = .segments ∧ t.segment = s.segment + 1 ∧
          t.consumed = s.consumed + segmentSize ∧
          segmentSize ≤ s.plaintext.size - s.consumed) ∨
        (s.phase = .segments ∧ t.phase = .drained)) := by
  unfold produce at h
  split at h
  · simp at h
  · simp at h
  · rename_i phase
    split at h
    · simp at h
    · simp only [Prod.mk.injEq] at h
      rw [← h.2]
      exact ⟨rfl, rfl, rfl, .inl ⟨phase, rfl, rfl, rfl⟩⟩
  · rename_i phase
    split at h
    · simp at h
    · rename_i next made
      split at h
      · simp at h
      · simp only [Prod.mk.injEq] at h
        rw [← h.2]
        refine ⟨rfl, rfl, rfl, .inr ?_⟩
        simp only [nextSegment] at made
        split at made
        · simp only [Except.ok.injEq] at made
          subst made
          by_cases short : s.plaintext.size - s.consumed < segmentSize
          · exact .inr ⟨phase, by simp [advance, emit, short]⟩
          · refine .inl ⟨phase, ?_, rfl, ?_, Nat.le_of_not_lt short⟩
            · simp [advance, emit, short]
            · simp [advance, emit, short]
        · simp at made

theorem asked_of_segments (phase : s.phase = .segments) : s.asked = [s.request] := by
  rw [asked, if_pos phase]

theorem asked_of_ne (phase : s.phase ≠ .segments) : s.asked = [] := by
  rw [asked, if_neg phase]

theorem requests_drained (phase : s.phase = .drained) : s.requests cipher = [] := by
  have stop : s.produce cipher = (.ok none, s) := produce_drained phase
  rw [requests_of_stop (by simp [stop]), asked_of_ne (by simp [phase])]

/-- A stream asks for its segments in turn, and for no more of them than the plaintext has. -/
theorem inTurn_requests (cipher : Aead) (phase : s.phase = .segments) :
    InTurn s.iv s.segment ((s.requests cipher).map (·.place)) ∧
      (s.requests cipher).length ≤ (s.plaintext.size - s.consumed) / segmentSize + 1 := by
  induction hn : s.left using Nat.strongRecOn generalizing s with
  | _ n ih =>
    have one : InTurn s.iv s.segment ([s.request].map (·.place)) := .cons _ (.nil _)
    by_cases given : ∃ piece t, s.produce cipher = (.ok (some piece), t)
    · obtain ⟨piece, t, call⟩ := given
      obtain ⟨iv, -, plaintext, moved⟩ := moved_of_produce call
      rw [requests_of_produce call, asked_of_segments phase]
      rcases moved with ⟨atHeader, -⟩ | ⟨-, next, segment, consumed, long⟩ | ⟨-, drained⟩
      · simp [phase] at atHeader
      · obtain ⟨further, count⟩ := ih t.left (hn ▸ left_produce_lt call) next rfl
        rw [iv, segment] at further
        refine ⟨.cons _ further, ?_⟩
        rw [plaintext, consumed] at count
        simp only [List.singleton_append, List.length_cons, segmentSize] at count long ⊢
        omega
      · rw [requests_drained drained, List.append_nil]
        exact ⟨one, Nat.le_add_left _ _⟩
    · have stop : ∀ piece t, s.produce cipher ≠ (.ok (some piece), t) :=
        fun piece t call => given ⟨piece, t, call⟩
      rw [requests_of_stop stop, asked_of_segments phase]
      exact ⟨one, Nat.le_add_left _ _⟩

theorem inTurn_requests_fresh (cipher : Aead) (plaintext : ByteArray) (key : Bytes 32)
    (iv : Bytes 24) :
    InTurn iv 0 (((fresh plaintext key iv).requests cipher).map (·.place)) ∧
      ((fresh plaintext key iv).requests cipher).length ≤ plaintext.size / segmentSize + 1 := by
  have header : (fresh plaintext key iv).asked = [] := rfl
  by_cases given : ∃ piece t, (fresh plaintext key iv).produce cipher = (.ok (some piece), t)
  · obtain ⟨piece, t, call⟩ := given
    obtain ⟨same, -, text, moved⟩ := moved_of_produce call
    rw [requests_of_produce call, header, List.nil_append]
    rcases moved with ⟨-, next, segment, consumed⟩ | ⟨atSegments, -⟩ | ⟨atSegments, -⟩
    · have numbered := inTurn_requests cipher next
      rw [same, segment, text, consumed] at numbered
      exact numbered
    · simp [fresh] at atSegments
    · simp [fresh] at atSegments
  · have stop : ∀ piece t, (fresh plaintext key iv).produce cipher ≠ (.ok (some piece), t) :=
      fun piece t call => given ⟨piece, t, call⟩
    rw [requests_of_stop stop, header]
    exact ⟨.nil _, Nat.zero_le _⟩

/-! ## The log is complete -/

section Complete

variable {c d : Aead}

theorem nextSegment_congr (h : s.request.Alike c d s.key) : s.nextSegment c = s.nextSegment d := by
  simp only [CipherRequest.Alike, request] at h
  simp only [nextSegment, h]

theorem produce_congr (h : ∀ r ∈ s.asked, r.Alike c d s.key) : s.produce c = s.produce d := by
  cases phase : s.phase with
  | segments =>
    rw [asked_of_segments phase] at h
    simp only [produce, phase, nextSegment_congr (h s.request (by simp))]
  | header => simp only [produce, phase]
  | drained => simp only [produce, phase]
  | finished => simp only [produce, phase]

/-- A later failure ends the run. -/
theorem drain_of_later_failure {piece : ByteArray} {e : SealFailure}
    (h : s.produce c = (.ok (some piece), t)) (ht : t.drain c = (.error e, u)) :
    s.drain c = (.error e, u) := by
  rw [drain]
  split
  · rename_i piece' t' h'
    rw [h] at h'
    simp only [Prod.mk.injEq] at h'
    rw [← h'.2, ht]
  · rename_i h'
    simp [h] at h'
  · rename_i h'
    simp [h] at h'

theorem drain_of_failure {e : SealFailure} (h : s.produce c = (.error e, t)) :
    s.drain c = (.error e, t) := by
  rw [drain]
  split <;> rename_i h' <;> simp_all

/-- Two ciphers that answer all requests of a stream alike make it give the same: it hands nothing
else to the cipher. -/
theorem drain_congr (h : ∀ r ∈ s.requests c, r.Alike c d s.key) : s.drain c = s.drain d := by
  induction hn : s.left using Nat.strongRecOn generalizing s with
  | _ n ih =>
    have first : ∀ r ∈ s.asked, r.Alike c d s.key := by
      intro r mem
      refine h r ?_
      by_cases given : ∃ piece t, s.produce c = (.ok (some piece), t)
      · obtain ⟨piece, t, call⟩ := given
        rw [requests_of_produce call]
        exact List.mem_append_left _ mem
      · rwa [requests_of_stop fun piece t call => given ⟨piece, t, call⟩]
    have same := produce_congr first
    rcases call : s.produce c with ⟨e | given, t⟩
    · rw [drain_of_failure call, drain_of_failure (same ▸ call)]
    · cases given with
      | none => rw [drain_of_end call, drain_of_end (same ▸ call)]
      | some piece =>
        have call' : s.produce d = (.ok (some piece), t) := by rw [← same, call]
        have rest : t.drain c = t.drain d := by
          refine ih t.left (hn ▸ left_produce_lt call) ?_ rfl
          rw [requests_of_produce call] at h
          rw [(moved_of_produce call).2.1]
          exact fun r mem => h r (List.mem_append_right _ mem)
        rcases last : t.drain c with ⟨e | pieces, u⟩
        · rw [drain_of_later_failure call last, drain_of_later_failure call' (rest ▸ last)]
        · rw [drain_of_produce call last, drain_of_produce call' (rest ▸ last)]

end Complete

/-! ## A stream under any calls -/

/-- All that calls of a stream hand to the cipher, in order. -/
def askedBy (cipher : Aead) : Stream → List StreamCall → List CipherRequest
  | _, [] => []
  | s, .produce :: rest => s.asked ++ (s.produce cipher).2.askedBy cipher rest
  | s, .finish :: rest => s.finish.2.askedBy cipher rest

section Driven

variable {plaintext : ByteArray} {key : Bytes 32} {iv : Bytes 24} {m : PieceMachine}

/-- A call for a piece asks for nothing, or for the segment that comes next, which is then past. -/
theorem Follows.asked_cases (h : Follows cipher plaintext key iv s m)
    (fits : sealedSize plaintext.size < 2 ^ 64) :
    (s.asked = [] ∧ (s.produce cipher).2.segment = s.segment ∧
        m.position ≤ m.produce.2.position) ∨
      (s.asked = [s.request] ∧ (s.produce cipher).2.segment = s.segment + 1 ∧
        m.produce.2.position = m.position + 1) := by
  have after := (follows_produce h fits).2
  cases h.stands with
  | header phase before sealing atStart pieces isOpen =>
    have next : m.pieces[m.position]? = some s.iv.val := by rw [pieces, atStart]; rfl
    have theirs := PieceMachine.produce_of_piece isOpen next
    refine .inl ⟨asked_of_ne (by simp [phase]), ?_, by simp [theirs]⟩
    rw [after.counted, h.counted, theirs, atStart]
    rfl
  | segments before sealing position left isOpen =>
    obtain ⟨text, rest, e⟩ := List.exists_cons_of_ne_nil
      (mt List.map_eq_nil_iff.mp sealing.numbered.ne_nil)
    have theirs := PieceMachine.produce_of_piece isOpen (getElem?_of_drop (left.trans e)).1
    refine .inr ⟨asked_of_segments before.phase, ?_, by simp [theirs]⟩
    rw [after.counted, h.counted, theirs, position]
    exact toUInt64_succ _
  | drained phase atEnd isOpen =>
    rw [produce_drained phase, PieceMachine.produce_at_end isOpen atEnd]
    exact .inl ⟨asked_of_ne (by simp [phase]), rfl, Nat.le_refl _⟩
  | finished phase isClosed =>
    have ours : s.produce cipher = (.error .closed, s) := by simp only [produce, phase]
    have theirs : m.produce = (.error .closed, m) := by
      simp only [PieceMachine.produce, isClosed, if_true]
    rw [ours, theirs]
    exact .inl ⟨asked_of_ne (by simp [phase]), rfl, Nat.le_refl _⟩

theorem segment_finish (s : Stream) : s.finish.2.segment = s.segment := by
  cases phase : s.phase with
  | drained =>
    simp only [finish, phase]
    split <;> rfl
  | header => simp only [finish, phase]
  | segments => simp only [finish, phase]
  | finished => simp only [finish, phase]

theorem position_finish (m : PieceMachine) : m.finish.2.position = m.position := by
  unfold PieceMachine.finish
  split
  · rfl
  · split <;> rfl

/-- Whatever the calls, the segments are asked for in turn, each once. -/
theorem Follows.inTurn_askedBy (h : Follows cipher plaintext key iv s m)
    (fits : sealedSize plaintext.size < 2 ^ 64) (run : List StreamCall) :
    InTurn iv s.segment ((s.askedBy cipher run).map (·.place)) ∧
      (s.askedBy cipher run).length + m.position ≤ m.pieces.length := by
  induction run generalizing s m with
  | nil => exact ⟨.nil _, by rw [askedBy, List.length_nil, Nat.zero_add]; exact h.inside⟩
  | cons c rest ih =>
    cases c with
    | finish =>
      have after := (follows_finish h fits).2
      obtain ⟨numbered, count⟩ := ih after
      have pieces : m.finish.2.pieces = m.pieces := (m.take_call .finish).1
      rw [segment_finish] at numbered
      rw [position_finish, pieces] at count
      exact ⟨numbered, count⟩
    | produce =>
      have after := (follows_produce h fits).2
      obtain ⟨numbered, count⟩ := ih after
      have pieces : m.produce.2.pieces = m.pieces := (m.take_call .produce).1
      rw [pieces] at count
      rcases h.asked_cases fits with ⟨asked, segment, position⟩ | ⟨asked, segment, position⟩
      · rw [segment] at numbered
        simp only [askedBy, asked, List.nil_append]
        exact ⟨numbered, by omega⟩
      · rw [segment] at numbered
        simp only [askedBy, asked, List.singleton_append, List.map_cons, List.length_cons]
        refine ⟨?_, by omega⟩
        have header := h.gave.iv
        simp only [fresh] at header
        rw [← header] at numbered ⊢
        exact .cons _ numbered

end Driven

end Stream

/-! ## What an opening hands to the cipher -/

section Opening

variable {cipher : Aead} {key : Bytes 32} {iv : Bytes 24} {text opened : ByteArray} {start : Nat}
  {index : UInt64}

theorem inTurn_openRunFrom :
    InTurn iv index ((openRunFrom cipher key iv text start index opened).tried.map
      fun s => (s.nonce, s.data)) := by
  fun_induction openRunFrom cipher key iv text start index opened with
  | case1 start index opened cut => exact .nil _
  | case2 start index opened length isFinal cut short => exact .nil _
  | case3 start index opened length isFinal cut tag segment failed => exact .cons _ (.nil _)
  | case4 start index opened length tag message cut segment made => exact .cons _ (.nil _)
  | case5 start index opened length isFinal cut tag segment message made more ih =>
    exact .cons _ ih

/-- The segments of a text are tried in turn, under the header in front of it. -/
theorem inTurn_openRun {profile : ProfileKey} (header : text.extract 0 headerSize = iv.val) :
    InTurn iv 0 ((openRun cipher text profile).tried.map fun s => (s.nonce, s.data)) := by
  by_cases short : text.size < headerSize + tagSize
  · rw [openRun_of_short short]
    exact .nil _
  · have same : headerOf text short = iv := Subtype.ext header
    rw [openRun_of_long short, same]
    exact inTurn_openRunFrom

end Opening

/-! ## Nonces across sealings -/

namespace SealInput

/-- All that the sealing hands to the cipher, in order. -/
def requests (cipher : Aead) (key : ProfileKey) (s : SealInput) : List CipherRequest :=
  match Stream.start s.plaintext key.bytes.val s.iv with
  | .ok stream => stream.requests cipher
  | .error _ => []

variable {cipher : Aead} {key : ProfileKey} {s : SealInput}

theorem requests_eq :
    s.requests cipher key = (Stream.fresh s.plaintext key.bytes s.iv).requests cipher := by
  rw [requests, Stream.start_eq]

theorem inTurn_requests : InTurn s.iv 0 ((s.requests cipher key).map (·.place)) := by
  rw [requests_eq]
  exact (Stream.inTurn_requests_fresh cipher s.plaintext key.bytes s.iv).1

/-- A request of a sealing has the nonce and the index of its place in turn. -/
theorem place_of_getElem? {j : Nat} {r : CipherRequest}
    (h : (s.requests cipher key)[j]? = some r) :
    r.nonce = segmentNonce s.iv (0 + j.toUInt64) ∧
      ∃ isFinal, r.data = segmentData (0 + j.toUInt64) isFinal := by
  have inTurn : InTurn s.iv 0 ((s.requests cipher key).map (·.place)) := inTurn_requests
  have at_ : ((s.requests cipher key).map (·.place))[j]? = some r.place := by
    rw [List.getElem?_map, h]
    rfl
  exact inTurn.getElem? at_

theorem nodup_nonces : ((s.requests cipher key).map (·.nonce)).Nodup := by
  have count := (Stream.inTurn_requests_fresh cipher s.plaintext key.bytes s.iv).2
  rw [← requests_eq] at count
  have size := s.size_lt
  have inTurn : InTurn s.iv 0 ((s.requests cipher key).map (·.place)) := inTurn_requests
  have numbered := inTurn.nodup (by
    rw [List.length_map]
    simp only [segmentSize] at count
    omega)
  rwa [List.map_map] at numbered

theorem front_of_mem {nonce : Bytes 24} (h : nonce ∈ (s.requests cipher key).map (·.nonce)) :
    nonce.val.extract 0 16 = s.iv.val.extract 0 16 := by
  obtain ⟨r, mem, rfl⟩ := List.mem_map.mp h
  obtain ⟨j, at_⟩ := List.getElem?_of_mem mem
  rw [(place_of_getElem? at_).1, extract_segmentNonce]

/-- A cipher that answers all requests of a sealing alike gives the same avatar. -/
theorem sealAvatar_congr {other : Aead}
    (alike : ∀ r ∈ s.requests cipher key, r.Alike cipher other key.bytes) :
    sealAvatar other s.plaintext key s.iv = sealAvatar cipher s.plaintext key s.iv := by
  rw [requests_eq] at alike
  have same : (Stream.fresh s.plaintext key.bytes s.iv).drain cipher
      = (Stream.fresh s.plaintext key.bytes s.iv).drain other := Stream.drain_congr alike
  unfold sealAvatar
  rw [Stream.start_eq]
  simp only [bind, Except.bind, same]

/-- Whatever the calls of its stream, a sealing repeats no nonce. -/
theorem nodup_askedBy (seals : cipher.Seals segmentSize) {stream : Stream}
    (started : Stream.start s.plaintext key.bytes.val s.iv = .ok stream) (run : List StreamCall) :
    ((stream.askedBy cipher run).map (·.nonce)).Nodup := by
  rw [Stream.start_eq] at started
  obtain rfl := Except.ok.inj started
  have size := s.size_lt
  obtain ⟨segments, sealing⟩ := exists_sealing seals key.bytes s.iv 0 s.plaintext
  have follows := Stream.follows_fresh seals sealing
  obtain ⟨numbered, count⟩ := follows.inTurn_askedBy (sealedSize_lt size) run
  rw [follows.count] at count
  have nodup := numbered.nodup (by
    rw [List.length_map]
    simp only [segmentSize] at count
    omega)
  rwa [List.map_map] at nodup

end SealInput

/-- Nonces are never reused, whatever the cipher answers.  Header, index and flag can be told from
nonce and associated data.  Within one sealing, and across sealings under one key whose headers
differ in their first sixteen bytes, no nonce is handed to the cipher twice; nothing but these
requests goes to the cipher.  A stream under any calls, with a cipher that seals segments, repeats
none either.  Opening asks the cipher for the segments of its run, in turn, and for nothing else, and
for each of them it uses the nonce and the index that sealing used for it. -/
theorem nonces_never_reused (cipher : Aead) (key : ProfileKey) :
    (Function.Injective fun place : Bytes 24 × UInt64 × Bool =>
      (segmentNonce place.1 place.2.1, segmentData place.2.1 place.2.2)) ∧
    (∀ s : SealInput, ((s.requests cipher key).map (·.nonce)).Nodup) ∧
    (∀ sealings : List SealInput,
      sealings.Pairwise (fun s t => s.iv.val.extract 0 16 ≠ t.iv.val.extract 0 16) →
        ((sealings.flatMap (·.requests cipher key)).map (·.nonce)).Nodup) ∧
    (∀ (s : SealInput) (other : Aead),
      (∀ r ∈ s.requests cipher key, r.Alike cipher other key.bytes) →
        sealAvatar other s.plaintext key s.iv = sealAvatar cipher s.plaintext key s.iv) ∧
    (cipher.Seals segmentSize → ∀ (s : SealInput) (stream : Stream),
      Stream.start s.plaintext key.bytes.val s.iv = .ok stream →
        ∀ run : List StreamCall, ((stream.askedBy cipher run).map (·.nonce)).Nodup) ∧
    (∀ (s : SealInput) (text : ByteArray), text.extract 0 headerSize = s.iv.val →
      ∀ (j : Nat) (t : Segment) (r : CipherRequest),
        (openRun cipher text key).tried[j]? = some t → (s.requests cipher key)[j]? = some r →
          t.nonce = r.nonce ∧ t.data.extract 0 8 = r.data.extract 0 8) ∧
    ∀ text : ByteArray, AsksInTurn cipher key text (openRun cipher text key).tried := by
  refine ⟨?_, fun s => SealInput.nodup_nonces, ?_, fun s other => SealInput.sealAvatar_congr,
    fun seals s stream started => SealInput.nodup_askedBy seals started, ?_,
    asksInTurn_openRun cipher key⟩
  · rintro ⟨iv, i, f⟩ ⟨iv', j, g⟩ same
    simp only [Prod.mk.injEq] at same
    obtain ⟨rfl, rfl⟩ := segmentData_inj same.2
    rw [segmentNonce_inj_left same.1]
  · intro sealings apart
    rw [List.map_flatMap, List.nodup_flatMap]
    refine ⟨fun s _ => SealInput.nodup_nonces, apart.imp ?_⟩
    intro s t differ nonce inFirst inSecond
    exact differ ((SealInput.front_of_mem inFirst).symm.trans (SealInput.front_of_mem inSecond))
  · intro s text header j t r tried asked
    have opening : t.nonce = segmentNonce s.iv (0 + j.toUInt64) ∧
        ∃ isFinal, t.data = segmentData (0 + j.toUInt64) isFinal := by
      have at_ : ((openRun cipher text key).tried.map fun s => (s.nonce, s.data))[j]?
          = some (t.nonce, t.data) := by
        rw [List.getElem?_map, tried]
        rfl
      exact (inTurn_openRun header).getElem? at_
    obtain ⟨nonce, f, data⟩ := opening
    obtain ⟨nonce', g, data'⟩ := SealInput.place_of_getElem? asked
    rw [nonce, nonce', data, data', extract_segmentData, extract_segmentData]
    exact ⟨rfl, rfl⟩

/-- Two plaintexts of several segments under headers that differ in the first byte. -/
def exampleApart : List SealInput :=
  [{ plaintext := replicateByte 131072 1
     iv := exampleHeader
     size_lt := by rw [size_replicateByte]; decide },
   { plaintext := replicateByte 65537 2
     iv := ⟨replicateByte 24 8, size_replicateByte 24 8⟩
     size_lt := by rw [size_replicateByte]; decide }]

/-- The nonces of both sealings are all different, and so are those of a stream that is closed too
early between its pieces. -/
theorem nonces_never_reused_two_headers :
    exampleApart.Pairwise (fun s t => s.iv.val.extract 0 16 ≠ t.iv.val.extract 0 16) ∧
      ((exampleApart.flatMap (·.requests XChaCha20Poly1305.aead exampleKey)).map
        (·.nonce)).Nodup ∧
      ∃ stream, Stream.start (exampleApart[0]).plaintext exampleKey.bytes.val (exampleApart[0]).iv
          = .ok stream ∧
        ((stream.askedBy XChaCha20Poly1305.aead
          [.produce, .finish, .produce, .produce, .finish, .produce, .produce]).map
            (·.nonce)).Nodup := by
  have apart : exampleApart.Pairwise
      (fun s t => s.iv.val.extract 0 16 ≠ t.iv.val.extract 0 16) := by decide
  obtain ⟨-, -, across, -, driven, -⟩ :=
    nonces_never_reused XChaCha20Poly1305.aead exampleKey
  exact ⟨apart, across exampleApart apart, _, Stream.start_eq _ _ _,
    driven xchacha_lawful.toSeals exampleApart[0] _ (Stream.start_eq _ _ _) _⟩

end AvatarVault
