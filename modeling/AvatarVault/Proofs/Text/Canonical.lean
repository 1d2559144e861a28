import AvatarVault.Proofs.Text.Base64
/-!
Canonical base64.  Bytes are read only from the codes that are written for them
(`decode_eq_ok_iff`): full groups are cut back into their values, the last group is filled up as it
was and its spare bits are zero.  What is written is the standard encoding (`spells_iff`): the bits
of the bytes in a row, cut into values of six bits, a letter for each value.
-/
namespace AvatarVault.Base64

/-! ## Values cut back -/

theorem high_bit {v : UInt8} (small : v < 64) {i : Nat} (inside : i < 8) (high : 6 ≤ i) :
    v.toBitVec[i] = false := by
  have all : ∀ n < 64, ∀ i < 8, 6 ≤ i → (UInt8.ofNat n).toBitVec.getLsbD i = false := by
    decide +kernel
  have known := all v.toNat (UInt8.lt_iff_toNat_lt.mp small) i inside high
  rwa [UInt8.ofNat_toNat, BitVec.getLsbD_eq_getElem inside] at known

/-- Only a symbol has a value, and it is the symbol of its value. -/
theorem symbol_of_value? {c v : UInt8} (known : value? c = some v) : v < 64 ∧ symbol v = c := by
  have all : ∀ n < 256, ∀ v ∈ value? (UInt8.ofNat n), v < 64 ∧ symbol v = UInt8.ofNat n := by
    decide +kernel
  have back := all c.toNat c.toNat_lt v
  rw [UInt8.ofNat_toNat] at back
  exact back known

theorem valueAt_eq_ok {offset : Nat} {c v : UInt8} (read : valueAt offset c = .ok v) :
    v < 64 ∧ symbol v = c := by
  rw [valueAt] at read
  cases known : value? c with
  | none =>
    rw [known] at read
    cases read
  | some w =>
    rw [known] at read
    cases read
    exact symbol_of_value? known

section Values

variable {p q r s : UInt8}

theorem first_back (small : p < 64) (next : q < 64) : (p <<< 2 ||| q >>> 4) >>> 2 = p := by
  apply eq_of_bits
  intro i hi
  interval_cases i <;> simp [high_bit small, high_bit next]

theorem second_back (small : q < 64) (next : r < 64) :
    ((p <<< 2 ||| q >>> 4) &&& 3) <<< 4 ||| (q <<< 4 ||| r >>> 2) >>> 4 = q := by
  apply eq_of_bits
  intro i hi
  interval_cases i <;> simp [high_bit small, high_bit next]

theorem third_back (small : r < 64) (next : s < 64) :
    ((q <<< 4 ||| r >>> 2) &&& 15) <<< 2 ||| (r <<< 6 ||| s) >>> 6 = r := by
  apply eq_of_bits
  intro i hi
  interval_cases i <;> simp [high_bit small, high_bit next]

theorem fourth_back (small : s < 64) : (r <<< 6 ||| s) &&& 63 = s := by
  apply eq_of_bits
  intro i hi
  interval_cases i <;> simp [high_bit small]

/-- A value whose spare bits are zero comes back where no value follows it. -/
theorem second_back_alone (small : q < 64) (spare : q &&& 15 = 0) :
    ((p <<< 2 ||| q >>> 4) &&& 3) <<< 4 = q := by
  have low : ∀ i < 8, (q &&& 15).toBitVec.getLsbD i = false := by simp [spare]
  have zero := low 0 (by decide)
  have one := low 1 (by decide)
  have two := low 2 (by decide)
  have three := low 3 (by decide)
  simp at zero one two three
  apply eq_of_bits
  intro i hi
  interval_cases i <;> simp [high_bit small, zero, one, two, three]

theorem third_back_alone (small : r < 64) (spare : r &&& 3 = 0) :
    ((q <<< 4 ||| r >>> 2) &&& 15) <<< 2 = r := by
  have low : ∀ i < 8, (r &&& 3).toBitVec.getLsbD i = false := by simp [spare]
  have zero := low 0 (by decide)
  have one := low 1 (by decide)
  simp at zero one
  apply eq_of_bits
  intro i hi
  interval_cases i <;> simp [high_bit small, zero, one]

end Values

/-! ## Groups written back -/

/-- Four values are the codes of their bytes again. -/
theorem encode_joinFour {p q r s : UInt8} (hp : p < 64) (hq : q < 64) (hr : r < 64) (hs : s < 64)
    (rest : List UInt8) :
    encode (joinFour p q r s ++ rest)
      = symbol p :: symbol q :: symbol r :: symbol s :: encode rest := by
  rw [joinFour, List.cons_append, List.cons_append, List.cons_append, List.nil_append, encode,
    first_back hp hq, second_back hq hr, third_back hr hs, fourth_back hs]

theorem encode_append {front : List UInt8} (full : front.length % 3 = 0) (last : List UInt8) :
    encode (front ++ last) = encode front ++ encode last := by
  fun_induction encode front with
  | case1 a b c rest ih =>
    have shorter : rest.length % 3 = 0 := by
      simp only [List.length_cons] at full
      omega
    rw [List.cons_append, List.cons_append, List.cons_append, encode, ih shorter]
    rfl
  | case2 a b => simp at full
  | case3 a => simp at full
  | case4 => rfl

/-- A reading that goes on from another one. -/
theorem read_of_bind {α β : Type} {first : Except Failure α} {next : α → Except Failure β} {b : β}
    (read : first >>= next = .ok b) : ∃ a, first = .ok a ∧ next a = .ok b := by
  cases first with
  | error cause => cases read
  | ok a => exact ⟨a, rfl, read⟩

/-- Full groups that are read are what is written for their bytes. -/
theorem encode_of_decodeGroups {offset : Nat} {codes bytes : List UInt8}
    (full : codes.length % 4 = 0) (read : decodeGroups offset codes = .ok bytes) :
    encode bytes = codes ∧ bytes.length % 3 = 0 := by
  fun_induction decodeGroups offset codes generalizing bytes with
  | case1 offset a b c d rest ih =>
    obtain ⟨p, first, read⟩ := read_of_bind read
    obtain ⟨q, second, read⟩ := read_of_bind read
    obtain ⟨r, third, read⟩ := read_of_bind read
    obtain ⟨s, fourth, read⟩ := read_of_bind read
    obtain ⟨more, later, read⟩ := read_of_bind read
    cases read
    obtain ⟨hp, rfl⟩ := valueAt_eq_ok first
    obtain ⟨hq, rfl⟩ := valueAt_eq_ok second
    obtain ⟨hr, rfl⟩ := valueAt_eq_ok third
    obtain ⟨hs, rfl⟩ := valueAt_eq_ok fourth
    have shorter : rest.length % 4 = 0 := by
      simp only [List.length_cons] at full
      omega
    obtain ⟨written, threes⟩ := ih shorter later
    refine ⟨by rw [encode_joinFour hp hq hr hs, written], ?_⟩
    simp only [joinFour, List.length_append, List.length_cons, List.length_nil]
    omega
  | case2 codes offset short =>
    cases read
    rcases codes with _ | ⟨a, _ | ⟨b, _ | ⟨c, _ | ⟨d, rest⟩⟩⟩⟩
    · exact ⟨rfl, rfl⟩
    · simp at full
    · simp at full
    · simp at full
    · exact absurd rfl (short a b c d rest)

/-- The last group that is split is its values' symbols and its fillers. -/
theorem splitLast_eq_ok {offset index : Nat} {group values : List UInt8} {pads : Nat}
    (read : splitLast offset index group = .ok (values, pads)) :
    (∀ v ∈ values, v < 64) ∧ group = values.map symbol ++ List.replicate pads pad := by
  fun_induction splitLast offset index group generalizing values pads with
  | case1 =>
    cases read
    simp
  | case2 => cases read
  | case3 index rest early fillers =>
    cases read
    have all : ∀ c ∈ rest, c = pad := by simpa using fillers
    simp [List.replicate_succ, ← List.eq_replicate_iff.mpr ⟨rfl, all⟩]
  | case4 => cases read
  | case5 index c rest symbolic ih =>
    obtain ⟨v, known, read⟩ := read_of_bind read
    obtain ⟨⟨found, fillers⟩, later, read⟩ := read_of_bind read
    cases read
    obtain ⟨small, rfl⟩ := valueAt_eq_ok known
    obtain ⟨others, rfl⟩ := ih later
    exact ⟨List.forall_mem_cons.mpr ⟨small, others⟩, rfl⟩

/-- The last group that is read is what is written for its bytes. -/
theorem encode_of_decodeLast {offset : Nat} {group bytes : List UInt8} (short : group.length ≤ 4)
    (read : decodeLast offset group = .ok bytes) : encode bytes = group := by
  obtain ⟨⟨values, pads⟩, split, read⟩ := read_of_bind read
  obtain ⟨small, rfl⟩ := splitLast_eq_ok split
  match values with
  | [] => cases read
  | [p] => cases read
  | [p, q] =>
    simp only [ne_eq, ite_not] at read
    split at read
    case isTrue filled =>
      split at read
      case isTrue spare =>
        cases read
        subst filled
        simp only [List.mem_cons, List.not_mem_nil, or_false, forall_eq_or_imp, forall_eq] at small
        rw [encode, first_back small.1 small.2, second_back_alone small.2 spare]
        rfl
      case isFalse => cases read
    case isFalse => cases read
  | [p, q, r] =>
    simp only [ne_eq, ite_not] at read
    split at read
    case isTrue filled =>
      split at read
      case isTrue spare =>
        cases read
        subst filled
        simp only [List.mem_cons, List.not_mem_nil, or_false, forall_eq_or_imp, forall_eq] at small
        obtain ⟨hp, hq, hr⟩ := small
        rw [encode, first_back hp hq, second_back hq hr, third_back_alone hr spare]
        rfl
      case isFalse => cases read
    case isFalse => cases read
  | [p, q, r, s] =>
    cases read
    simp only [List.mem_cons, List.not_mem_nil, or_false, forall_eq_or_imp, forall_eq] at small
    obtain ⟨hp, hq, hr, hs⟩ := small
    have unfilled : pads = 0 := by
      simp only [List.length_append, List.length_map, List.length_replicate, List.length_cons,
        List.length_nil] at short
      omega
    subst unfilled
    have written := encode_joinFour hp hq hr hs []
    rwa [List.append_nil] at written
  | p :: q :: r :: s :: t :: rest => cases read

/-! ## The whole text -/

/-- A text that is read is empty, or its full groups are read and then its last group.  Whether a
stray code is reported first makes no difference to that. -/
theorem groups_of_decode {codes bytes : List UInt8} (read : decode codes = .ok bytes) :
    (codes = [] ∧ bytes = []) ∨
      codes ≠ [] ∧ ∃ front last, decodeGroups 0 (codes.take (lastGroup codes.length)) = .ok front ∧
        decodeLast (lastGroup codes.length) (codes.drop (lastGroup codes.length)) = .ok last ∧
        bytes = front ++ last := by
  unfold decode at read
  extract_lets start goOn at read
  have goneOn : goOn () = .ok bytes := by
    split at read
    · split at read
      · split at read
        · obtain ⟨v, -, read⟩ := read_of_bind read
          exact read
        · exact read
      · exact read
    · exact read
  by_cases empty : codes = []
  · subst empty
    cases goneOn
    exact .inl ⟨rfl, rfl⟩
  · have filled : ¬ codes.isEmpty = true := by simpa using empty
    simp only [goOn, if_neg filled] at goneOn
    obtain ⟨front, early, goneOn⟩ := read_of_bind goneOn
    obtain ⟨last, late, goneOn⟩ := read_of_bind goneOn
    cases goneOn
    exact .inr ⟨empty, front, last, early, late, rfl⟩

/-- **Bytes are read exactly from the codes that are written for them.** -/
theorem decode_eq_ok_iff {codes bytes : List UInt8} :
    decode codes = .ok bytes ↔ codes = encode bytes := by
  constructor
  · intro read
    obtain ⟨rfl, rfl⟩ | ⟨filled, front, last, early, late, rfl⟩ := groups_of_decode read
    · rfl
    · have positive : 0 < codes.length := List.length_pos_iff.mpr filled
      have start : lastGroup codes.length % 4 = 0 ∧ lastGroup codes.length ≤ codes.length ∧
          codes.length ≤ lastGroup codes.length + 4 := by
        rw [lastGroup]
        omega
      obtain ⟨fours, before, behind⟩ := start
      obtain ⟨written, threes⟩ := encode_of_decodeGroups
        (by rwa [List.length_take, Nat.min_eq_left before]) early
      have closed := encode_of_decodeLast (by rw [List.length_drop]; omega) late
      rw [encode_append threes, written, closed, List.take_append_drop]
  · rintro rfl
    exact decode_encode bytes

/-- A text is read as some bytes exactly if it is the text that is written for them. -/
theorem decode_text_eq_ok_iff {text : String} {bytes : List UInt8} :
    decode text.toUTF8.data.toList = .ok bytes ↔ text = encodeText bytes := by
  rw [decode_eq_ok_iff, ← toUTF8_encodeText]
  constructor
  · intro same
    exact String.toByteArray_inj.mp (ByteArray.ext (Array.toList_inj.mp same))
  · rintro rfl
    rfl

theorem encodeText_injective {bytes bytes' : List UInt8}
    (same : encodeText bytes = encodeText bytes') : bytes = bytes' := by
  have read := decode_text_eq_ok_iff.mpr same
  rw [decode_text_eq_ok_iff.mpr rfl] at read
  exact Except.ok.inj read

/-! ## The standard encoding -/

/-- The letters for the values of six bits, in order. -/
def alphabet : List Char :=
  "ABCDEFGHIJKLMNOPQRSTUVWXYZabcdefghijklmnopqrstuvwxyz0123456789+/".toList

/-- The letter for a value of six bits. -/
def letter (v : BitVec 6) : Char := alphabet.getD v.toNat '='

/-- The bits of a number, highest first. -/
def bits {w : Nat} (v : BitVec w) : List Bool := (List.range w).reverse.map v.getLsbD

/-- How a text is the padded standard encoding of some bytes: it holds a letter for each of the
values, which are the bits of the bytes in a row and a few zeros, and is filled up to a multiple of
four characters. -/
structure Spelling (text : String) (bytes : List UInt8) (values : List (BitVec 6))
    (spare pads : Nat) : Prop where
  /-- The letters of the values come first, then the fillers. -/
  letters : text.toList = values.map letter ++ List.replicate pads '='
  /-- The values hold the bits of the bytes, then zeros. -/
  row : values.flatMap bits
    = bytes.flatMap (fun b => bits b.toBitVec) ++ List.replicate spare false
  /-- No value is made of such zeros alone. -/
  tight : spare < 6
  /-- The characters make up groups of four. -/
  full : (values.length + pads) % 4 = 0
  /-- No group is made of fillers alone. -/
  closed : pads < 4

/-- A text is the padded standard encoding of some bytes. -/
def Spells (text : String) (bytes : List UInt8) : Prop :=
  ∃ values spare pads, Spelling text bytes values spare pads

@[simp] theorem length_bits {w : Nat} (v : BitVec w) : (bits v).length = w := by simp [bits]

theorem bits_injective {w : Nat} {v u : BitVec w} (same : bits v = bits u) : v = u :=
  BitVec.eq_of_getLsbD_eq fun i hi => List.map_inj_left.mp same i (by simpa using hi)

theorem length_flatMap_bits {α : Type} {w : Nat} (f : α → BitVec w) (l : List α) :
    (l.flatMap fun a => bits (f a)).length = w * l.length := by
  rw [List.length_flatMap]
  simp [Nat.mul_comm]

theorem length_flatMap_values {w : Nat} (values : List (BitVec w)) :
    (values.flatMap bits).length = w * values.length := length_flatMap_bits id values

/-- As many values with the same bits in a row are the same. -/
theorem eq_of_flatMap_bits {w : Nat} {l m : List (BitVec w)} (long : l.length = m.length)
    (same : l.flatMap bits = m.flatMap bits) : l = m := by
  induction l generalizing m with
  | nil => exact (List.length_eq_zero_iff.mp long.symm).symm
  | cons v l ih =>
    cases m with
    | nil => cases long
    | cons u m =>
      obtain ⟨first, others⟩ := List.append_inj same (by simp)
      rw [bits_injective first, ih (Nat.succ.inj long) others]

theorem bits_cons {w : Nat} (b : Bool) (v : BitVec w) : bits (v.cons b) = b :: bits v := by
  simp only [bits, List.range_succ, List.reverse_append, List.reverse_singleton,
    List.singleton_append, List.map_cons, BitVec.getLsbD_cons, if_pos]
  congr 1
  apply List.map_congr_left
  intro i mem
  have below : i < w := by simpa using mem
  rw [BitVec.getLsbD_cons, if_neg (by omega)]

/-- Any bits in a row are the bits of a number. -/
theorem exists_bits {w : Nat} {row : List Bool} (long : row.length = w) :
    ∃ v : BitVec w, bits v = row := by
  induction row generalizing w with
  | nil =>
    subst long
    exact ⟨BitVec.nil, rfl⟩
  | cons b row ih =>
    cases w with
    | zero => cases long
    | succ w =>
      obtain ⟨v, rfl⟩ := ih (Nat.succ.inj long)
      exact ⟨v.cons b, bits_cons b v⟩

/-- Any bits in a row, a multiple of eight of them, are the bits of some bytes. -/
theorem exists_bytes {n : Nat} {row : List Bool} (long : row.length = 8 * n) :
    ∃ bytes : List UInt8, bytes.length = n ∧ bytes.flatMap (fun b => bits b.toBitVec) = row := by
  induction n generalizing row with
  | zero => exact ⟨[], rfl, (List.length_eq_zero_iff.mp long).symm⟩
  | succ n ih =>
    have eight : (row.take 8).length = 8 := by
      rw [List.length_take]
      omega
    have left : (row.drop 8).length = 8 * n := by
      rw [List.length_drop]
      omega
    obtain ⟨v, first⟩ := exists_bits eight
    obtain ⟨bytes, count, others⟩ := ih left
    refine ⟨UInt8.ofBitVec v :: bytes, by simp [count], ?_⟩
    rw [List.flatMap_cons, others]
    simp [first]

/-- **The bytes leave no choice in their text.** -/
theorem Spelling.unique {text text' : String} {bytes : List UInt8}
    {values values' : List (BitVec 6)} {spare spare' pads pads' : Nat}
    (one : Spelling text bytes values spare pads)
    (other : Spelling text' bytes values' spare' pads') : text = text' ∧ values = values' := by
  have count := congrArg List.length one.row
  have count' := congrArg List.length other.row
  simp only [List.length_append, List.length_replicate, length_flatMap_values, length_flatMap_bits]
    at count count'
  have tight := one.tight
  have tight' := other.tight
  have sameSpare : spare = spare' := by omega
  have sameLength : values.length = values'.length := by omega
  have sameValues : values = values' :=
    eq_of_flatMap_bits sameLength (by rw [one.row, other.row, sameSpare])
  have samePads : pads = pads' := by
    have full := one.full
    have full' := other.full
    have closed := one.closed
    have closed' := other.closed
    omega
  refine ⟨String.toList_injective ?_, sameValues⟩
  rw [one.letters, other.letters, sameValues, samePads]

/-- A value of six bits, cut out of a byte. -/
def cut (v : UInt8) : BitVec 6 := v.toBitVec.setWidth 6

theorem letter_cut {v : UInt8} (small : v < 64) :
    letter (cut v) = Char.ofNat (symbol v).toNat := by
  have all : ∀ n < 64,
      letter (cut (UInt8.ofNat n)) = Char.ofNat (symbol (UInt8.ofNat n)).toNat := by
    decide +kernel
  have known := all v.toNat (UInt8.lt_iff_toNat_lt.mp small)
  rwa [UInt8.ofNat_toNat] at known

/-- The four values cut out of three bytes hold their bits in a row. -/
theorem bits_cut (a b c : UInt8) :
    bits (cut (a >>> 2)) ++ (bits (cut ((a &&& 3) <<< 4 ||| b >>> 4)) ++
        (bits (cut ((b &&& 15) <<< 2 ||| c >>> 6)) ++ bits (cut (c &&& 63))))
      = bits a.toBitVec ++ (bits b.toBitVec ++ bits c.toBitVec) := by
  simp [bits, cut, List.range_succ]

theorem bits_cut_two (a b : UInt8) :
    bits (cut (a >>> 2)) ++ (bits (cut ((a &&& 3) <<< 4 ||| b >>> 4)) ++
        bits (cut ((b &&& 15) <<< 2)))
      = bits a.toBitVec ++ (bits b.toBitVec ++ [false, false]) := by
  simp [bits, cut, List.range_succ]

theorem bits_cut_one (a : UInt8) :
    bits (cut (a >>> 2)) ++ bits (cut ((a &&& 3) <<< 4))
      = bits a.toBitVec ++ [false, false, false, false] := by
  simp [bits, cut, List.range_succ]

/-- What is written for some bytes spells them. -/
theorem exists_spelling (bytes : List UInt8) :
    ∃ values spare pads, Spelling (encodeText bytes) bytes values spare pads := by
  fun_induction encode bytes with
  | case1 a b c rest ih =>
    obtain ⟨values, spare, pads, others⟩ := ih
    refine ⟨cut (a >>> 2) :: cut ((a &&& 3) <<< 4 ||| b >>> 4) ::
      cut ((b &&& 15) <<< 2 ||| c >>> 6) :: cut (c &&& 63) :: values, spare, pads,
      ⟨?_, ?_, others.tight, ?_, others.closed⟩⟩
    · have later := others.letters
      rw [toList_encodeText] at later ⊢
      simp only [encode, List.map_cons, List.cons_append, letter_cut (first_lt a),
        letter_cut (second_lt a b), letter_cut (third_lt b c), letter_cut (fourth_lt c), later]
    · simp only [List.flatMap_cons, others.row]
      have group := congrArg
        (· ++ (rest.flatMap (fun b => bits b.toBitVec) ++ List.replicate spare false))
        (bits_cut a b c)
      simpa only [List.append_assoc] using group
    · have full := others.full
      simp only [List.length_cons]
      omega
  | case2 a b =>
    refine ⟨[cut (a >>> 2), cut ((a &&& 3) <<< 4 ||| b >>> 4), cut ((b &&& 15) <<< 2)], 2, 1,
      ⟨?_, ?_, by decide, by simp, by decide⟩⟩
    · simp [toList_encodeText, encode, letter_cut (first_lt a), letter_cut (second_lt a b),
        letter_cut (third_lt_alone b), pad]
    · simpa using bits_cut_two a b
  | case3 a =>
    refine ⟨[cut (a >>> 2), cut ((a &&& 3) <<< 4)], 4, 2, ⟨?_, ?_, by decide, by simp, by decide⟩⟩
    · simp [toList_encodeText, encode, letter_cut (first_lt a), letter_cut (second_lt_alone a), pad,
        List.replicate_succ]
    · simpa using bits_cut_one a
  | case4 => exact ⟨[], 0, 0, ⟨rfl, rfl, by decide, rfl, by decide⟩⟩

/-- **What is written for bytes is their standard encoding.** -/
theorem spells_iff {text : String} {bytes : List UInt8} :
    Spells text bytes ↔ text = encodeText bytes := by
  constructor
  · rintro ⟨values, spare, pads, spelled⟩
    obtain ⟨values', spare', pads', written⟩ := exists_spelling bytes
    exact (spelled.unique written).1
  · rintro rfl
    exact exists_spelling bytes

/-- Four bytes are two groups, and the last of them lacks two letters. -/
example : Spells "AQIDBA==" [1, 2, 3, 4] :=
  ⟨[0, 16, 8, 3, 1, 0], 4, 2, by decide, by decide, by decide, by decide, by decide⟩

end AvatarVault.Base64
