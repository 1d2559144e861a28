import AvatarVault.Bytes
/-!
The ChaCha20 keystream and the HChaCha20 key derivation, on sixteen 32-bit words.
The small lemmas give the length of a block and of a keystream.
-/
namespace AvatarVault.ChaCha20

/-- Sixteen words: constants, key, counter and nonce. -/
abbrev State : Type := Vector UInt32 16

/-- The word at a position. -/
def State.word (s : State) (i : Fin 16) : UInt32 := s[i]

/-- The state with another word at a position. -/
def State.put (s : State) (i : Fin 16) (w : UInt32) : State := s.set i w

/-- Positions are written as numerals. -/
instance neZero_sixteen : @NeZero Nat Zero.ofOfNat0 16 := ⟨by decide⟩

/-- The word turned left by `k` places. -/
def rotateLeft (x : UInt32) (k : UInt32) : UInt32 := (x <<< k) ||| (x >>> (32 - k))

/-- Mixes four words of the state. -/
def quarterRound (s : State) (a b c d : Fin 16) : State :=
  let s := s.put a (s.word a + s.word b)
  let s := s.put d (rotateLeft (s.word d ^^^ s.word a) 16)
  let s := s.put c (s.word c + s.word d)
  let s := s.put b (rotateLeft (s.word b ^^^ s.word c) 12)
  let s := s.put a (s.word a + s.word b)
  let s := s.put d (rotateLeft (s.word d ^^^ s.word a) 8)
  let s := s.put c (s.word c + s.word d)
  s.put b (rotateLeft (s.word b ^^^ s.word c) 7)

/-- Mixes the four columns of the state, then its four diagonals. -/
def doubleRound (s : State) : State :=
  let s := quarterRound s 0 4 8 12
  let s := quarterRound s 1 5 9 13
  let s := quarterRound s 2 6 10 14
  let s := quarterRound s 3 7 11 15
  let s := quarterRound s 0 5 10 15
  let s := quarterRound s 1 6 11 12
  let s := quarterRound s 2 7 8 13
  quarterRound s 3 4 9 14

/-- `n` double rounds. -/
def rounds : Nat → State → State
  | 0, s => s
  | n + 1, s => rounds n (doubleRound s)

/-- The 32-bit word at byte `i`, lowest byte first. -/
def wordAt {n : Nat} (b : Bytes n) (i : Nat) (h : i + 3 < n) : UInt32 :=
  (b.get i (by omega)).toUInt32 ||| ((b.get (i + 1) (by omega)).toUInt32 <<< 8)
    ||| ((b.get (i + 2) (by omega)).toUInt32 <<< 16) ||| ((b.get (i + 3) h).toUInt32 <<< 24)

/-- The state for a key and the four words after it. -/
def initial (key : Bytes 32) (tail : Vector UInt32 4) : State :=
  (#v[0x61707865, 0x3320646e, 0x79622d32, 0x6b206574] : Vector UInt32 4)
    ++ Vector.ofFn (fun i : Fin 8 => wordAt key (4 * i.val) (by omega)) ++ tail

/-- The four bytes of a word, lowest first. -/
def wordBytes (w : UInt32) : Array UInt8 :=
  #[w.toUInt8, (w >>> 8).toUInt8, (w >>> 16).toUInt8, (w >>> 24).toUInt8]

/-- Words written one after another, each lowest byte first. -/
def serialize {n : Nat} (words : Vector UInt32 n) : ByteArray :=
  ⟨words.toArray.flatMap wordBytes⟩

@[simp] theorem size_serialize {n : Nat} (words : Vector UInt32 n) :
    (serialize words).size = 4 * n := by
  rw [← ByteArray.size_data]
  have h : ∀ l : List UInt32, (l.map fun w => (wordBytes w).size).sum = 4 * l.length := by
    intro l
    induction l with
    | nil => rfl
    | cons w l ih => simp only [List.map_cons, List.sum_cons, ih, List.length_cons]; simp [wordBytes]; omega
  simp [serialize, Array.size_flatMap, ← Array.sum_toList, h]

/-- One keystream block of 64 bytes. -/
def block (key : Bytes 32) (nonce : Bytes 12) (counter : UInt32) : ByteArray :=
  let start := initial key #v[counter, wordAt nonce 0 (by omega), wordAt nonce 4 (by omega),
    wordAt nonce 8 (by omega)]
  serialize ((rounds 10 start).zipWith (· + ·) start)

@[simp] theorem size_block (key : Bytes 32) (nonce : Bytes 12) (counter : UInt32) :
    (block key nonce counter).size = 64 := by
  simp [block]

/-- Appends `n` blocks with counters from `counter` on. -/
def blocks (key : Bytes 32) (nonce : Bytes 12) : Nat → UInt32 → ByteArray → ByteArray
  | 0, _, written => written
  | n + 1, counter, written => blocks key nonce n (counter + 1) (written ++ block key nonce counter)

@[simp] theorem size_blocks (key : Bytes 32) (nonce : Bytes 12) (n : Nat) (counter : UInt32)
    (written : ByteArray) : (blocks key nonce n counter written).size = written.size + 64 * n := by
  induction n generalizing counter written with
  | zero => rfl
  | succ n ih => simp [blocks, ih]; omega

/-- The first `n` bytes of the keystream that starts at `counter`. -/
def keystream (key : Bytes 32) (nonce : Bytes 12) (counter : UInt32) (n : Nat) : ByteArray :=
  (blocks key nonce (n / 64 + 1) counter ByteArray.empty).extract 0 n

@[simp] theorem size_keystream (key : Bytes 32) (nonce : Bytes 12) (counter : UInt32) (n : Nat) :
    (keystream key nonce counter n).size = n := by
  simp [keystream, ByteArray.size_extract]
  omega

/-- The key that HChaCha20 derives from a key and sixteen bytes: the outer rows of the mixed
state, without adding the start. -/
def derive (key : Bytes 32) (input : Bytes 16) : Bytes 32 :=
  let mixed := rounds 10 (initial key #v[wordAt input 0 (by omega), wordAt input 4 (by omega),
    wordAt input 8 (by omega), wordAt input 12 (by omega)])
  ⟨serialize #v[mixed[0], mixed[1], mixed[2], mixed[3],
    mixed[12], mixed[13], mixed[14], mixed[15]], by simp⟩

end AvatarVault.ChaCha20
