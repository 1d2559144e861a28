import AvatarVault.Cipher.ChaCha20
/-!
The BLAKE3 hash: chunks of 1024 bytes hashed block by block, joined by a binary tree whose
left subtrees are complete.  Words are 32 bits, lowest byte first.
-/
namespace AvatarVault.Blake3

/-- The bytes of one leaf of the tree. -/
def chunkSize : Nat := 1024

/-- The bytes of one block. -/
def blockSize : Nat := 64

/-- Eight words that stand for everything hashed below a node. -/
abbrev Chaining : Type := Vector UInt32 8

/-- The chaining value that every chunk starts from. -/
def initialChaining : Chaining :=
  #v[0x6a09e667, 0xbb67ae85, 0x3c6ef372, 0xa54ff53a, 0x510e527f, 0x9b05688c, 0x1f83d9ab, 0x5be0cd19]

/-- The order in which a round takes the message words of the round before. -/
def permutation : Vector (Fin 16) 16 := #v[2, 6, 3, 10, 7, 0, 4, 13, 1, 11, 12, 5, 9, 14, 15, 8]

def chunkStart : UInt32 := 1
def chunkEnd : UInt32 := 2
def parentFlag : UInt32 := 4
def rootFlag : UInt32 := 8

/-- Mixes two message words into four words of the state. -/
def mix (s : ChaCha20.State) (a b c d : Fin 16) (x y : UInt32) : ChaCha20.State :=
  let s := s.put a (s.word a + s.word b + x)
  let s := s.put d (ChaCha20.rotateLeft (s.word d ^^^ s.word a) 16)
  let s := s.put c (s.word c + s.word d)
  let s := s.put b (ChaCha20.rotateLeft (s.word b ^^^ s.word c) 20)
  let s := s.put a (s.word a + s.word b + y)
  let s := s.put d (ChaCha20.rotateLeft (s.word d ^^^ s.word a) 24)
  let s := s.put c (s.word c + s.word d)
  s.put b (ChaCha20.rotateLeft (s.word b ^^^ s.word c) 25)

/-- One round over the columns, then the diagonals. -/
def round (s : ChaCha20.State) (m : Vector UInt32 16) : ChaCha20.State :=
  let s := mix s 0 4 8 12 m[0] m[1]
  let s := mix s 1 5 9 13 m[2] m[3]
  let s := mix s 2 6 10 14 m[4] m[5]
  let s := mix s 3 7 11 15 m[6] m[7]
  let s := mix s 0 5 10 15 m[8] m[9]
  let s := mix s 1 6 11 12 m[10] m[11]
  let s := mix s 2 7 8 13 m[12] m[13]
  mix s 3 4 9 14 m[14] m[15]

/-- `n` rounds, the message words permuted between them. -/
def rounds : Nat → ChaCha20.State → Vector UInt32 16 → ChaCha20.State
  | 0, s, _ => s
  | n + 1, s, m => rounds n (round s m) (permutation.map fun i => m[i])

/-- The input of one compression. -/
structure Node where
  chaining : Chaining
  message : Vector UInt32 16
  counter : UInt64
  length : UInt32
  flags : UInt32

/-- The eight words that a compression gives. -/
def Node.compress (n : Node) (flags : UInt32) : Chaining :=
  let iv := initialChaining
  let start : ChaCha20.State := n.chaining ++
    (#v[iv[0], iv[1], iv[2], iv[3], n.counter.toUInt32, (n.counter >>> 32).toUInt32, n.length,
      n.flags ||| flags] : Vector UInt32 8)
  let mixed := rounds 7 start n.message
  Vector.ofFn fun i : Fin 8 => mixed[i.val] ^^^ mixed[i.val + 8]

/-- The word at byte `i` of a text, with zeros after its end. -/
def wordAt (b : ByteArray) (i : Nat) : UInt32 :=
  let byte (j : Nat) : UInt32 := if h : j < b.size then (b.get j h).toUInt32 else 0
  byte i ||| (byte (i + 1) <<< 8) ||| (byte (i + 2) <<< 16) ||| (byte (i + 3) <<< 24)

/-- The block of a chunk that starts at byte `start`, with the chaining value so far. -/
def chunkBlock (input : ByteArray) (counter : UInt64) (first start stop : Nat)
    (chaining : Chaining) : Node :=
  let last := min (start + blockSize) stop
  let text := input.extract start last
  { chaining
    message := Vector.ofFn fun i : Fin 16 => wordAt text (4 * i.val)
    counter
    length := (last - start).toUInt32
    flags := (if start = first then chunkStart else 0)
      ||| (if last = stop then chunkEnd else 0) }

/-- The last block of the chunk of bytes `first` to `stop`, the blocks before it hashed. -/
def chunkFrom (input : ByteArray) (counter : UInt64) (first start stop : Nat)
    (chaining : Chaining) : Node :=
  let node := chunkBlock input counter first start stop chaining
  if start + blockSize < stop then
    chunkFrom input counter first (start + blockSize) stop (node.compress 0)
  else node
termination_by stop - start
decreasing_by simp [blockSize] at *; omega

/-- The node of chunk number `index`. -/
def chunk (input : ByteArray) (index : Nat) : Node :=
  let first := index * chunkSize
  chunkFrom input index.toUInt64 first first (min (first + chunkSize) input.size) initialChaining

/-- The node over two subtrees. -/
def parent (left right : Chaining) : Node :=
  { chaining := initialChaining, message := left ++ right, counter := 0
    length := blockSize.toUInt32, flags := parentFlag }

/-- The number of chunks of a text; the empty text has one empty chunk. -/
def chunkCount (size : Nat) : Nat := max 1 ((size + chunkSize - 1) / chunkSize)

/-- The chunks left of the root of a tree of `n` chunks: the largest power of two below `n`. -/
def leftChunks (n : Nat) : Nat := 1 <<< (n - 1).log2

theorem leftChunks_pos (n : Nat) : 0 < leftChunks n := by
  rw [leftChunks, Nat.one_shiftLeft]
  exact Nat.two_pow_pos _

theorem leftChunks_lt {n : Nat} (h : 1 < n) : leftChunks n < n := by
  have := Nat.log2_self_le (n := n - 1) (by omega)
  rw [leftChunks, Nat.one_shiftLeft]
  omega

/-- The node over `n` chunks from chunk `first` on. -/
def subtree (input : ByteArray) (first n : Nat) : Node :=
  if _ : 1 < n then
    let left := subtree input first (leftChunks n)
    let right := subtree input (first + leftChunks n) (n - leftChunks n)
    parent (left.compress 0) (right.compress 0)
  else chunk input first
termination_by n
decreasing_by
  · exact leftChunks_lt ‹1 < n›
  · exact Nat.sub_lt (Nat.zero_lt_of_lt ‹1 < n›) (leftChunks_pos n)

/-- The 32-byte hash of a text. -/
def hash (input : ByteArray) : Bytes 32 :=
  ⟨ChaCha20.serialize ((subtree input 0 (chunkCount input.size)).compress rootFlag), by simp⟩

end AvatarVault.Blake3
