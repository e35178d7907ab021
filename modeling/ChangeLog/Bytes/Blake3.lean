/-
  The BLAKE3 digest of 32 bytes. The input is cut into chunks of 1024 bytes, a chunk into blocks of
  64; chunks are the leaves of a binary tree whose left subtree is the largest full one that leaves
  something to the right. Only the shape of the result (eight words) is stated here.
-/
import ChangeLog.Bytes

namespace ChangeLog.Blake3

/-- A chaining value: eight words. -/
abbrev Chain := Vector UInt32 8

/-- A message block or a working state: sixteen words. -/
abbrev Block := Vector UInt32 16

/-- The chaining value that every chunk starts from. -/
def initial : Chain :=
  #v[0x6a09e667, 0xbb67ae85, 0x3c6ef372, 0xa54ff53a, 0x510e527f, 0x9b05688c, 0x1f83d9ab, 0x5be0cd19]

/-! ## Compression -/

/-- A word turned to the right by `n` bits. -/
def turn (w : UInt32) (n : UInt32) : UInt32 := (w >>> n) ||| (w <<< (32 - n))

/-- Mixes two message words into four words of the state. -/
def mix (s : Block) (a b c d : Fin 16) (x y : UInt32) : Block :=
  let s := s.set a (s[a] + s[b] + x)
  let s := s.set d (turn (s[d] ^^^ s[a]) 16)
  let s := s.set c (s[c] + s[d])
  let s := s.set b (turn (s[b] ^^^ s[c]) 12)
  let s := s.set a (s[a] + s[b] + y)
  let s := s.set d (turn (s[d] ^^^ s[a]) 8)
  let s := s.set c (s[c] + s[d])
  s.set b (turn (s[b] ^^^ s[c]) 7)

/-- One round: the columns, then the diagonals. -/
def round (s m : Block) : Block :=
  let s := mix s 0 4 8 12 m[0] m[1]
  let s := mix s 1 5 9 13 m[2] m[3]
  let s := mix s 2 6 10 14 m[4] m[5]
  let s := mix s 3 7 11 15 m[6] m[7]
  let s := mix s 0 5 10 15 m[8] m[9]
  let s := mix s 1 6 11 12 m[10] m[11]
  let s := mix s 2 7 8 13 m[12] m[13]
  mix s 3 4 9 14 m[14] m[15]

/-- The order in which the next round takes the message words. -/
def permute (m : Block) : Block :=
  #v[m[2], m[6], m[3], m[10], m[7], m[0], m[4], m[13],
    m[1], m[11], m[12], m[5], m[9], m[14], m[15], m[8]]

/-- `count` rounds, permuting the message between them. -/
def rounds : Nat → Block → Block → Block
  | 0, s, _ => s
  | count + 1, s, m => rounds count (round s m) (permute m)

/-- Everything that goes into one compression. -/
structure Node where
  chain : Chain
  block : Block
  counter : Nat
  size : Nat
  flags : UInt32

/-- Marks the first block of a chunk. -/
def chunkStart : UInt32 := 1
/-- Marks the last block of a chunk. -/
def chunkEnd : UInt32 := 2
/-- Marks an inner node of the tree. -/
def parent : UInt32 := 4
/-- Marks the compression that gives the digest. -/
def root : UInt32 := 8

/-- The chaining value that a node hands on. -/
def Node.compress (n : Node) : Chain :=
  let h := n.chain
  let s := rounds 7
    #v[h[0], h[1], h[2], h[3], h[4], h[5], h[6], h[7],
      initial[0], initial[1], initial[2], initial[3],
      UInt32.ofNat n.counter, UInt32.ofNat (n.counter >>> 32), UInt32.ofNat n.size, n.flags]
    n.block
  #v[s[0] ^^^ s[8], s[1] ^^^ s[9], s[2] ^^^ s[10], s[3] ^^^ s[11], s[4] ^^^ s[12], s[5] ^^^ s[13],
    s[6] ^^^ s[14], s[7] ^^^ s[15]]

/-! ## The tree -/

/-- The sixteen words of at most 64 bytes, filled up with zeros. -/
def words (bytes : Bytes) : Block :=
  Vector.ofFn fun i => UInt32.ofNat (Bytes.fromLittleEndian ((bytes.drop (4 * i.val)).take 4))

/-- The last node of a chunk, after the blocks before it have been compressed. -/
def chunk (chain : Chain) (counter : Nat) (start : UInt32) (bytes : Bytes) : Node :=
  if bytes.length ≤ 64 then
    { chain, block := words bytes, counter, size := bytes.length, flags := start ||| chunkEnd }
  else
    let first : Node :=
      { chain, block := words (bytes.take 64), counter, size := 64, flags := start }
    chunk first.compress counter 0 (bytes.drop 64)
termination_by bytes.length
decreasing_by simp; omega

/-- The size of the left subtree over more than one chunk. -/
def leftSize (size : Nat) : Nat := 1024 <<< Nat.log2 ((size - 1) / 1024)

theorem leftSize_pos (size : Nat) : 0 < leftSize size := by
  have := Nat.two_pow_pos (Nat.log2 ((size - 1) / 1024))
  unfold leftSize
  rw [Nat.shiftLeft_eq]
  omega

theorem leftSize_lt {size : Nat} (h : 1024 < size) : leftSize size < size := by
  have full : (size - 1) / 1024 ≠ 0 := by omega
  have := Nat.log2_self_le full
  unfold leftSize
  rw [Nat.shiftLeft_eq]
  omega

/-- The node over `bytes` whose first chunk has the number `counter`. -/
def tree (counter : Nat) (bytes : Bytes) : Node :=
  if h : bytes.length ≤ 1024 then chunk initial counter chunkStart bytes
  else
    let size := leftSize bytes.length
    let left := (tree counter (bytes.take size)).compress
    let right := (tree (counter + size / 1024) (bytes.drop size)).compress
    { chain := initial, block := left ++ right, counter := 0, size := 64, flags := parent }
termination_by bytes.length
decreasing_by
  · have := leftSize_lt (Nat.lt_of_not_le h)
    simp; omega
  · have := leftSize_lt (Nat.lt_of_not_le h)
    have := leftSize_pos bytes.length
    simp; omega

/-- The digest of a byte string. -/
def digest (bytes : Bytes) : Bytes :=
  let top := tree 0 bytes
  let words : Chain := { top with counter := 0, flags := top.flags ||| root }.compress
  words.toList.flatMap fun w => Bytes.littleEndian 4 w.toNat

@[simp] theorem length_digest (bytes : Bytes) : (digest bytes).length = 32 := by
  simp [digest, List.length_flatMap, List.map_const']

end ChangeLog.Blake3
