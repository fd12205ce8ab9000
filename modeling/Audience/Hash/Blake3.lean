import Audience.Hash.Words
import Audience.Number.Power

/-! # The BLAKE3 hash

A message is cut into chunks of 1024 bytes, each chunk into blocks of 64 bytes. The blocks of a
chunk are compressed one after another, and the chunks are the leaves of a binary tree in which
every left part holds a power of two of complete chunks. The hash is the value of the root, in which
the last compression is marked as such.

* **`Blake3.compress`** — the compression function.
* **`Blake3.subtree first bytes`** — the last compression, not yet run, of a part of the message.
* **`Blake3.hash bytes`** — the 32 bytes of the hash. -/

namespace Audience.Blake3

/-! ## Compression -/

/-- A chaining value. -/
abbrev Chain := Vector UInt32 8

/-- The words of a block, or the state of a compression. -/
abbrev Block := Vector UInt32 16

/-- The chaining value at the start of every chunk. -/
def start : Chain := #v[
  0x6A09E667, 0xBB67AE85, 0x3C6EF372, 0xA54FF53A, 0x510E527F, 0x9B05688C, 0x1F83D9AB, 0x5BE0CD19]

/-- Marks the first block of a chunk. -/
def chunkStart : UInt32 := 1

/-- Marks the last block of a chunk. -/
def chunkEnd : UInt32 := 2

/-- Marks a block of two chaining values. -/
def parent : UInt32 := 4

/-- Marks the last compression of a message. -/
def root : UInt32 := 8

/-- Rotation to the right. -/
def rotate (w : UInt32) (n : UInt32) : UInt32 := (w >>> n) ||| (w <<< (32 - n))

/-- Mixes two message words into four words of the state. -/
def quarter (v : Block) (a b c d : Fin 16) (x y : UInt32) : Block :=
  let v := v.set a (v[a] + v[b] + x)
  let v := v.set d (rotate (v[d] ^^^ v[a]) 16)
  let v := v.set c (v[c] + v[d])
  let v := v.set b (rotate (v[b] ^^^ v[c]) 12)
  let v := v.set a (v[a] + v[b] + y)
  let v := v.set d (rotate (v[d] ^^^ v[a]) 8)
  let v := v.set c (v[c] + v[d])
  v.set b (rotate (v[b] ^^^ v[c]) 7)

/-- One round: the columns of the state, then its diagonals. -/
def round (v m : Block) : Block :=
  let v := quarter v 0 4 8 12 m[0] m[1]
  let v := quarter v 1 5 9 13 m[2] m[3]
  let v := quarter v 2 6 10 14 m[4] m[5]
  let v := quarter v 3 7 11 15 m[6] m[7]
  let v := quarter v 0 5 10 15 m[8] m[9]
  let v := quarter v 1 6 11 12 m[10] m[11]
  let v := quarter v 2 7 8 13 m[12] m[13]
  quarter v 3 4 9 14 m[14] m[15]

/-- The order of the message words in the next round. -/
def permute (m : Block) : Block := #v[
  m[2], m[6], m[3], m[10], m[7], m[0], m[4], m[13],
  m[1], m[11], m[12], m[5], m[9], m[14], m[15], m[8]]

/-- So many rounds, with the message words permuted between them. -/
def rounds : Nat → Block → Block → Block
  | 0, v, _ => v
  | n + 1, v, m => rounds n (round v m) (permute m)

/-- Compresses a block of a given length into a chaining value. -/
def compress (chain : Chain) (m : Block) (counter : Nat) (length flags : UInt32) : Chain :=
  let v : Block := #v[
    chain[0], chain[1], chain[2], chain[3], chain[4], chain[5], chain[6], chain[7],
    start[0], start[1], start[2], start[3],
    UInt32.ofNat counter, UInt32.ofNat (counter / 0x100000000), length, flags]
  let v := rounds 7 v m
  #v[v[0] ^^^ v[8], v[1] ^^^ v[9], v[2] ^^^ v[10], v[3] ^^^ v[11],
    v[4] ^^^ v[12], v[5] ^^^ v[13], v[6] ^^^ v[14], v[7] ^^^ v[15]]

/-! ## Chunks -/

/-- Bytes in a block. -/
def blockSize : Nat := 64

/-- Bytes in a chunk. -/
def chunkSize : Nat := 1024

/-- The word of the first four bytes; missing bytes are zero. -/
def leadingWord : List UInt8 → UInt32
  | a :: b :: c :: d :: _ => bytesWord a b c d
  | [a, b, c] => bytesWord a b c 0
  | [a, b] => bytesWord a b 0 0
  | [a] => bytesWord a 0 0 0
  | [] => 0

/-- The words of a block; missing bytes are zero. -/
def blockWords (bytes : List UInt8) : Block :=
  Vector.ofFn (fun i => leadingWord (bytes.drop (4 * i.val)))

/-- The blocks of a chunk. An empty chunk is one empty block. -/
def blocks (bytes : List UInt8) : List (List UInt8) :=
  if bytes.length ≤ blockSize then [bytes]
  else bytes.take blockSize :: blocks (bytes.drop blockSize)
termination_by bytes.length
decreasing_by
  simp only [List.length_drop, blockSize] at *
  omega

/-- The last compression of a part of the message, not yet run. -/
structure Pending where
  chain : Chain
  words : Block
  counter : Nat
  length : UInt32
  flags : UInt32

/-- The chaining value of a part of the message. -/
def Pending.chaining (p : Pending) : Chain :=
  compress p.chain p.words p.counter p.length p.flags

/-- The value of a part that is the whole message. -/
def Pending.final (p : Pending) : Chain := compress p.chain p.words 0 p.length (p.flags ||| root)

/-- Compresses all blocks but the last one, which is left pending. -/
def chunkFrom (index : Nat) (chain : Chain) (flags : UInt32) : List (List UInt8) → Pending
  | [] => ⟨chain, blockWords [], index, 0, flags ||| chunkEnd⟩
  | [b] => ⟨chain, blockWords b, index, UInt32.ofNat b.length, flags ||| chunkEnd⟩
  | b :: rest =>
    chunkFrom index (compress chain (blockWords b) index (UInt32.ofNat b.length) flags) 0 rest

/-- The chunk of a given index. -/
def chunk (index : Nat) (bytes : List UInt8) : Pending :=
  chunkFrom index start chunkStart (blocks bytes)

/-! ## The tree -/

/-- The node over two parts. -/
def node (left right : Chain) : Pending := ⟨start, left ++ right, 0, 64, parent⟩

/-- The length of the left part: the greatest power of two of chunks that leaves a byte over. -/
def leftLength (n : Nat) : Nat := chunkSize * twoTo ((n - 1) / chunkSize).log2

/-- Both parts are shorter than the whole. -/
theorem leftLength_lt {n : Nat} (h : ¬n ≤ chunkSize) : 0 < leftLength n ∧ leftLength n < n := by
  have hk : (n - 1) / chunkSize ≠ 0 := by
    unfold chunkSize at *
    omega
  have hle := twoTo_log2_le hk
  have hpos := twoTo_pos ((n - 1) / chunkSize).log2
  unfold leftLength
  unfold chunkSize at *
  omega

/-- The part of the message that starts with the chunk of index `first`. -/
def subtree (first : Nat) (bytes : List UInt8) : Pending :=
  if _ : bytes.length ≤ chunkSize then chunk first bytes
  else
    let left := leftLength bytes.length
    node (subtree first (bytes.take left)).chaining
      (subtree (first + left / chunkSize) (bytes.drop left)).chaining
termination_by bytes.length
decreasing_by
  all_goals
    have := leftLength_lt ‹_›
    simp only [List.length_take, List.length_drop]
    omega

/-- The 32 bytes of the hash of a message. -/
def hash (bytes : List UInt8) : List UInt8 := (subtree 0 bytes).final.toList.flatMap wordBytes

end Audience.Blake3
