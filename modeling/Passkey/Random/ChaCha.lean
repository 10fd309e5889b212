import Passkey.Bytes

/-!
# ChaCha20

A block function from a key and a counter to sixteen words that look random. The state is a matrix
of four rows; twenty rounds mix its columns and its diagonals in turn.
-/

namespace Passkey.ChaCha

/-- A row of the state. -/
structure Row where
  w₀ : UInt32
  w₁ : UInt32
  w₂ : UInt32
  w₃ : UInt32
  deriving DecidableEq, Repr

namespace Row

/-- Combines two rows word by word. -/
def zip (f : UInt32 → UInt32 → UInt32) (a b : Row) : Row :=
  ⟨f a.w₀ b.w₀, f a.w₁ b.w₁, f a.w₂ b.w₂, f a.w₃ b.w₃⟩

/-- Rotates the bits of a word to the left. -/
def rotateBits (n : UInt32) (w : UInt32) : UInt32 := (w <<< n) ||| (w >>> (32 - n))

/-- Rotates the bits of every word. -/
def rotate (n : UInt32) (a : Row) : Row :=
  ⟨rotateBits n a.w₀, rotateBits n a.w₁, rotateBits n a.w₂, rotateBits n a.w₃⟩

/-- Moves every word one place to the left. -/
def shift (a : Row) : Row := ⟨a.w₁, a.w₂, a.w₃, a.w₀⟩

/-- The words in order. -/
def toList (a : Row) : List UInt32 := [a.w₀, a.w₁, a.w₂, a.w₃]

end Row

/-- The state. -/
structure State where
  a : Row
  b : Row
  c : Row
  d : Row
  deriving DecidableEq, Repr

namespace State

/-- Half of the mixing of the columns. -/
def mixHalf (m n : UInt32) (s : State) : State :=
  let a := s.a.zip (· + ·) s.b
  let d := (s.d.zip (· ^^^ ·) a).rotate m
  let c := s.c.zip (· + ·) d
  let b := (s.b.zip (· ^^^ ·) c).rotate n
  ⟨a, b, c, d⟩

/-- Mixes the columns. -/
def mix (s : State) : State := (s.mixHalf 16 12).mixHalf 8 7

/-- Mixes the columns and then the diagonals. -/
def doubleRound (s : State) : State :=
  let s := s.mix
  let s := mix ⟨s.a, s.b.shift, s.c.shift.shift, s.d.shift.shift.shift⟩
  ⟨s.a, s.b.shift.shift.shift, s.c.shift.shift, s.d.shift⟩

/-- The state after so many double rounds. -/
def rounds : (count : Nat) → State → State
  | 0, s => s
  | count + 1, s => rounds count s.doubleRound

/-- Adds two states word by word. -/
def add (s t : State) : State :=
  ⟨s.a.zip (· + ·) t.a, s.b.zip (· + ·) t.b, s.c.zip (· + ·) t.c, s.d.zip (· + ·) t.d⟩

/-- The words in order. -/
def toList (s : State) : List UInt32 := s.a.toList ++ s.b.toList ++ s.c.toList ++ s.d.toList

end State

/-- A key, in two rows. -/
structure Key where
  low : Row
  high : Row
  deriving DecidableEq, Repr

/-- The first row of every state. -/
def constants : Row := ⟨0x61707865, 0x3320646e, 0x79622d32, 0x6b206574⟩

/-- The state at the start of a block. -/
def start (key : Key) (counter : UInt64) : State :=
  ⟨constants, key.low, key.high, ⟨counter.toUInt32, (counter >>> 32).toUInt32, 0, 0⟩⟩

/-- The words of a block. -/
def block (key : Key) (counter : UInt64) : List UInt32 :=
  let s := start key counter
  ((s.rounds 10).add s).toList

/-- Words in a block. -/
def blockSize : Nat := 16

@[simp] theorem length_block (key : Key) (counter : UInt64) :
    (block key counter).length = blockSize := rfl

/-- The words of some blocks in a row. -/
def blocks (key : Key) (first count : Nat) : List UInt32 :=
  (List.range count).flatMap fun i => block key (UInt64.ofNat (first + i))

@[simp] theorem length_blocks (key : Key) (first count : Nat) :
    (blocks key first count).length = count * blockSize := by
  simp only [blocks, List.length_flatMap, length_block, List.map_const', List.length_range,
    List.sum_replicate_nat]

/-- Some words in a row, counted from the start of the first block. -/
def words (key : Key) (position count : Nat) : List UInt32 :=
  let skipped := position % blockSize
  let blockCount := (skipped + count + (blockSize - 1)) / blockSize
  ((blocks key (position / blockSize) blockCount).drop skipped).take count

@[simp] theorem length_words (key : Key) (position count : Nat) :
    (words key position count).length = count := by
  simp [words, blockSize]
  omega

end Passkey.ChaCha
