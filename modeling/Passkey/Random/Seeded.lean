import Passkey.Random.ChaCha
import Passkey.Random.Source

/-!
# Random bytes from a seed

A source that gives the same bytes whenever it starts from the same seed. The seed is spread over a
key by a small generator, and the bytes are those of ChaCha20 under that key. Every draw takes whole
words.
-/

namespace Passkey

/-- A state of the source: a key, and how many words were taken. -/
structure SeededState where
  key : ChaCha.Key
  position : Nat
  deriving DecidableEq, Repr

namespace SeededState

/-- The next state of the generator that spreads a seed. -/
def spread (state : UInt64) : UInt64 := state * 6364136223846793005 + 11634580027462260723

/-- The word that a state of the generator gives. -/
def spreadWord (state : UInt64) : UInt32 :=
  let mixed := (((state >>> 18) ^^^ state) >>> 27).toUInt32
  let turn := (state >>> 59).toUInt32
  if turn = 0 then mixed else (mixed >>> turn) ||| (mixed <<< (32 - turn))

/-- Four words, and the generator's state after them. -/
def spreadRow (state : UInt64) : ChaCha.Row × UInt64 :=
  let s₀ := spread state
  let s₁ := spread s₀
  let s₂ := spread s₁
  let s₃ := spread s₂
  (⟨spreadWord s₀, spreadWord s₁, spreadWord s₂, spreadWord s₃⟩, s₃)

/-- The state at the start. -/
def ofSeed (seed : UInt64) : SeededState :=
  let (low, state) := spreadRow seed
  let (high, _) := spreadRow state
  ⟨⟨low, high⟩, 0⟩

/-- The bytes of a word, least significant first. -/
def wordBytes (w : UInt32) : Bytes :=
  [w.toUInt8, (w >>> 8).toUInt8, (w >>> 16).toUInt8, (w >>> 24).toUInt8]

@[simp] theorem length_wordBytes (w : UInt32) : (wordBytes w).length = 4 := rfl

/-- How many words hold so many bytes. -/
def wordsFor (length : Nat) : Nat := (length + 3) / 4

/-- The next bytes. -/
def bytes (s : SeededState) (length : Nat) : Bytes :=
  ((ChaCha.words s.key s.position (wordsFor length)).flatMap wordBytes).take length

theorem length_bytes (s : SeededState) (length : Nat) : (s.bytes length).length = length := by
  simp only [bytes, List.length_take, List.length_flatMap, length_wordBytes, List.map_const',
    ChaCha.length_words, List.sum_replicate_nat, wordsFor]
  omega

end SeededState

/-- The source that starts from a seed. -/
def seededSource : RandomSource SeededState where
  draw s length := (s.bytes length, { s with position := s.position + SeededState.wordsFor length })
  length_draw := SeededState.length_bytes

end Passkey
