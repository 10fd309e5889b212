import Passkey.Bytes

/-!
# Sources of random bytes

A source is a state and a way to draw any number of bytes from it. Drawing gives exactly as many
bytes as were asked for.
-/

namespace Passkey

/-- A source of random bytes whose states are of type `σ`. -/
structure RandomSource (σ : Type) where
  draw : σ → Nat → Bytes × σ
  length_draw : ∀ s n, (draw s n).1.length = n

/-- The numbers from a state on, modulo 256. -/
def countingBytes : (start length : Nat) → Bytes
  | _, 0 => []
  | start, length + 1 => UInt8.ofNat start :: countingBytes (start + 1) length

theorem length_countingBytes (start length : Nat) :
    (countingBytes start length).length = length := by
  induction length generalizing start with
  | zero => rfl
  | succ n ih => simp [countingBytes, ih]

/-- The source that counts. -/
def countingSource : RandomSource Nat where
  draw start length := (countingBytes start length, start + length)
  length_draw := length_countingBytes

end Passkey
