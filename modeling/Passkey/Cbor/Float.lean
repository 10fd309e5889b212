import Passkey.Bytes

/-!
# Floating-point numbers in CBOR

A number travels in a form of 16, 32 or 64 bits and is kept in the last. `widen` brings a shorter
form to the 64 bits, and `narrow?` goes back where the shorter form widens to the very same bits
(`widen_of_narrow?`).
-/

namespace Passkey.Cbor

/-- A form shorter than 64 bits: a sign, an exponent and a fraction of these sizes. -/
structure FloatForm where
  exponentBits : Nat
  fractionBits : Nat
  deriving DecidableEq, Repr

namespace FloatForm

/-- The form of 16 bits. -/
def half : FloatForm := ⟨5, 10⟩

/-- The form of 32 bits. -/
def single : FloatForm := ⟨8, 23⟩

/-- The exponent that infinity and what is not a number have. -/
def topExponent (f : FloatForm) : Nat := (1 <<< f.exponentBits) - 1

/-- The exponent of numbers from one up to two. -/
def bias (f : FloatForm) : Nat := (1 <<< (f.exponentBits - 1)) - 1

/-- The 64-bit form of a number. A quiet bit is set in whatever is not a number. -/
def widen (f : FloatForm) (bits : Nat) : UInt64 :=
  let sign := (bits >>> (f.exponentBits + f.fractionBits)) % 2
  let exponent := (bits >>> f.fractionBits) % (1 <<< f.exponentBits)
  let fraction := bits % (1 <<< f.fractionBits)
  let magnitude :=
    if exponent = f.topExponent then
      if fraction = 0 then 0x7ff0000000000000
      else 0x7ff8000000000000 ||| (fraction <<< (52 - f.fractionBits))
    else if exponent = 0 then
      if fraction = 0 then 0
      else
        let top := fraction.log2
        ((1023 + top - (f.bias - 1) - f.fractionBits) <<< 52)
          + ((fraction <<< (52 - top)) - (1 <<< 52))
    else ((exponent + 1023 - f.bias) <<< 52) + (fraction <<< (52 - f.fractionBits))
  UInt64.ofNat ((sign <<< 63) + magnitude)

/-- A number cut to this form. A number out of its range is cut to infinity, and one that is too
near to zero for the least exponent loses digits of the fraction. -/
def cut (f : FloatForm) (bits : UInt64) : Nat :=
  let sign := bits.toNat >>> 63
  let exponent := (bits.toNat >>> 52) % 2048
  let fraction := bits.toNat % (1 <<< 52)
  let magnitude :=
    if exponent = 2047 then
      (f.topExponent <<< f.fractionBits) + (fraction >>> (52 - f.fractionBits))
    else if 1023 + f.bias < exponent then f.topExponent <<< f.fractionBits
    else if 1023 < exponent + f.bias then
      ((exponent + f.bias - 1023) <<< f.fractionBits) + (fraction >>> (52 - f.fractionBits))
    else (fraction + (1 <<< 52)) >>> (1076 - f.bias - f.fractionBits - exponent)
  (sign <<< (f.exponentBits + f.fractionBits)) + magnitude

/-- A number in this form, if the form holds all of it. -/
def narrow? (f : FloatForm) (bits : UInt64) : Option Nat :=
  if f.widen (f.cut bits) = bits then some (f.cut bits) else none

theorem widen_of_narrow? {f : FloatForm} {bits : UInt64} {n : Nat} (h : f.narrow? bits = some n) :
    f.widen n = bits := by
  unfold narrow? at h
  split at h
  · cases h
    assumption
  · cases h

end FloatForm

/-- A number in the shortest form that holds all of it. -/
def writeFloat (bits : UInt64) : Bytes :=
  match FloatForm.half.narrow? bits, FloatForm.single.narrow? bits with
  | some n, _ => 0xf9 :: Bytes.ofNat 2 n
  | none, some n => 0xfa :: Bytes.ofNat 4 n
  | none, none => 0xfb :: Bytes.ofNat 8 bits.toNat

end Passkey.Cbor
