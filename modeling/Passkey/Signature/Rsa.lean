import Passkey.Asn1.Der
import Passkey.Digest.Hash
import Passkey.Modular

/-!
# RSA signatures

Which public keys are usable, and the two paddings: the deterministic one of PKCS #1 v1.5 and the
probabilistic one (PSS) with a salt of the digest's length.
-/

namespace Passkey.Rsa

/-- A modulus and a public exponent. -/
structure Key where
  n : Nat
  e : Nat
  deriving DecidableEq, Repr

/-- Why a key cannot be used. -/
inductive Defect where
  | modulusTooLarge
  | exponentTooLarge
  | invalidModulus
  | invalidExponent
  | exponentTooSmall
  deriving DecidableEq, Repr

/-- The wording of a defect. -/
def Defect.message : Defect → String
  | .modulusTooLarge => "modulus too large"
  | .exponentTooLarge => "public exponent too large"
  | .invalidModulus => "invalid modulus"
  | .invalidExponent => "invalid exponent"
  | .exponentTooSmall => "public exponent too small"

/-- The longest modulus, in bits. -/
def maxBits : Nat := 4096

/-- The greatest exponent of a usable key. -/
def maxExponent : Nat := 0x1ffffffff

/-- The greatest exponent that is judged by more than its size. -/
def maxWord : Nat := 0xffffffffffffffff

/-- Bits of the modulus. -/
def Key.bits (key : Key) : Nat := if key.n = 0 then 0 else key.n.log2 + 1

/-- The first defect of a key, if it has one. -/
def Key.defect? (key : Key) : Option Defect :=
  if key.bits > maxBits then some .modulusTooLarge
  else if key.e > maxWord then some .exponentTooLarge
  else if key.e ≥ key.n ∨ key.n % 2 = 0 then some .invalidModulus
  else if key.e % 2 = 0 then some .invalidExponent
  else if key.e < 2 then some .exponentTooSmall
  else if key.e > maxExponent then some .exponentTooLarge
  else none

/-- Octets of the modulus. -/
def Key.size (key : Key) : Nat := (key.bits + 7) / 8

/-- The message representative behind a signature, as octets of the modulus' size. -/
def Key.recover (key : Key) (signature : Bytes) : Bytes :=
  Bytes.ofNat key.size (Modular.pow key.n (Bytes.toNat signature % key.n) key.e)

/-- What the deterministic padding puts before a digest. -/
def digestHeader : Hash → Bytes
  | .sha256 => [0x30, 0x31, 0x30, 0x0d, 0x06, 0x09, 0x60, 0x86, 0x48, 0x01, 0x65, 0x03, 0x04, 0x02,
      0x01, 0x05, 0x00, 0x04, 0x20]
  | .sha384 => [0x30, 0x41, 0x30, 0x0d, 0x06, 0x09, 0x60, 0x86, 0x48, 0x01, 0x65, 0x03, 0x04, 0x02,
      0x02, 0x05, 0x00, 0x04, 0x30]
  | .sha512 => [0x30, 0x51, 0x30, 0x0d, 0x06, 0x09, 0x60, 0x86, 0x48, 0x01, 0x65, 0x03, 0x04, 0x02,
      0x03, 0x05, 0x00, 0x04, 0x40]

/-- A signature with the deterministic padding: `00 01`, at least eight octets `ff`, `00`, and the
digest with its header. -/
def verifyPkcs1 (key : Key) (hash : Hash) (message signature : Bytes) : Bool :=
  let tail := digestHeader hash ++ hash.digest message
  let size := key.size
  signature.length == size && Bytes.toNat signature < key.n && tail.length + 11 ≤ size
    && key.recover signature ==
      [0x00, 0x01] ++ List.replicate (size - tail.length - 3) 0xff ++ 0x00 :: tail

/-- The first `length` octets of the mask that a seed generates. -/
def mask (hash : Hash) (seed : Bytes) (length : Nat) : Bytes :=
  let count := (length + hash.size - 1) / hash.size
  ((List.range count).flatMap fun i => hash.digest (seed ++ Bytes.ofNat 4 i)).take length

/-- The probabilistic padding of a digest in an encoded message that may use `bits` bits: masked
zeros, a one and the salt, then a digest of it all, then `bc`. -/
def pssMatches (hash : Hash) (bits : Nat) (encoded digest : Bytes) : Bool :=
  let size := encoded.length
  let blockSize := size - hash.size - 1
  let masked := encoded.take blockSize
  let check := (encoded.drop blockSize).take hash.size
  let spare := 8 * size - bits
  let plain := masked.zipWith (· ^^^ ·) (mask hash check blockSize)
  let block : Bytes :=
    match plain with
    | [] => []
    | b :: rest => UInt8.ofNat (b.toNat % (0x100 >>> spare)) :: rest
  let zeros := blockSize - hash.size - 1
  let salt := block.drop (zeros + 1)
  2 * hash.size + 2 ≤ size && encoded.getLast? == some 0xbc
    && (masked.headD 0).toNat < 0x100 >>> spare
    && block.take (zeros + 1) == List.replicate zeros 0 ++ [1]
    && hash.digest (List.replicate 8 0 ++ digest ++ salt) == check

/-- A signature with the probabilistic padding. -/
def verifyPss (key : Key) (hash : Hash) (message signature : Bytes) : Bool :=
  let bits := key.bits - 1
  let encoded := (key.recover signature).drop (key.size - (bits + 7) / 8)
  signature.length == key.size && pssMatches hash bits encoded (hash.digest message)

/-- Reads a modulus and an exponent from a DER sequence of two non-negative integers. -/
def Key.ofDer? (der : Bytes) : Option Key := do
  let members ← Der.element? der >>= Der.Element.sequence?
  match members with
  | [n, e] => return ⟨← n.natural?, ← e.natural?⟩
  | _ => none

end Passkey.Rsa
