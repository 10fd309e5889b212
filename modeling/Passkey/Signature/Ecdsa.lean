import Passkey.Asn1.Der
import Passkey.Curve.Nist
import Passkey.Digest.Hash
import Passkey.Digest.Hmac

/-!
# ECDSA

Signatures are pairs of numbers below the group order, written as a DER sequence. A signature is
checked over a message, with the hash function that goes with the curve, or over a digest that was
made elsewhere and is fitted to the size of a coordinate first. Signing draws its nonce from the key
and the digest.
-/

namespace Passkey

/-- The hash function that goes with a curve. -/
def Curve.hash : Curve → Hash
  | .p256 => .sha256
  | .p384 => .sha384
  | .p521 => .sha512

namespace Ecdsa

/-- The two numbers of a signature. -/
structure Signature where
  r : Nat
  s : Nat
  deriving DecidableEq, Repr

/-- Both numbers are in the range of the group order, zero excluded. -/
def Signature.inRange (c : Curve) (sig : Signature) : Bool :=
  0 < sig.r && sig.r < c.order && 0 < sig.s && sig.s < c.order

/-- Reads a signature in DER: a sequence of exactly two integers in range. -/
def Signature.ofDer? (c : Curve) (der : Bytes) : Option Signature := do
  let members ← Der.element? der >>= Der.Element.sequence?
  match members with
  | [r, s] =>
    let sig : Signature := ⟨← r.natural?, ← s.natural?⟩
    if sig.inRange c then some sig else none
  | _ => none

/-- A signature in DER. -/
def Signature.write (sig : Signature) (c : Curve) : Bytes :=
  Der.sequence [Der.unsigned (c.coordinate sig.r), Der.unsigned (c.coordinate sig.s)]

/-- A digest of any length in as many octets as a coordinate has: the first ones of a longer digest,
and a shorter one after zeros. A digest of less than half a coordinate is refused. -/
def fitted? (c : Curve) (digest : Bytes) : Option Bytes :=
  if digest.length < c.coordinateSize / 2 then none
  else some (List.replicate (c.coordinateSize - digest.length) 0 ++ digest.take c.coordinateSize)

/-- The verification equation: with `w` the inverse of `s`, the point `(z w) G + (r w) Q` has an
`x` congruent to `r`. -/
def equation (c : Curve) (key : Curve.Point) (z : Nat) (sig : Signature) : Bool :=
  let w := Modular.inverse c.order sig.s
  let point := c.add (c.mul (z * w % c.order) c.base) (c.mul (sig.r * w % c.order) key)
  match point with
  | .infinity => false
  | .affine x _ => x % c.order == sig.r

/-- Whether the bytes are a signature over this message by the key at these coordinates. The message
is hashed here, and the digest is used as it is. -/
def verifyMessage (c : Curve) (x y : Nat) (message signature : Bytes) : Bool :=
  match Signature.ofDer? c signature with
  | some sig => equation c (.affine x y) (Bytes.toNat (c.hash.digest message)) sig
  | none => false

/-- Whether the bytes are a signature over this digest, which may be of any hash function, by the
key at these coordinates. -/
def verifyDigest (c : Curve) (x y : Nat) (digest signature : Bytes) : Bool :=
  match Signature.ofDer? c signature, fitted? c digest with
  | some sig, some octets => equation c (.affine x y) (Bytes.toNat octets) sig
  | _, _ => false

/-! ### Signing on P-256 -/

/-- The state of the nonce generator. -/
structure NonceState where
  key : Bytes
  value : Bytes

/-- The generator after absorbing an input under a marker. -/
def NonceState.absorb (g : NonceState) (marker : UInt8) (input : Bytes) : NonceState :=
  let key := hmacSha256 g.key (g.value ++ marker :: input)
  ⟨key, hmacSha256 key g.value⟩

/-- The generator seeded with a private key and a digest. -/
def NonceState.seed (secret z : Nat) : NonceState :=
  let input := Bytes.ofNat 32 secret ++ Bytes.ofNat 32 (z % Curve.p256.order)
  let start : NonceState := ⟨List.replicate 32 0, List.replicate 32 1⟩
  (start.absorb 0 input).absorb 1 input

/-- The first value of the generator in the range of the group order. -/
def NonceState.nonce? (g : NonceState) : (tries : Nat) → Option Nat
  | 0 => none
  | tries + 1 =>
    let value := hmacSha256 g.key g.value
    let k := Bytes.toNat value
    if 0 < k ∧ k < Curve.p256.order then some k
    else NonceState.nonce? (NonceState.absorb ⟨g.key, value⟩ 0 []) tries

/-- The signature over a message by a private key, the same each time. -/
def sign? (secret : Nat) (message : Bytes) : Option Signature := do
  let n := Curve.p256.order
  let z := Bytes.toNat (← fitted? .p256 (sha256 message))
  let k ← (NonceState.seed secret z).nonce? 64
  match Curve.p256.mul k Curve.p256.base with
  | .infinity => none
  | .affine x _ =>
    let r := x % n
    let sig : Signature := ⟨r, Modular.inverse n k * (z + r * secret) % n⟩
    if sig.inRange .p256 then some sig else none

end Ecdsa

end Passkey
