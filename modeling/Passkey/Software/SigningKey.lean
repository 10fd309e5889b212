import Passkey.Curve.Nist
import Passkey.Random.Seeded
import Passkey.Signature.Ecdsa

/-!
# Private keys in software

A key on P-256 that is drawn from a source of random bytes and signs the way an authenticator does.
-/

namespace Passkey

/-- A private key with the coordinates of its public key. -/
structure SigningKey where
  secret : Nat
  x : Nat
  y : Nat
  deriving DecidableEq, Repr

namespace SigningKey

/-- The key with this secret number. -/
def ofSecret? (secret : Nat) : Option SigningKey :=
  match Curve.p256.mul secret Curve.p256.base with
  | .affine x y => some ⟨secret, x, y⟩
  | .infinity => none

/-- Draws numbers until one is in the range of the group order. -/
def draw? {σ : Type} (random : RandomSource σ) : (tries : Nat) → σ → Option SigningKey
  | 0, _ => none
  | tries + 1, s =>
    let (octets, s) := random.draw s Curve.p256.coordinateSize
    let secret := Bytes.toNat octets
    if 0 < secret ∧ secret < Curve.p256.order then ofSecret? secret else draw? random tries s

/-- How many draws are made at most. One in four thousand million fails. -/
def maxTries : Nat := 16

/-- The key that is drawn from a seed. -/
def ofSeed? (seed : UInt64) : Option SigningKey :=
  draw? seededSource maxTries (SeededState.ofSeed seed)

/-- The first coordinate of the public key. -/
def publicX (k : SigningKey) : Bytes := Curve.p256.coordinate k.x

/-- The second coordinate of the public key. -/
def publicY (k : SigningKey) : Bytes := Curve.p256.coordinate k.y

/-- The public key in octet form. -/
def octets (k : SigningKey) : Bytes := 0x04 :: k.publicX ++ k.publicY

/-- A signature over the SHA-256 digest of a message, in DER. -/
def sign? (k : SigningKey) (message : Bytes) : Option Bytes :=
  (Ecdsa.sign? k.secret message).map (·.write .p256)

end SigningKey

end Passkey
