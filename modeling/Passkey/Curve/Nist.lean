import Passkey.Bytes
import Passkey.Modular

/-!
# The NIST prime curves

Points of P-256, P-384 and P-521 in affine coordinates, their addition, and the octet forms in
which they travel. Every prime here is 3 modulo 4, so a square root is one power.
-/

namespace Passkey

/-- The supported prime curves. -/
inductive Curve where
  | p256
  | p384
  | p521
  deriving DecidableEq, Repr

namespace Curve

/-- The prime of the coordinate field. -/
def prime : Curve → Nat
  | .p256 => 0xffffffff00000001000000000000000000000000ffffffffffffffffffffffff
  | .p384 => 0xfffffffffffffffffffffffffffffffffffffffffffffffffffffffffffffffeffffffff0000000000000000ffffffff
  | .p521 => 0x1ffffffffffffffffffffffffffffffffffffffffffffffffffffffffffffffffffffffffffffffffffffffffffffffffffffffffffffffffffffffffffffffffff

/-- The constant term of the equation `y² = x³ - 3x + b`. -/
def b : Curve → Nat
  | .p256 => 0x5ac635d8aa3a93e7b3ebbd55769886bc651d06b0cc53b0f63bce3c3e27d2604b
  | .p384 => 0xb3312fa7e23ee7e4988e056be3f82d19181d9c6efe8141120314088f5013875ac656398d8a2ed19d2a85c8edd3ec2aef
  | .p521 => 0x0051953eb9618e1c9a1f929a21a0b68540eea2da725b99b315f3b8b489918ef109e156193951ec7e937b1652c0bd3bb1bf073573df883d2c34f1ef451fd46b503f00

/-- The order of the group, a prime. -/
def order : Curve → Nat
  | .p256 => 0xffffffff00000000ffffffffffffffffbce6faada7179e84f3b9cac2fc632551
  | .p384 => 0xffffffffffffffffffffffffffffffffffffffffffffffffc7634d81f4372ddf581a0db248b0a77aecec196accc52973
  | .p521 => 0x1fffffffffffffffffffffffffffffffffffffffffffffffffffffffffffffffffa51868783bf2f966b7fcc0148f709a5d03bb5c9b8899c47aebb6fb71e91386409

/-- Bytes in a coordinate. -/
def coordinateSize : Curve → Nat
  | .p256 => 32
  | .p384 => 48
  | .p521 => 66

/-- A point of a curve. -/
inductive Point where
  /-- The neutral element. -/
  | infinity
  | affine (x y : Nat)
  deriving DecidableEq, Repr

/-- The generator of the group. -/
def base : Curve → Point
  | .p256 => .affine
      0x6b17d1f2e12c4247f8bce6e563a440f277037d812deb33a0f4a13945d898c296
      0x4fe342e2fe1a7f9b8ee7eb4a7c0f9e162bce33576b315ececbb6406837bf51f5
  | .p384 => .affine
      0xaa87ca22be8b05378eb1c71ef320ad746e1d3b628ba79b9859f741e082542a385502f25dbf55296c3a545e3872760ab7
      0x3617de4a96262c6f5d9e98bf9292dc29f8f41dbd289a147ce9da3113b5f0b8c00a60b1ce1d7e819d7a431d7c90ea0e5f
  | .p521 => .affine
      0x00c6858e06b70404e9cd9e3ecb662395b4429c648139053fb521f828af606b4d3dbaa14b5e77efe75928fe1dc127a2ffa8de3348b3c1856a429bf97e7e31c2e5bd66
      0x011839296a789a3bc0045c8a5fb42c7d1bd998f54449579b446817afbd17273e662c97ee72995ef42640c550b9013fad0761353c7086a272c24088be94769fd16650

/-- The right-hand side of the equation at `x`. -/
def rhs (c : Curve) (x : Nat) : Nat :=
  (x * x * x + (c.prime - 3) * x + c.b) % c.prime

/-- Both coordinates are reduced and satisfy the equation. -/
def contains (c : Curve) (x y : Nat) : Bool :=
  x < c.prime && y < c.prime && y * y % c.prime == c.rhs x

/-- The third point on the line of the given slope through `(x₁, y₁)` and a point with the
coordinate `x₂`, mirrored. -/
def chord (c : Curve) (slope x₁ y₁ x₂ : Nat) : Point :=
  let x := Modular.sub c.prime (slope * slope) (x₁ + x₂)
  .affine x (Modular.sub c.prime (slope * Modular.sub c.prime x₁ x) y₁)

/-- The sum of two points. -/
def add (c : Curve) : Point → Point → Point
  | .infinity, q => q
  | p, .infinity => p
  | .affine x₁ y₁, .affine x₂ y₂ =>
    if x₁ = x₂ then
      if (y₁ + y₂) % c.prime = 0 then .infinity
      else
        let slope := (3 * x₁ * x₁ + c.prime - 3) * Modular.inverse c.prime (2 * y₁) % c.prime
        c.chord slope x₁ y₁ x₂
    else
      let rise := Modular.sub c.prime y₂ y₁
      let run := Modular.sub c.prime x₂ x₁
      c.chord (rise * Modular.inverse c.prime run % c.prime) x₁ y₁ x₂

/-- The sum of `k` copies of a point, by doubling. -/
def mul (c : Curve) (k : Nat) (p : Point) : Point :=
  if k = 0 then .infinity
  else
    let half := c.mul (k / 2) p
    let double := c.add half half
    if k % 2 = 1 then c.add double p else double
termination_by k
decreasing_by omega

/-- The two square roots of a residue, or nothing for a non-residue. -/
def roots? (c : Curve) (a : Nat) : Option (Nat × Nat) :=
  let r := Modular.pow c.prime a ((c.prime + 1) / 4)
  if r * r % c.prime = a % c.prime then some (r, (c.prime - r) % c.prime) else none

/-- The coordinates of a point in octet form: `04 ‖ x ‖ y`; `02 ‖ x` and `03 ‖ x` for the even
and the odd `y`; `05 ‖ x` for the smaller `y`. The neutral element and points off the curve have
none. -/
def ofOctets? (c : Curve) (octets : Bytes) : Option (Nat × Nat) :=
  let size := c.coordinateSize
  match octets with
  | [] => none
  | form :: body =>
    if form = 4 then
      let x := Bytes.toNat (body.take size)
      let y := Bytes.toNat (body.drop size)
      if body.length = 2 * size ∧ c.contains x y then some (x, y) else none
    else if (form = 2 ∨ form = 3 ∨ form = 5) ∧ body.length = size
        ∧ Bytes.toNat body < c.prime then do
      let x := Bytes.toNat body
      let (r, s) ← c.roots? (c.rhs x)
      if form = 5 then return (x, min r s)
      else if r % 2 = form.toNat % 2 then return (x, r)
      else return (x, s)
    else none

/-- A coordinate at its full size. -/
def coordinate (c : Curve) (x : Nat) : Bytes := Bytes.ofNat c.coordinateSize x

end Curve

end Passkey
