import Passkey.Bytes
import Passkey.Modular

/-!
# The Edwards curve of Ed25519

Points of `-x² + y² = 1 + d x² y²` over the field of `2 ^ 255 - 19` elements. The addition law is
complete, so no case is special. Numbers travel in little-endian order.
-/

namespace Passkey.Edwards

/-- The prime of the field. -/
def prime : Nat := 0x7fffffffffffffffffffffffffffffffffffffffffffffffffffffffffffffed

/-- The order of the base point, a prime. -/
def order : Nat := 0x1000000000000000000000000000000014def9dea2f79cd65812631a5cf5d3ed

/-- The highest bit of an encoding, which holds the parity of `x`. -/
def parityBit : Nat := 0x8000000000000000000000000000000000000000000000000000000000000000

/-- The coefficient of the equation, `-121665 / 121666`. -/
def d : Nat := 0x52036cee2b6ffe738cc740797779e89800700a4d4141d8ab75eb4dca135978a3

/-- A square root of minus one. -/
def sqrtMinusOne : Nat := 0x2b8324804fc1df0b2b4d00993dfbd7a72f431806ad2fe478c4ee1b274a0ea0b0

/-- A point by its coordinates. -/
structure Point where
  x : Nat
  y : Nat
  deriving DecidableEq, Repr

/-- The neutral element. -/
def Point.zero : Point := ⟨0, 1⟩

/-- The base point. -/
def base : Point where
  x := 0x216936d3cd6e53fec0a4e231fdd6dc5c692cc7609525a7b2c9562d608f25d51a
  y := 0x6666666666666666666666666666666666666666666666666666666666666658

/-- The sum of two points. -/
def add (p q : Point) : Point :=
  let m := prime
  let t := d * (p.x * q.x % m) % m * (p.y * q.y % m) % m
  let inv := Modular.inverse m ((1 + t) * (Modular.sub m 1 t))
  let numX := (p.x * q.y + p.y * q.x) % m
  let numY := (p.y * q.y + p.x * q.x) % m
  ⟨numX * (Modular.sub m 1 t * inv % m) % m, numY * ((1 + t) * inv % m) % m⟩

/-- The sum of `k` copies of a point, by doubling. -/
def mul (k : Nat) (p : Point) : Point :=
  if k = 0 then .zero
  else
    let half := mul (k / 2) p
    let double := add half half
    if k % 2 = 1 then add double p else double
termination_by k
decreasing_by omega

/-- The mirrored point. -/
def neg (p : Point) : Point := ⟨(prime - p.x) % prime, p.y⟩

/-- The number that the bytes spell, least significant first. -/
def littleEndian (bs : Bytes) : Nat := Bytes.toNat bs.reverse

/-- A number `x` with `v x² = u`, the even one of the two. -/
def ratioRoot? (u v : Nat) : Option Nat :=
  let m := prime
  let v3 := v * v % m * v % m
  let v7 := v3 * v3 % m * v % m
  let r := u * v3 % m * Modular.pow m (u * v7 % m) ((m - 5) / 8) % m
  let check := v * (r * r % m) % m
  let root? :=
    if check = u % m then some r
    else if check = (m - u % m) % m then some (r * sqrtMinusOne % m)
    else none
  root?.map fun r => if r % 2 = 0 then r else m - r

/-- The point that 32 bytes encode: `y` in the low 255 bits and the parity of `x` in the highest.
An unreduced `y` and the odd form of `x = 0` are read as well. -/
def decode? (bs : Bytes) : Option Point :=
  if bs.length = 32 then do
    let n := littleEndian bs
    let y := n % parityBit % prime
    let u := Modular.sub prime (y * y) 1
    let v := (d * (y * y % prime) + 1) % prime
    let x ← ratioRoot? u v
    return ⟨if n / parityBit = 1 then (prime - x) % prime else x, y⟩
  else none

/-- The 32 bytes of a point. -/
def encode (p : Point) : Bytes := (Bytes.ofNat 32 (p.y + p.x % 2 * parityBit)).reverse

end Passkey.Edwards
