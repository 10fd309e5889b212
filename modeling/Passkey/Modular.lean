/-!
# Arithmetic modulo a number

Powers, inverses and differences of residues, all on natural numbers.
-/

namespace Passkey.Modular

/-- `base ^ exponent` modulo `m`, by squaring. -/
def pow (m base exponent : Nat) : Nat :=
  if exponent = 0 then 1 % m
  else
    let half := pow m (base * base % m) (exponent / 2)
    if exponent % 2 = 1 then base * half % m else half
termination_by exponent
decreasing_by omega

/-- The difference of two residues. -/
def sub (m a b : Nat) : Nat := (a + (m - b % m)) % m

/-- Euclid's algorithm on `r` and `r'`. The coefficients of the number to be inverted in `r` and
`r'` have opposite signs, so their sizes `s` and `s'` are enough; `flipped` says whether the one
of `r` is the negative one. At the end `r` is the common divisor. -/
def euclid (r s r' s' : Nat) (flipped : Bool) : Nat × Bool :=
  if r' = 0 then (s, flipped) else euclid r' s' (r % r') (s + r / r' * s') (!flipped)
termination_by r'
decreasing_by exact Nat.mod_lt _ (by omega)

/-- The inverse of `a` modulo `m` where the two share no factor; zero for zero. -/
def inverse (m a : Nat) : Nat :=
  let (s, flipped) := euclid m 0 (a % m) 1 true
  if flipped then (m - s) % m else s % m

end Passkey.Modular
