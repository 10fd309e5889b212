import Mathlib.FieldTheory.Finite.Basic
import Passkey.Proofs.Curve.GroupLaw

/-!
# No point is its own inverse

A point with a zero second coordinate would be at a root of the cubic `x³ - 3x + b`. A root in the
field is left as it is by the power with the prime, so it is a root of the polynomial that this power
makes of the indeterminate, less the indeterminate. Modulo the cubic that polynomial has an inverse,
which is computed, and hence there is no root (`cubic_ne_zero`). The two roots of a square that
belong to a first coordinate therefore always differ, and one of them is even.
-/

namespace Passkey.Curve

variable {c : Curve}

/-! ### Polynomials modulo the cubic -/

/-- A polynomial modulo the cubic by its coefficients, the constant one first. -/
structure Quadratic where
  const : ℕ
  linear : ℕ
  square : ℕ
  deriving DecidableEq

namespace Quadratic

/-- The product of two polynomials, where `x³` is `3x - b`. -/
def mul (c : Curve) (f g : Quadratic) : Quadratic :=
  let cube := f.linear * g.square + f.square * g.linear
  let fourth := f.square * g.square
  let negB := c.prime - c.b
  { const := (f.const * g.const + negB * cube) % c.prime
    linear := (f.const * g.linear + f.linear * g.const + 3 * cube + negB * fourth) % c.prime
    square := (f.const * g.square + f.linear * g.linear + f.square * g.const + 3 * fourth)
      % c.prime }

/-- A power, by squaring. -/
def pow (c : Curve) (f : Quadratic) (k : ℕ) : Quadratic :=
  if k = 0 then ⟨1, 0, 0⟩
  else
    let half := pow c (mul c f f) (k / 2)
    if k % 2 = 1 then mul c f half else half
termination_by k
decreasing_by omega

/-- The power of the indeterminate with the prime, less the indeterminate. -/
def frobenius (c : Curve) : Quadratic :=
  let f := pow c ⟨0, 1, 0⟩ c.prime
  { f with linear := f.linear + (c.prime - 1) }

/-- Modulo the cubic it is invertible, since a power of it is one. -/
theorem pow_frobenius (c : Curve) : pow c (frobenius c) (c.prime ^ 3 - 1) = ⟨1, 0, 0⟩ := by
  cases c <;> decide +kernel

/-! ### Their values at a root -/

/-- The value at an element of the field. -/
def eval (f : Quadratic) (a : ZMod c.prime) : ZMod c.prime :=
  f.const + f.linear * a + f.square * a ^ 2

variable {f g : Quadratic} {a : ZMod c.prime}

theorem eval_mul (ha : a ^ 3 = 3 * a - c.b) : (mul c f g).eval a = f.eval a * g.eval a := by
  have hb : c.b ≤ c.prime := by cases c <;> decide
  simp only [eval, mul, ZMod.natCast_mod]
  push_cast [Nat.cast_sub hb, ZMod.natCast_self]
  linear_combination
    -(f.linear * g.square + f.square * g.linear + f.square * g.square * a : ZMod c.prime) * ha

theorem eval_pow (ha : a ^ 3 = 3 * a - c.b) (k : ℕ) : (pow c f k).eval a = f.eval a ^ k := by
  induction k using Nat.strongRecOn generalizing f with
  | _ k ih =>
    rw [pow]
    split
    · next hzero => simp [hzero, eval]
    · have hhalf : (pow c (mul c f f) (k / 2)).eval a = f.eval a ^ (2 * (k / 2)) := by
        rw [ih (k / 2) (by omega), eval_mul ha, ← pow_two, ← pow_mul]
      have hsplit : k = 2 * (k / 2) + k % 2 := by omega
      dsimp only
      split
      · next hodd =>
        rw [eval_mul ha, hhalf, ← pow_succ']
        congr 1
        omega
      · rw [hhalf]
        congr 1
        omega

/-- The power with the prime leaves an element of the field as it is. -/
theorem eval_frobenius (ha : a ^ 3 = 3 * a - c.b) : (frobenius c).eval a = 0 := by
  have hpower : (pow c ⟨0, 1, 0⟩ c.prime).eval a = a := by
    rw [eval_pow ha]
    simp [eval, ZMod.pow_card]
  simp only [frobenius, eval] at hpower ⊢
  push_cast [Nat.cast_sub c.prime_pos, ZMod.natCast_self]
  linear_combination hpower

end Quadratic

/-! ### Second coordinates -/

theorem cubic_ne_zero (a : ZMod c.prime) : a ^ 3 - 3 * a + c.b ≠ 0 := by
  intro hzero
  have ha : a ^ 3 = 3 * a - c.b := by linear_combination hzero
  have hone : (Quadratic.frobenius c).eval a ^ (c.prime ^ 3 - 1) = 1 := by
    rw [← Quadratic.eval_pow ha, Quadratic.pow_frobenius]
    simp [Quadratic.eval]
  have hexponent : c.prime ^ 3 - 1 ≠ 0 := by cases c <;> decide
  rw [Quadratic.eval_frobenius ha, zero_pow hexponent] at hone
  exact zero_ne_one hone

theorem pos_of_contains {x y : ℕ} (h : c.contains x y = true) : 0 < y := by
  obtain ⟨-, -, hequation⟩ := contains_iff_equation.1 h
  refine Nat.pos_of_ne_zero ?_
  rintro rfl
  apply cubic_ne_zero (c := c) (x : ZMod c.prime)
  rw [WeierstrassCurve.Affine.equation_iff] at hequation
  simp only [weierstrass] at hequation
  push_cast at hequation
  linear_combination -hequation

end Passkey.Curve
