import Mathlib.AlgebraicGeometry.EllipticCurve.Affine.Point
import Passkey.Proofs.Cose.UsableKeys
import Passkey.Proofs.Curve.Primes
import Passkey.Theory.Residues

/-!
# Sums of points are those of the group

The points of `y² = x³ - 3x + b` over the prime field form a group. A point in affine numbers stands
for one of its elements (`Represents`), and the sums and multiples that the library computes stand
for the sums and multiples there.
-/

namespace Passkey.Curve

variable {c : Curve} {x y : ℕ} {p q : Point}

open WeierstrassCurve.Affine

/-! ### The curve -/

/-- The curve over its field. -/
def weierstrass (c : Curve) : WeierstrassCurve.Affine (ZMod c.prime) := ⟨0, 0, 0, -3, c.b⟩

theorem cast_inj_of_lt {a a' : ℕ} (ha : a < c.prime) (ha' : a' < c.prime) :
    (a : ZMod c.prime) = a' ↔ a = a' := by
  rw [ZMod.natCast_eq_natCast_iff', Nat.mod_eq_of_lt ha, Nat.mod_eq_of_lt ha']

theorem discriminant_ne_zero (c : Curve) : c.weierstrass.Δ ≠ 0 := by
  have hvalue : c.weierstrass.Δ = ((16 * 4 * 27 - 16 * 27 * c.b * c.b : ℤ) : ZMod c.prime) := by
    simp only [weierstrass, WeierstrassCurve.Δ, WeierstrassCurve.b₂, WeierstrassCurve.b₄,
      WeierstrassCurve.b₆, WeierstrassCurve.b₈]
    push_cast
    ring
  rw [hvalue, Ne, ZMod.intCast_zmod_eq_zero_iff_dvd]
  cases c <;> decide +kernel

instance (c : Curve) : c.weierstrass.IsElliptic := ⟨c.discriminant_ne_zero.isUnit⟩

theorem three_le_prime (c : Curve) : 3 ≤ c.prime := by
  cases c <;> decide

theorem equation_iff_mod :
    c.weierstrass.Equation (x : ZMod c.prime) y ↔ y * y % c.prime = c.rhs x := by
  have hsquare : c.weierstrass.Equation (x : ZMod c.prime) y
      ↔ ((y * y : ℕ) : ZMod c.prime) = (x * x * x + (c.prime - 3) * x + c.b : ℕ) := by
    rw [WeierstrassCurve.Affine.equation_iff]
    push_cast [Nat.cast_sub c.three_le_prime, ZMod.natCast_self, weierstrass]
    constructor <;> intro h <;> linear_combination h
  rw [hsquare, ZMod.natCast_eq_natCast_iff', rhs]

theorem contains_iff_equation : c.contains x y = true
    ↔ x < c.prime ∧ y < c.prime ∧ c.weierstrass.Equation (x : ZMod c.prime) y := by
  rw [contains_iff, equation_iff_mod]

/-! ### Points in affine numbers -/

open Classical in
/-- The element of the group at two coordinates. Numbers off the curve get the neutral one. -/
noncomputable def element (c : Curve) : Point → c.weierstrass.Point
  | .infinity => 0
  | .affine x y => if h : c.weierstrass.Equation (x : ZMod c.prime) y then .mk h else 0

/-- A point in reduced numbers stands for an element of the group. -/
inductive Represents (c : Curve) : Point → c.weierstrass.Point → Prop
  | infinity : Represents c .infinity 0
  | affine {x y : ℕ} (hx : x < c.prime) (hy : y < c.prime)
      (h : c.weierstrass.Nonsingular (x : ZMod c.prime) y) :
      Represents c (.affine x y) (.some _ _ h)

theorem represents_element (h : c.contains x y = true) :
    c.Represents (.affine x y) (c.element (.affine x y)) := by
  obtain ⟨hx, hy, hequation⟩ := contains_iff_equation.1 h
  rw [element, dif_pos hequation]
  exact .affine hx hy _

theorem represents_base (c : Curve) : c.Represents c.base (c.element c.base) := by
  cases c with
  | p256 => exact represents_element (by decide +kernel)
  | p384 => exact represents_element (by decide +kernel)
  | p521 => exact represents_element (by decide +kernel)

/-! ### Sums and multiples -/

/-- A line of the right slope meets the curve in the mirrored sum. -/
theorem represents_chord {slope x₁ y₁ x₂ y₂ : ℕ}
    {h₁ : c.weierstrass.Nonsingular (x₁ : ZMod c.prime) y₁}
    {h₂ : c.weierstrass.Nonsingular (x₂ : ZMod c.prime) y₂}
    (hne : ¬ ((x₁ : ZMod c.prime) = x₂ ∧ (y₁ : ZMod c.prime) = c.weierstrass.negY x₂ y₂))
    (hslope : (slope : ZMod c.prime) = c.weierstrass.slope x₁ x₂ y₁ y₂) :
    c.Represents (c.chord slope x₁ y₁ x₂) (.some _ _ h₁ + .some _ _ h₂) := by
  have hx : (Modular.sub c.prime (slope * slope) (x₁ + x₂) : ZMod c.prime)
      = c.weierstrass.addX x₁ x₂ (c.weierstrass.slope x₁ x₂ y₁ y₂) := by
    rw [Modular.cast_sub c.prime_pos, ← hslope, addX]
    push_cast [weierstrass]
    ring
  have hy : (Modular.sub c.prime (slope * Modular.sub c.prime x₁
        (Modular.sub c.prime (slope * slope) (x₁ + x₂))) y₁ : ZMod c.prime)
      = c.weierstrass.addY x₁ x₂ y₁ (c.weierstrass.slope x₁ x₂ y₁ y₂) := by
    rw [Modular.cast_sub c.prime_pos, Nat.cast_mul, Modular.cast_sub c.prime_pos, hx, hslope, addY,
      negY, negAddY]
    simp only [weierstrass]
    ring
  rw [WeierstrassCurve.Affine.Point.add_some hne]
  have hsum := nonsingular_add h₁ h₂ hne
  simp only [← hx, ← hy] at hsum ⊢
  exact .affine (Nat.mod_lt _ c.prime_pos) (Nat.mod_lt _ c.prime_pos) hsum

theorem cast_tangent {x₁ y₁ y₂ : ℕ} (hne : (y₁ : ZMod c.prime) ≠ c.weierstrass.negY x₁ y₂) :
    ((3 * x₁ * x₁ + c.prime - 3) * Modular.inverse c.prime (2 * y₁) % c.prime : ℕ)
      = c.weierstrass.slope (x₁ : ZMod c.prime) x₁ y₁ y₂ := by
  have hthree : 3 ≤ 3 * x₁ * x₁ + c.prime := Nat.le_add_left_of_le c.three_le_prime
  rw [slope_of_Y_ne rfl hne, ZMod.natCast_mod, Nat.cast_mul, Modular.cast_inverse c.prime_pos,
    Nat.cast_sub hthree, div_eq_mul_inv, negY]
  push_cast [weierstrass, ZMod.natCast_self]
  congr 1 <;> ring

theorem cast_secant {x₁ y₁ x₂ y₂ : ℕ} (hne : (x₁ : ZMod c.prime) ≠ x₂) :
    (Modular.sub c.prime y₂ y₁ * Modular.inverse c.prime (Modular.sub c.prime x₂ x₁) % c.prime : ℕ)
      = c.weierstrass.slope x₁ x₂ (y₁ : ZMod c.prime) y₂ := by
  rw [slope_of_X_ne hne, ZMod.natCast_mod, Nat.cast_mul, Modular.cast_inverse c.prime_pos,
    Modular.cast_sub c.prime_pos, Modular.cast_sub c.prime_pos, ← div_eq_mul_inv, ← neg_sub,
    ← neg_sub (x₁ : ZMod c.prime), neg_div_neg_eq]

theorem Represents.add {P Q : c.weierstrass.Point} (hp : c.Represents p P)
    (hq : c.Represents q Q) : c.Represents (c.add p q) (P + Q) := by
  cases hp with
  | infinity => simpa [Curve.add] using hq
  | @affine x₁ y₁ hx₁ hy₁ h₁ =>
    cases hq with
    | infinity => simpa [Curve.add] using Represents.affine hx₁ hy₁ h₁
    | @affine x₂ y₂ hx₂ hy₂ h₂ =>
      have hnegY : (y₁ : ZMod c.prime) = c.weierstrass.negY x₂ y₂ ↔ (y₁ + y₂) % c.prime = 0 := by
        rw [← Nat.dvd_iff_mod_eq_zero, ← ZMod.natCast_eq_zero_iff, negY]
        push_cast [weierstrass]
        constructor <;> intro h <;> linear_combination h
      simp only [Curve.add]
      by_cases hx : x₁ = x₂
      · subst hx
        by_cases hy : (y₁ + y₂) % c.prime = 0
        · rw [if_pos rfl, if_pos hy, WeierstrassCurve.Affine.Point.add_of_Y_eq rfl (hnegY.2 hy)]
          exact .infinity
        · -- On the curve the two points are then one, and the line is its tangent.
          have hne : (y₁ : ZMod c.prime) ≠ c.weierstrass.negY x₁ y₂ := mt hnegY.1 hy
          rw [if_pos rfl, if_neg hy]
          exact represents_chord (fun h => hne h.2) (cast_tangent hne)
      · have hne : (x₁ : ZMod c.prime) ≠ x₂ := mt (cast_inj_of_lt hx₁ hx₂).1 hx
        rw [if_neg hx]
        exact represents_chord (fun h => hne h.1) (cast_secant hne)

theorem Represents.mul {P : c.weierstrass.Point} (hp : c.Represents p P) (k : ℕ) :
    c.Represents (c.mul k p) (k • P) := by
  induction k using Nat.strongRecOn with
  | _ k ih =>
    rw [Curve.mul]
    by_cases hk : k = 0
    · rw [if_pos hk, hk, zero_nsmul]
      exact .infinity
    · rw [if_neg hk]
      have hhalf := ih (k / 2) (by omega)
      have hdouble := hhalf.add hhalf
      rw [← add_nsmul] at hdouble
      by_cases hodd : k % 2 = 1
      · simp only [hodd, if_true]
        have hsum : k • P = (k / 2 + k / 2) • P + P := by
          rw [← succ_nsmul]
          congr 1
          omega
        rw [hsum]
        exact hdouble.add hp
      · simp only [hodd, if_false]
        have hsum : k = k / 2 + k / 2 := by omega
        rw [← hsum] at hdouble
        exact hdouble

end Passkey.Curve
