import Mathlib.Data.ZMod.Basic
import Mathlib.Tactic.Ring
import Passkey.Modular

/-!
# Differences and inverses of residues

The library computes with natural numbers below a modulus. `cast_sub` and `cast_inverse` say which
elements of the ring of residues the results stand for.
-/

namespace Passkey.Modular

variable {m r s r' s' : ℕ} {flipped : Bool}

theorem cast_sub (hm : 0 < m) (a b : ℕ) : (sub m a b : ZMod m) = a - b := by
  have hle : b % m ≤ m := (Nat.mod_lt b hm).le
  rw [sub, ZMod.natCast_mod, Nat.cast_add, Nat.cast_sub hle, ZMod.natCast_self, ZMod.natCast_mod]
  ring

/-! ### Euclid's algorithm -/

/-- What the sizes of the coefficients keep at each step of Euclid's algorithm on `m`. -/
structure EuclidState (m r s r' s' : ℕ) : Prop where
  lt : r' < r
  le : s ≤ s'
  total : s' * r + s * r' = m

theorem EuclidState.next (h : EuclidState m r s r' s') (hr' : r' ≠ 0) :
    EuclidState m r' s' (r % r') (s + r / r' * s') := by
  have hdiv : r' * (r / r') + r % r' = r := Nat.div_add_mod r r'
  have hpos : 0 < r / r' := Nat.div_pos h.lt.le (Nat.pos_of_ne_zero hr')
  refine ⟨Nat.mod_lt _ (Nat.pos_of_ne_zero hr'), ?_, ?_⟩
  · calc s' ≤ r / r' * s' := Nat.le_mul_of_pos_left s' hpos
      _ ≤ s + r / r' * s' := Nat.le_add_left _ _
  · calc (s + r / r' * s') * r' + s' * (r % r')
        = s' * (r' * (r / r') + r % r') + s * r' := by ring
      _ = m := by rw [hdiv, h.total]

theorem euclid_le (h : EuclidState m r s r' s') : (euclid r s r' s' flipped).1 ≤ m := by
  induction r' using Nat.strongRecOn generalizing r s s' flipped with
  | _ r' ih =>
    rw [euclid]
    split
    · calc s ≤ s' := h.le
        _ ≤ s' * r := Nat.le_mul_of_pos_right s' (Nat.zero_lt_of_lt h.lt)
        _ ≤ m := h.total ▸ Nat.le_add_right _ _
    · next hne => exact ih _ (Nat.mod_lt _ (Nat.pos_of_ne_zero hne)) (h.next hne)

/-- A coefficient with the sign that the mark gives it. -/
def signed (flipped : Bool) (s : ℕ) : ℤ := if flipped then -s else s

/-- Sizes and a mark carry the signed coefficients of the extended algorithm. -/
theorem signed_euclid (t t' : ℤ) :
    signed (euclid r s r' s' flipped).2 (euclid r s r' s' flipped).1
      = (Nat.xgcdAux r' (signed (!flipped) s') t' r (signed flipped s) t).2.1 := by
  induction r' using Nat.strongRecOn generalizing r s s' flipped t t' with
  | _ r' ih =>
    rw [euclid]
    split
    · next hzero => rw [hzero, Nat.xgcd_zero_left]
    · next hne =>
      have hpos : 0 < r' := Nat.pos_of_ne_zero hne
      have hnext : signed (!!flipped) (s + r / r' * s')
          = signed flipped s - r / r' * signed (!flipped) s' := by
        cases flipped
        · simp [signed]
        · simp [signed]
          ring
      rw [ih _ (Nat.mod_lt _ hpos), Nat.xgcdAux_rec hpos, hnext]

/-- The inverse is the one of the ring, also of a number that shares a factor with the modulus. -/
theorem cast_inverse (hm : 0 < m) (a : ℕ) : (inverse m a : ZMod m) = (a : ZMod m)⁻¹ := by
  have hstart : EuclidState m m 0 (a % m) 1 := ⟨Nat.mod_lt a hm, Nat.zero_le 1, by ring⟩
  have hle : (euclid m 0 (a % m) 1 true).1 ≤ m := euclid_le hstart
  have hcoefficient : (a : ZMod m)⁻¹ = (Nat.gcdA (a % m) m : ℤ) := by
    cases m with
    | zero => cases hm
    | succ m => rw [← ZMod.val_natCast]; rfl
  have hsigned : Nat.gcdA (a % m) m
      = signed (euclid m 0 (a % m) 1 true).2 (euclid m 0 (a % m) 1 true).1 := by
    rw [signed_euclid 1 0]
    rfl
  rw [hcoefficient, hsigned, inverse]
  generalize euclid m 0 (a % m) 1 true = result at hle
  obtain ⟨s, flipped⟩ := result
  cases flipped
  · simp [signed]
  · simp [signed, Nat.cast_sub hle]

end Passkey.Modular
