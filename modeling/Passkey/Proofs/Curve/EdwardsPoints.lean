import Mathlib.NumberTheory.LegendreSymbol.Basic
import Mathlib.Tactic.LinearCombination
import Passkey.Proofs.Curve.Primes
import Passkey.Theory.Radix
import Passkey.Theory.Residues

/-!
# Which octets encode a point of the Edwards curve

Of a point only `y` and the parity of `x` are sent, so the reader has to find a square root of
`(y² - 1) / (d y² + 1)`. The prime is 5 modulo 8, so one power is a root up to a root of one
(`candidate_spec`), and a root is found exactly if there is one (`decode?_isSome_iff`).
-/

namespace Passkey.Edwards

/-- The field of the coordinates. -/
abbrev Field := ZMod prime

theorem prime_pos : 0 < prime := by decide

theorem cast_sqrtMinusOne : (sqrtMinusOne : Field) ^ 2 = -1 := by
  have hsquare : ((sqrtMinusOne ^ 2 + 1 : ℕ) : Field) = 0 := by
    rw [ZMod.natCast_eq_zero_iff]
    decide +kernel
  push_cast at hsquare
  linear_combination hsquare

/-- The candidate for a root of `u / v`. -/
def candidate (u v : Field) : Field := u * v ^ 3 * (u * v ^ 7) ^ ((prime - 5) / 8)

/-- The candidate is a root up to a power that is a fourth root of one. -/
theorem candidate_spec (u v : Field) :
    v * candidate u v ^ 2 = u * (u * v ^ 7) ^ ((prime - 1) / 4) := by
  have hexponent : (prime - 1) / 4 = (prime - 5) / 8 * 2 + 1 := by decide
  rw [candidate, hexponent, pow_succ _ ((prime - 5) / 8 * 2), pow_mul]
  ring

theorem candidate_of_root {u v x : Field} (h : v * x ^ 2 = u) :
    v * candidate u v ^ 2 = u ∨ v * candidate u v ^ 2 = -u := by
  by_cases hzero : v ^ 4 * x = 0
  · have hu : u = 0 := by
      rcases mul_eq_zero.1 hzero with hv | hx
      · rw [← h, pow_eq_zero_iff (by decide) |>.1 hv, zero_mul]
      · rw [← h, hx]
        ring
    left
    rw [candidate_spec, hu, zero_mul]
  · have hpower : (u * v ^ 7) ^ ((prime - 1) / 4) = (v ^ 4 * x) ^ (prime / 2) := by
      have hexponent : prime / 2 = 2 * ((prime - 1) / 4) := by decide
      rw [hexponent, pow_mul, ← h]
      congr 1
      ring
    rw [candidate_spec, hpower]
    rcases ZMod.pow_div_two_eq_neg_one_or_one prime hzero with hone | hminus
    · left
      rw [hone, mul_one]
    · right
      rw [hminus]
      ring

/-- The root that is chosen, from the candidate in reduced numbers. -/
theorem exists_candidate (u v : ℕ) : ∃ r : ℕ, (r : Field) = candidate u v ∧
    ratioRoot? u v =
      (if v * (r * r % prime) % prime = u % prime then some r
        else if v * (r * r % prime) % prime = (prime - u % prime) % prime then
          some (r * sqrtMinusOne % prime)
        else none).map fun r => if r % 2 = 0 then r else prime - r := by
  refine ⟨_, ?_, rfl⟩
  rw [Modular.pow_eq, candidate]
  simp only [Nat.cast_mul, Nat.cast_pow, ZMod.natCast_mod]
  ring

/-- A root is found if there is one. -/
theorem ratioRoot?_isSome_iff (u v : ℕ) :
    (ratioRoot? u v).isSome = true ↔ ∃ x : Field, v * x ^ 2 = u := by
  obtain ⟨r, hr, hroot⟩ := exists_candidate u v
  have hcheck : ((v * (r * r % prime) : ℕ) : Field) = v * candidate u v ^ 2 := by
    simp only [Nat.cast_mul, ZMod.natCast_mod, hr]
    ring
  have hroot_iff : v * (r * r % prime) % prime = u % prime
      ↔ v * candidate u v ^ 2 = (u : Field) := by
    rw [← ZMod.natCast_eq_natCast_iff', hcheck]
  have hle : u % prime ≤ prime := (Nat.mod_lt u prime_pos).le
  have hminus_iff : v * (r * r % prime) % prime = (prime - u % prime) % prime
      ↔ v * candidate u v ^ 2 = -(u : Field) := by
    rw [← ZMod.natCast_eq_natCast_iff', hcheck, Nat.cast_sub hle, ZMod.natCast_self,
      ZMod.natCast_mod, zero_sub]
  rw [hroot, Option.isSome_map]
  constructor
  · intro h
    split at h
    · next heq => exact ⟨candidate u v, hroot_iff.1 heq⟩
    · split at h
      · next heq =>
        refine ⟨candidate u v * sqrtMinusOne, ?_⟩
        rw [mul_pow, cast_sqrtMinusOne]
        linear_combination -(hminus_iff.1 heq)
      · cases h
  · rintro ⟨x, hx⟩
    rcases candidate_of_root hx with h | h
    · rw [if_pos (hroot_iff.2 h)]
      rfl
    · split
      · rfl
      · rw [if_pos (hminus_iff.2 h)]
        rfl

/-- The octets encode a point: 32 of them, whose low 255 bits are the `y` of one. -/
structure Encodes (bs : Bytes) : Prop where
  length : bs.length = 32
  onCurve : ∃ x : Field,
    -x ^ 2 + (littleEndian bs % 2 ^ 255 : ℕ) ^ 2
      = 1 + d * x ^ 2 * (littleEndian bs % 2 ^ 255 : ℕ) ^ 2

/-- The ratio whose root is sought comes from the equation of the curve. -/
theorem exists_root_iff (y : ℕ) :
    (∃ x : Field,
        ((d * (y * y % prime) + 1) % prime : ℕ) * x ^ 2 = (Modular.sub prime (y * y) 1 : ℕ))
      ↔ ∃ x : Field, -x ^ 2 + (y : Field) ^ 2 = 1 + d * x ^ 2 * (y : Field) ^ 2 := by
  apply exists_congr
  intro x
  rw [Modular.cast_sub prime_pos]
  simp only [ZMod.natCast_mod, Nat.cast_add, Nat.cast_mul, Nat.cast_one]
  constructor <;> intro h <;> linear_combination -h

theorem decode?_isSome_iff (bs : Bytes) : (decode? bs).isSome = true ↔ Encodes bs := by
  obtain ⟨y, hy⟩ : ∃ y, y = littleEndian bs % parityBit % prime := ⟨_, rfl⟩
  have hcast : (y : Field) = (littleEndian bs % 2 ^ 255 : ℕ) := by
    rw [hy, ZMod.natCast_mod]
    rfl
  have hsome : (decode? bs).isSome = true ↔ bs.length = 32 ∧
      (ratioRoot? (Modular.sub prime (y * y) 1) ((d * (y * y % prime) + 1) % prime)).isSome
        = true := by
    simp only [decode?, ← hy]
    by_cases hlength : bs.length = 32
    · simp only [hlength, if_true, true_and]
      cases ratioRoot? _ _ <;> rfl
    · simp [hlength]
  rw [hsome, ratioRoot?_isSome_iff, exists_root_iff, hcast]
  constructor
  · rintro ⟨hlength, hcurve⟩
    exact ⟨hlength, hcurve⟩
  · rintro ⟨hlength, hcurve⟩
    exact ⟨hlength, hcurve⟩

end Passkey.Edwards
