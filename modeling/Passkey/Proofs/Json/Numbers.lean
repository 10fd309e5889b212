import Mathlib.Data.List.Basic
import Passkey.Proofs.Json.RoundTrip

/-!
# Integers are read as they were written

An integer is spelled by its decimal digits, without a needless zero in front and after a minus where
it is negative. Such digits have the shape of a number and spell the integer.
-/

namespace Passkey.Json

/-! ### Digits -/

theorem toNat_of_mem_toDigits {n : Nat} {c : Char} (h : c ∈ Nat.toDigits 10 n) :
    (UInt8.ofNat c.toNat).toNat = c.toNat ∧ 48 ≤ c.toNat ∧ c.toNat ≤ 57 := by
  have hle : 48 ≤ c.toNat ∧ c.toNat ≤ 57 :=
    Char.isDigit_iff_toNat.1 (Nat.isDigit_of_mem_toDigits (by decide) (by decide) h)
  refine ⟨?_, hle⟩
  rw [UInt8.toNat_ofNat', Nat.mod_eq_of_lt (by omega)]

theorem isDigit_of_mem_digits {n : Nat} : ∀ b ∈ digits n, isDigit b = true := by
  intro b hb
  obtain ⟨c, hc, rfl⟩ := List.mem_map.1 hb
  obtain ⟨hnat, hle⟩ := toNat_of_mem_toDigits hc
  simp [isDigit, UInt8.le_iff_toNat_le, hnat, hle]

theorem digits_ne_nil (n : Nat) : digits n ≠ [] := by
  simp [digits, Nat.toDigits_ne_nil]

/-- The digits of a number spell it. -/
theorem natural?_digits (n : Nat) : natural? (digits n) = some n := by
  have hdigits : (digits n).all isDigit = true := List.all_eq_true.2 isDigit_of_mem_digits
  have hvalue : (digits n).foldl (fun n b => n * 10 + (b.toNat - 0x30)) 0 =
      Nat.ofDigitChars 10 (Nat.toDigits 10 n) 0 := by
    rw [digits, List.foldl_map, Nat.ofDigitChars]
    refine List.foldl_ext _ _ 0 fun m c hc => ?_
    obtain ⟨hnat, -⟩ := toNat_of_mem_toDigits hc
    rw [hnat, Nat.mul_comm]
    rfl
  rw [natural?, if_pos ⟨digits_ne_nil n, hdigits⟩, hvalue,
    Nat.ofDigitChars_toDigits (by decide) (by decide)]

/-- By induction on the number of digits, of which the last is taken off. -/
theorem head?_toDigits_ne_zero (n : Nat) (h : 0 < n) : (Nat.toDigits 10 n).head? ≠ some '0' := by
  induction n using Nat.strongRecOn with
  | ind n ih =>
    rw [Nat.toDigits_eq_if (by decide)]
    split
    · next hlt =>
      have hall : ∀ m < 10, 0 < m → Nat.digitChar m ≠ '0' := by decide
      simpa using hall n hlt h
    · next hge =>
      have hrest := ih (n / 10) (by omega) (by omega)
      obtain ⟨first, rest, hcons⟩ := List.exists_cons_of_ne_nil
        (Nat.toDigits_ne_nil : Nat.toDigits 10 (n / 10) ≠ [])
      rw [hcons] at hrest ⊢
      exact hrest

/-- There is no needless zero. -/
theorem head?_digits (n : Nat) : (digits n).head? ≠ some 0x30 ∨ (digits n).length = 1 := by
  rcases Nat.eq_zero_or_pos n with rfl | hpos
  · exact Or.inr rfl
  · left
    rw [digits, List.head?_map]
    intro h
    obtain ⟨c, hc, hzero⟩ := Option.map_eq_some_iff.1 h
    obtain ⟨hnat, -⟩ := toNat_of_mem_toDigits (List.mem_of_head? hc)
    have hc0 : c = '0' := by
      apply Char.toNat_inj.1
      rw [← hnat, hzero]
      rfl
    exact head?_toDigits_ne_zero n hpos (hc0 ▸ hc)

theorem exists_digits_cons (n : Nat) : ∃ b rest, digits n = b :: rest ∧ b ≠ 0x2d := by
  obtain ⟨b, rest, h⟩ := List.exists_cons_of_ne_nil (digits_ne_nil n)
  have hb : isDigit b = true := isDigit_of_mem_digits b (h ▸ List.mem_cons_self)
  refine ⟨b, rest, h, ?_⟩
  rintro rfl
  contradiction

/-! ### Integers -/

theorem whole_digits (n : Nat) : Whole (digits n) :=
  ⟨⟨digits_ne_nil n, isDigit_of_mem_digits⟩, head?_digits n⟩

theorem Numeral.spelled {literal : Bytes} (h : Numeral literal) : Spelled (.number literal) :=
  .number (isNumber_iff.2 h) (List.all_eq_true.2 h.octets)

theorem spelled_ofInt (n : Int) : Spelled (ofInt n) := by
  cases n with
  | ofNat n => exact (whole_digits n).numeral.spelled
  | negSucc n => exact (whole_digits (n + 1)).numeral_minus.spelled

theorem int?_ofInt (n : Int) : (ofInt n).int? = some n := by
  cases n with
  | ofNat n =>
    obtain ⟨b, rest, h, hb⟩ := exists_digits_cons n
    have hvalue := natural?_digits n
    rw [ofInt]
    rw [h] at hvalue ⊢
    unfold int?
    split
    · next heq =>
      cases heq
      contradiction
    · next heq =>
      cases heq
      rw [hvalue]
      rfl
    · next hother => exact absurd rfl (hother (b :: rest))
  | negSucc n =>
    simp [ofInt, int?, natural?_digits, Int.negSucc_eq]

end Passkey.Json
