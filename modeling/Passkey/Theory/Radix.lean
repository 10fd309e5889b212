import Mathlib.Data.List.DropRight
import Mathlib.Data.List.Induction
import Mathlib.Data.List.TakeWhile
import Mathlib.Tactic.Ring
import Passkey.Bytes
import Passkey.Modular

/-!
# Bytes as digits, and powers of residues

`toNat_ofNat` says that a number written into enough bytes reads back, `ofNat_toNat` that bytes are
written back from the number that they spell, and `pow_eq` that the square-and-multiply power is the
power.
-/

namespace Passkey

namespace Bytes

theorem toNat_lt (bs : Bytes) : toNat bs < 256 ^ bs.length := by
  induction bs using List.reverseRecOn with
  | nil => simp [toNat]
  | append_singleton bs b ih =>
    have hb : b.toNat < 256 := b.toNat_lt_size
    rw [toNat_concat, List.length_append, List.length_singleton, pow_succ]
    omega

theorem toNat_ofNat_mod (width n : Nat) : toNat (ofNat width n) = n % 256 ^ width := by
  induction width generalizing n with
  | zero => simp [ofNat, toNat, Nat.mod_one]
  | succ w ih =>
    have low : (UInt8.ofNat n).toNat = n % 256 := UInt8.toNat_ofNat'
    rw [ofNat, toNat_concat, ih, low, pow_succ, mul_comm (256 ^ w) 256, Nat.mod_mul]
    ring

/-- Enough bytes hold the whole number. -/
theorem toNat_ofNat {width n : Nat} (h : n < 256 ^ width) : toNat (ofNat width n) = n := by
  rw [toNat_ofNat_mod, Nat.mod_eq_of_lt h]

/-- Bytes are the digits of the number that they spell. -/
theorem ofNat_toNat (bs : Bytes) : ofNat bs.length (toNat bs) = bs := by
  induction bs using List.reverseRecOn with
  | nil => rfl
  | append_singleton bs b ih =>
    have hb : b.toNat < 256 := b.toNat_lt_size
    have high : (toNat bs * 256 + b.toNat) / 256 = toNat bs := by omega
    have low : UInt8.ofNat (toNat bs * 256 + b.toNat) = b := by
      rw [← UInt8.toNat_inj, UInt8.toNat_ofNat']
      omega
    rw [toNat_concat, List.length_append, List.length_singleton, ofNat, high, low, ih]

theorem toNat_cons (b : UInt8) (bs : Bytes) :
    toNat (b :: bs) = b.toNat * 256 ^ bs.length + toNat bs := by
  induction bs using List.reverseRecOn with
  | nil => simp [toNat]
  | append_singleton bs c ih =>
    rw [← List.cons_append, toNat_concat, toNat_concat, ih, List.length_append,
      List.length_singleton, pow_succ]
    ring

theorem toNat_append (bs cs : Bytes) :
    toNat (bs ++ cs) = toNat bs * 256 ^ cs.length + toNat cs := by
  induction bs with
  | nil => simp [toNat]
  | cons b bs ih =>
    rw [List.cons_append, toNat_cons, toNat_cons, ih, List.length_append, pow_add]
    ring

/-- Leading zeros add nothing. -/
theorem toNat_replicate_zero_append (n : ℕ) (bs : Bytes) :
    toNat (List.replicate n 0 ++ bs) = toNat bs := by
  induction n with
  | zero => rfl
  | succ n ih => rw [List.replicate_succ, List.cons_append, toNat_cons, ih, UInt8.toNat_zero,
      Nat.zero_mul, Nat.zero_add]

theorem toNat_take (n : ℕ) (bs : Bytes) :
    toNat (bs.take n) = toNat bs >>> (8 * (bs.length - n)) := by
  have hsplit := toNat_append (bs.take n) (bs.drop n)
  have hlt : toNat (bs.drop n) < 256 ^ (bs.length - n) := List.length_drop ▸ toNat_lt (bs.drop n)
  rw [List.take_append_drop, List.length_drop] at hsplit
  rw [Nat.shiftRight_eq_div_pow, Nat.pow_mul, hsplit, Nat.mul_comm,
    Nat.mul_add_div (Nat.pow_pos (by decide)), Nat.div_eq_of_lt hlt, Nat.add_zero]

@[simp] theorem trim_trim (bs : Bytes) : trim (trim bs) = trim bs :=
  List.dropWhile_idempotent _ bs

@[simp] theorem toNat_trim (bs : Bytes) : toNat (trim bs) = toNat bs := by
  induction bs with
  | nil => rfl
  | cons b rest ih =>
    by_cases hb : b = 0
    · have hdrop : trim (b :: rest) = trim rest := by simp [trim, hb]
      rw [hdrop, ih, toNat_cons, hb]
      simp
    · have hkeep : trim (b :: rest) = b :: rest := by simp [trim, hb]
      rw [hkeep]

/-- Without leading zeros a number takes no more bytes than it needs. -/
theorem length_le_of_toNat_lt {bs : Bytes} {width : Nat} (htrim : trim bs = bs)
    (h : toNat bs < 256 ^ width) : bs.length ≤ width := by
  cases bs with
  | nil => exact Nat.zero_le _
  | cons b rest =>
    have hb : b ≠ 0 := by simpa using List.dropWhile_eq_self_iff.1 htrim (Nat.succ_pos _)
    have hpos : 0 < b.toNat := Nat.pos_of_ne_zero fun hzero => hb (UInt8.toNat_inj.1 hzero)
    rw [toNat_cons] at h
    have hle : 256 ^ rest.length ≤ b.toNat * 256 ^ rest.length := Nat.le_mul_of_pos_left _ hpos
    exact (Nat.pow_lt_pow_iff_right (by decide)).1 (Nat.lt_of_le_of_lt (by omega) h)

/-- Bytes that spell the same number differ in leading zeros only. -/
theorem trim_eq_of_toNat_eq {bs cs : Bytes} (h : toNat bs = toNat cs) : trim bs = trim cs := by
  have heq : toNat (trim bs) = toNat (trim cs) := by rw [toNat_trim, toNat_trim, h]
  have hle : (trim bs).length ≤ (trim cs).length :=
    length_le_of_toNat_lt (trim_trim bs) (heq ▸ toNat_lt _)
  have hge : (trim cs).length ≤ (trim bs).length :=
    length_le_of_toNat_lt (trim_trim cs) (heq ▸ toNat_lt _)
  rw [← ofNat_toNat (trim bs), ← ofNat_toNat (trim cs), heq, Nat.le_antisymm hle hge]

end Bytes

namespace Modular

theorem pow_eq (m base exponent : Nat) : pow m base exponent = base ^ exponent % m := by
  induction exponent using Nat.strongRecOn generalizing base with
  | _ e ih =>
    rw [pow]
    split
    · next h => simp [h]
    · next h =>
      have step := ih (e / 2) (by omega) (base * base % m)
      have square : (base * base % m) ^ (e / 2) % m = (base * base) ^ (e / 2) % m :=
        (Nat.pow_mod _ _ _).symm
      have split : e = 2 * (e / 2) + e % 2 := by omega
      simp only [step, square]
      split
      · next odd =>
        conv => rhs; rw [split, odd, pow_succ, pow_mul, pow_two]
        rw [Nat.mul_mod_mod, Nat.mul_comm]
      · next even =>
        have : e % 2 = 0 := by omega
        conv => rhs; rw [split, this, Nat.add_zero, pow_mul, pow_two]

end Modular

end Passkey
