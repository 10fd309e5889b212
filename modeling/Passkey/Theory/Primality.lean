import Mathlib.Data.Nat.Factorization.Basic
import Mathlib.FieldTheory.Finite.Basic
import Passkey.Theory.Radix

/-!
# Proofs of primality

Pocklington's criterion: `n` is prime if a factor `f` of `n - 1` with `n < f ^ 2` is known, and for
each prime `q` of it some number has an order modulo every prime factor of `n` that takes the whole
power of `q`. A certificate is a list of such steps, each of which may use the primes of those
after it, so that what remains is to compute powers (`prime_of_certified`).
-/

namespace Passkey.Primality

/-- A divisor of `m` that does not divide `m / q` has all factors `q` of `m`. -/
theorem prime_pow_dvd_of_not_dvd_div {q k d m : ℕ} (hq : q.Prime) (hd : d ∣ m)
    (hnot : ¬ d ∣ m / q) (hk : q ^ k ∣ m) : q ^ k ∣ d := by
  obtain ⟨c, rfl⟩ := hd
  by_cases hqc : q ∣ c
  · obtain ⟨b, rfl⟩ := hqc
    have hdiv : d * (q * b) / q = d * b := by
      rw [show d * (q * b) = q * (d * b) by ring, Nat.mul_div_cancel_left _ hq.pos]
    exact absurd ⟨b, hdiv⟩ hnot
  · have hcoprime : Nat.Coprime (q ^ k) c :=
      Nat.Coprime.pow_left k ((Nat.Prime.coprime_iff_not_dvd hq).2 hqc)
    exact hcoprime.dvd_of_dvd_mul_right hk

/-- Modulo each prime factor of `n`, the base has an order that takes the whole power of `q` in
`n - 1`. -/
theorem prime_pow_dvd_pred {n p q k a : ℕ} (hn : 1 < n) (hp : p.Prime) (hpn : p ∣ n) (hq : q.Prime)
    (hk : q ^ k ∣ n - 1) (hone : a ^ (n - 1) % n = 1)
    (hcoprime : Nat.Coprime (a ^ ((n - 1) / q) + (n - 1)) n) : q ^ k ∣ p - 1 := by
  have : Fact p.Prime := ⟨hp⟩
  have hn0 : (n : ZMod p) = 0 := (ZMod.natCast_eq_zero_iff n p).2 hpn
  have hpow : (a : ZMod p) ^ (n - 1) = 1 := by
    have hmod : a ^ (n - 1) ≡ 1 [MOD p] :=
      Nat.ModEq.of_dvd hpn (hone.trans (Nat.mod_eq_of_lt hn).symm)
    simpa using (ZMod.natCast_eq_natCast_iff _ _ _).2 hmod
  have ha : (a : ZMod p) ≠ 0 := by
    intro ha
    rw [ha, zero_pow (by omega)] at hpow
    exact zero_ne_one hpow
  have hpart : ¬ orderOf (a : ZMod p) ∣ (n - 1) / q := by
    intro hdvd
    have hone' : (a : ZMod p) ^ ((n - 1) / q) = 1 := orderOf_dvd_iff_pow_eq_one.1 hdvd
    have hzero : ((a ^ ((n - 1) / q) + (n - 1) : ℕ) : ZMod p) = 0 := by
      push_cast [Nat.cast_sub hn.le]
      rw [hone', hn0]
      ring
    have hdvd : p ∣ a ^ ((n - 1) / q) + (n - 1) := (ZMod.natCast_eq_zero_iff _ p).1 hzero
    exact Nat.not_coprime_of_dvd_of_dvd hp.one_lt hdvd hpn hcoprime
  have horder : q ^ k ∣ orderOf (a : ZMod p) :=
    prime_pow_dvd_of_not_dvd_div hq (orderOf_dvd_iff_pow_eq_one.2 hpow) hpart hk
  exact horder.trans (ZMod.orderOf_dvd_card_sub_one ha)

/-- Pocklington's criterion. -/
theorem prime_of_pocklington {n f a : ℕ} (hn : 1 < n) (hdvd : f ∣ n - 1) (hlt : n < f * f)
    (hone : a ^ (n - 1) % n = 1)
    (h : ∀ q, q.Prime → q ∣ f → Nat.Coprime (a ^ ((n - 1) / q) + (n - 1)) n) : n.Prime := by
  by_contra hnot
  have hp : n.minFac.Prime := Nat.minFac_prime hn.ne'
  have hf : f ∣ n.minFac - 1 := by
    refine (Nat.dvd_iff_prime_pow_dvd_dvd _ _).2 fun q k hq hk => ?_
    by_cases hk0 : k = 0
    · simp [hk0]
    · have hqf : q ∣ f := (dvd_pow_self q hk0).trans hk
      exact prime_pow_dvd_pred hn hp n.minFac_dvd hq (hk.trans hdvd) hone (h q hq hqf)
  have hle : f ≤ n.minFac - 1 := Nat.le_of_dvd (Nat.sub_pos_of_lt hp.one_lt) hf
  have hsq : n.minFac ^ 2 ≤ n := Nat.minFac_sq_le_self (by omega) hnot
  have hff : f * f ≤ n.minFac ^ 2 := by
    rw [pow_two]
    exact Nat.mul_le_mul (by omega) (by omega)
  omega

/-! ### Certificates -/

/-- Trial division by all numbers below 100, for numbers of at most four digits. -/
def isSmallPrime (q : ℕ) : Bool :=
  1 < q && q < 10000 && (List.range 98).all fun i => q ≤ i + 2 || q % (i + 2) != 0

theorem prime_of_isSmallPrime {q : ℕ} (h : isSmallPrime q = true) : q.Prime := by
  simp only [isSmallPrime, Bool.and_eq_true, Bool.or_eq_true, decide_eq_true_eq, List.all_eq_true,
    List.mem_range, bne_iff_ne] at h
  obtain ⟨⟨hq, hlt⟩, hdivisors⟩ := h
  by_contra hnot
  have hp : 2 ≤ q.minFac := (Nat.minFac_prime hq.ne').two_le
  have hsq : q.minFac ^ 2 ≤ q := Nat.minFac_sq_le_self (by omega) hnot
  have hsmall : q.minFac < 100 := by
    by_contra hge
    have : 100 ^ 2 ≤ q.minFac ^ 2 := Nat.pow_le_pow_left (by omega) 2
    omega
  have hpq : q.minFac < q := (Nat.not_prime_iff_minFac_lt hq).1 hnot
  rcases hdivisors (q.minFac - 2) (by omega) with hle | hne
  · omega
  · rw [Nat.sub_add_cancel hp] at hne
    exact hne (Nat.mod_eq_zero_of_dvd q.minFac_dvd)

/-- A number, a base, and prime powers that make up the known factor of its predecessor. -/
structure Step where
  n : ℕ
  base : ℕ
  factors : List (ℕ × ℕ)

namespace Step

/-- The known factor. -/
def known (s : Step) : ℕ := (s.factors.map fun f => f.1 ^ f.2).prod

/-- The criterion holds, and each prime in it is one of these or small enough to be tried. -/
def isSound (s : Step) (primes : List ℕ) : Bool :=
  1 < s.n && (s.n - 1) % s.known == 0 && s.n < s.known * s.known
    && Modular.pow s.n s.base (s.n - 1) == 1
    && s.factors.all fun f =>
      (primes.contains f.1 || isSmallPrime f.1)
        && Nat.gcd (Modular.pow s.n s.base ((s.n - 1) / f.1) + (s.n - 1)) s.n == 1

theorem prime_of_isSound {s : Step} {primes : List ℕ} (hprimes : ∀ q ∈ primes, q.Prime)
    (h : s.isSound primes = true) : s.n.Prime := by
  simp only [isSound, Bool.and_eq_true, Bool.or_eq_true, decide_eq_true_eq, beq_iff_eq,
    List.all_eq_true, List.contains_iff_mem, Modular.pow_eq] at h
  obtain ⟨⟨⟨⟨hn, hknown⟩, hlt⟩, hone⟩, hfactors⟩ := h
  refine prime_of_pocklington hn (Nat.dvd_of_mod_eq_zero hknown) hlt hone fun q hq hqf => ?_
  obtain ⟨power, hpower, hqpower⟩ := (Prime.dvd_prod_iff hq.prime).1 hqf
  obtain ⟨f, hf, rfl⟩ := List.mem_map.1 hpower
  obtain ⟨hmem, hgcd⟩ := hfactors f hf
  have hprime : f.1.Prime := hmem.elim (hprimes f.1) prime_of_isSmallPrime
  obtain rfl : q = f.1 := (Nat.prime_dvd_prime_iff_eq hq hprime).1 (hq.dvd_of_dvd_pow hqpower)
  have hmod : s.base ^ ((s.n - 1) / f.1) % s.n + (s.n - 1)
      ≡ s.base ^ ((s.n - 1) / f.1) + (s.n - 1) [MOD s.n] :=
    (Nat.mod_modEq _ _).add_right _
  exact hmod.gcd_eq.symm.trans hgcd

end Step

/-- Every step is sound with the numbers of the steps after it. -/
def areSound : List Step → Bool
  | [] => true
  | s :: rest => s.isSound (rest.map (·.n)) && areSound rest

theorem prime_of_areSound {steps : List Step} (h : areSound steps = true) :
    ∀ s ∈ steps, s.n.Prime := by
  induction steps with
  | nil => simp
  | cons s rest ih =>
    obtain ⟨hs, hrest⟩ := Bool.and_eq_true_iff.1 h
    have hprimes : ∀ q ∈ rest.map (·.n), q.Prime := by
      simpa using ih hrest
    exact List.forall_mem_cons.2 ⟨s.prime_of_isSound hprimes hs, ih hrest⟩

/-- The first number of a certificate is prime. -/
theorem prime_of_certified {n base : ℕ} {factors : List (ℕ × ℕ)} {rest : List Step}
    (h : areSound (⟨n, base, factors⟩ :: rest) = true) : n.Prime :=
  prime_of_areSound h _ List.mem_cons_self

end Passkey.Primality
