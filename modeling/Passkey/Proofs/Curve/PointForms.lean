import Passkey.Proofs.Cose.GenuineKeys
import Passkey.Proofs.Curve.Cubic

/-!
# One point, four forms

A point travels by both of its coordinates, or by the first one and a mark for the second: that it is
the even one, the odd one, or the lesser one of the two that belong to the first coordinate. The
reader finds a square root for the last three. It finds one whenever there is a point, and since no
point is its own inverse, the mark picks exactly one of the two. So octets are read as the point that
they spell (`ofOctets?_eq_some`).
-/

namespace Passkey.Curve

variable {c : Curve} {x y r s : ℕ}

/-! ### The two roots -/

theorem prime_mod_four (c : Curve) : c.prime % 4 = 3 := by
  cases c <;> decide

/-- The numbers are the second coordinates of the two points with this first coordinate. -/
structure IsRootPair (c : Curve) (x r s : ℕ) : Prop where
  pos : 0 < r
  sum : r + s = c.prime
  contains_iff : ∀ y, c.contains x y = true ↔ y = r ∨ y = s

/-- Points with the same first coordinate are the same or inverse to each other. -/
theorem eq_or_sum_of_contains (hy : c.contains x y = true) (hr : c.contains x r = true) :
    y = r ∨ r + y = c.prime := by
  have hypos := pos_of_contains hy
  obtain ⟨-, hylt, hysquare⟩ := contains_iff.1 hy
  obtain ⟨-, hrlt, hrsquare⟩ := contains_iff.1 hr
  have hsquares : (y : ZMod c.prime) * y = r * r := by
    have hcast : ((y * y : ℕ) : ZMod c.prime) = (r * r : ℕ) := by
      rw [ZMod.natCast_eq_natCast_iff', hysquare, hrsquare]
    exact_mod_cast hcast
  rcases mul_self_eq_mul_self_iff.1 hsquares with heq | hneg
  · exact Or.inl ((cast_inj_of_lt hylt hrlt).1 heq)
  · have hzero : ((r + y : ℕ) : ZMod c.prime) = 0 := by
      push_cast
      linear_combination hneg
    obtain ⟨k, hk⟩ := (ZMod.natCast_eq_zero_iff _ _).1 hzero
    have hone : k = 1 := by
      have hpos : 0 < k := Nat.pos_of_ne_zero (by rintro rfl; omega)
      have hlt : c.prime * k < c.prime * 2 := by omega
      have hk2 : k < 2 := Nat.lt_of_mul_lt_mul_left hlt
      omega
    subst hone
    exact Or.inr (by omega)

theorem isRootPair_of_roots? (hx : x < c.prime) (h : c.roots? (c.rhs x) = some (r, s)) :
    c.IsRootPair x r s := by
  obtain ⟨⟨hrlt, hrsquare⟩, hslt, hssquare⟩ := roots?_eq_some h
  have hreduced : c.rhs x % c.prime = c.rhs x := Nat.mod_mod ..
  have hr : c.contains x r = true := contains_iff.2 ⟨hx, hrlt, hrsquare.trans hreduced⟩
  have hs : c.contains x s = true := contains_iff.2 ⟨hx, hslt, hssquare.trans hreduced⟩
  have hpos := pos_of_contains hr
  have hsum : r + s = c.prime := by
    simp only [roots?, Option.ite_none_right_eq_some, Option.some.injEq, Prod.mk.injEq] at h
    obtain ⟨-, rfl, rfl⟩ := h
    rw [Nat.mod_eq_of_lt (by omega)]
    omega
  refine ⟨hpos, hsum, fun y => ⟨fun hy => ?_, ?_⟩⟩
  · rcases eq_or_sum_of_contains hy hr with heq | hother
    · exact Or.inl heq
    · exact Or.inr (by omega)
  · rintro (rfl | rfl)
    · exact hr
    · exact hs

/-- Where there is a point, its second coordinate is found: its square to the power `(p + 1) / 4` is
a root of that square, by Fermat's theorem. -/
theorem exists_roots_of_contains (h : c.contains x y = true) :
    ∃ r s, c.roots? (c.rhs x) = some (r, s) := by
  obtain ⟨-, -, hsquare⟩ := contains_iff.1 h
  have hfour := c.prime_mod_four
  have hexponent : 4 * ((c.prime + 1) / 4) = c.prime + 1 := by omega
  have hrhs : (c.rhs x : ZMod c.prime) = y ^ 2 := by
    rw [← hsquare, ZMod.natCast_mod, Nat.cast_mul, pow_two]
  have hroot : Modular.pow c.prime (c.rhs x) ((c.prime + 1) / 4)
      * Modular.pow c.prime (c.rhs x) ((c.prime + 1) / 4) % c.prime = c.rhs x % c.prime := by
    rw [← ZMod.natCast_eq_natCast_iff', Nat.cast_mul, Modular.pow_eq, ZMod.natCast_mod,
      Nat.cast_pow, hrhs, ← pow_mul, ← pow_add]
    calc (y : ZMod c.prime) ^ (2 * ((c.prime + 1) / 4) + 2 * ((c.prime + 1) / 4))
        = (y : ZMod c.prime) ^ (c.prime + 1) := by congr 1; omega
      _ = (y : ZMod c.prime) ^ 2 := by rw [pow_succ, ZMod.pow_card, pow_two]
  exact ⟨_, _, if_pos hroot⟩

/-! ### The forms -/

/-- The mark tells which of the two second coordinates is meant. -/
inductive Tells (c : Curve) (y : ℕ) : UInt8 → Prop
  | even (h : y % 2 = 0) : Tells c y 2
  | odd (h : y % 2 = 1) : Tells c y 3
  | lesser (h : 2 * y < c.prime) : Tells c y 5

/-- The octets are one of the forms of the point at two coordinates. -/
inductive Spells (c : Curve) (x y : ℕ) : Bytes → Prop
  | both : Spells c x y (0x04 :: c.coordinate x ++ c.coordinate y)
  | first {mark : UInt8} (h : c.Tells y mark) : Spells c x y (mark :: c.coordinate x)

/-- The root that the mark picks. -/
def pickRoot (mark : UInt8) (r s : ℕ) : ℕ :=
  if mark = 5 then min r s else if r % 2 = mark.toNat % 2 then r else s

theorem IsRootPair.pickRoot_iff (h : c.IsRootPair x r s) {mark : UInt8}
    (hmark : mark = 2 ∨ mark = 3 ∨ mark = 5) :
    y = pickRoot mark r s ↔ c.contains x y = true ∧ c.Tells y mark := by
  have hfour := c.prime_mod_four
  have hpos := h.pos
  have hsum := h.sum
  rw [h.contains_iff]
  -- The roots add up to an odd number, so one of them is even, and they are not equal.
  rcases hmark with rfl | rfl | rfl
  · have htells : c.Tells y 2 ↔ y % 2 = 0 := ⟨fun | .even heven => heven, .even⟩
    have hpick : pickRoot 2 r s = if r % 2 = 0 then r else s := rfl
    rw [htells, hpick]
    split <;> omega
  · have htells : c.Tells y 3 ↔ y % 2 = 1 := ⟨fun | .odd hodd => hodd, .odd⟩
    have hpick : pickRoot 3 r s = if r % 2 = 1 then r else s := rfl
    rw [htells, hpick]
    split <;> omega
  · have htells : c.Tells y 5 ↔ 2 * y < c.prime := ⟨fun | .lesser hlt => hlt, .lesser⟩
    have hpick : pickRoot 5 r s = min r s := rfl
    rw [htells, hpick]
    omega

/-- What is read from a first coordinate and a mark. -/
theorem ofOctets?_first {mark : UInt8} (hmark : mark = 2 ∨ mark = 3 ∨ mark = 5) {body : Bytes} :
    c.ofOctets? (mark :: body) = some (x, y) ↔
      body = c.coordinate x ∧ x < c.prime ∧
        ∃ r s, c.roots? (c.rhs x) = some (r, s) ∧ y = pickRoot mark r s := by
  have hnot : mark ≠ 4 := by rcases hmark with rfl | rfl | rfl <;> decide
  have hread : c.ofOctets? (mark :: body) = some (x, y) ↔
      (body.length = c.coordinateSize ∧ Bytes.toNat body < c.prime) ∧ Bytes.toNat body = x ∧
        ∃ r s, c.roots? (c.rhs x) = some (r, s) ∧ y = pickRoot mark r s := by
    have hpicked (n r s : ℕ) :
        (if mark = 5 then some (n, min r s)
          else if r % 2 = mark.toNat % 2 then some (n, r) else some (n, s))
          = some (n, pickRoot mark r s) := by
      rw [pickRoot]
      split_ifs <;> rfl
    simp only [ofOctets?, hnot, if_false, hmark, true_and, Option.ite_none_right_eq_some,
      Option.bind_eq_bind, Option.bind_eq_some_iff, Prod.exists, Option.pure_def, hpicked,
      Option.some.injEq, Prod.mk.injEq]
    refine and_congr_right fun _ => ?_
    constructor
    · rintro ⟨r, s, hroots, rfl, rfl⟩
      exact ⟨rfl, r, s, hroots, rfl⟩
    · rintro ⟨rfl, r, s, hroots, rfl⟩
      exact ⟨r, s, hroots, rfl, rfl⟩
  rw [hread]
  constructor
  · rintro ⟨⟨hlength, hlt⟩, rfl, hroots⟩
    exact ⟨by rw [coordinate, ← hlength, Bytes.ofNat_toNat], hlt, hroots⟩
  · rintro ⟨rfl, hlt, hroots⟩
    have hvalue : Bytes.toNat (c.coordinate x) = x :=
      Bytes.toNat_ofNat (Nat.lt_of_lt_of_le hlt c.prime_le)
    exact ⟨⟨Bytes.length_ofNat .., hvalue.symm ▸ hlt⟩, hvalue, hroots⟩

/-- Octets are read as the point that they spell. -/
theorem ofOctets?_eq_some {octets : Bytes} :
    c.ofOctets? octets = some (x, y) ↔ c.contains x y = true ∧ c.Spells x y octets := by
  constructor
  · intro h
    refine ⟨contains_of_ofOctets? h, ?_⟩
    cases octets with
    | nil => cases h
    | cons mark body =>
      by_cases hboth : mark = 4
      · subst hboth
        rw [← List.append_nil (4 :: body)] at h
        obtain ⟨hbody, -⟩ := ofOctets?_uncompressed.1 h
        rw [List.append_nil] at hbody
        rw [hbody]
        exact .both
      · have hmark : mark = 2 ∨ mark = 3 ∨ mark = 5 := by
          simp only [ofOctets?, hboth, if_false, Option.ite_none_right_eq_some] at h
          exact h.1.1
        obtain ⟨rfl, hx, r, s, hroots, hpick⟩ := (ofOctets?_first hmark).1 h
        have htells := ((isRootPair_of_roots? hx hroots).pickRoot_iff hmark).1 hpick
        exact .first htells.2
  · rintro ⟨hcontains, hspells⟩
    cases hspells with
    | both => exact ofOctets?_coordinates hcontains
    | first htells =>
      rename_i mark
      have hmark : mark = 2 ∨ mark = 3 ∨ mark = 5 := by cases htells <;> decide
      have hx := (contains_iff.1 hcontains).1
      obtain ⟨r, s, hroots⟩ := exists_roots_of_contains hcontains
      have hpick := ((isRootPair_of_roots? hx hroots).pickRoot_iff hmark).2 ⟨hcontains, htells⟩
      exact (ofOctets?_first hmark).2 ⟨rfl, hx, r, s, hroots, hpick⟩

end Passkey.Curve
