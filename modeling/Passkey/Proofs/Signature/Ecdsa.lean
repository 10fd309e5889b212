import Mathlib.Data.Nat.Size
import Passkey.Proofs.Asn1.Elements
import Passkey.Proofs.Curve.GroupLaw
import Passkey.Signature.Ecdsa

/-!
# What an ECDSA signature is

A signature is valid if it is the DER spelling of two numbers in range that satisfy the equation of
the standard, with the leftmost bits of the digest, in the group of the curve (`Valid`). That is
what the check of a digest decides, except that it never accepts one of less than half the size of
a coordinate. Among the digests and curves in use the only such pair is SHA-256 with P-521
(`verifyDigest_eq_true`). The check of a message hashes it itself and has no such limit; with the
digest that goes with the curve the two agree (`verifyMessage_eq_verifyDigest`).
-/

namespace Passkey.Ecdsa

variable {c : Curve}

/-! ### The written form -/

theorem order_le (c : Curve) : c.order ≤ 256 ^ c.coordinateSize := by
  cases c <;> decide

theorem Signature.inRange_iff {sig : Signature} : sig.inRange c = true ↔
    (0 < sig.r ∧ sig.r < c.order) ∧ 0 < sig.s ∧ sig.s < c.order := by
  simp [inRange, and_assoc]

/-- The element that spells a number below the order. -/
def integerElement (c : Curve) (n : ℕ) : Der.Element :=
  ⟨Der.Tag.integer, Der.minimalOctets (c.coordinate n)⟩

theorem natural?_eq_some {e : Der.Element} {n : ℕ} (hn : n < c.order) :
    e.natural? = some n ↔ e = integerElement c n := by
  have hspell : Bytes.toNat (c.coordinate n) = n :=
    Bytes.toNat_ofNat (Nat.lt_of_lt_of_le hn (order_le c))
  rw [integerElement, ← Der.natural?_eq_some, hspell]

theorem length_integerElement_le (c : Curve) (n : ℕ) :
    (integerElement c n).content.length ≤ 67 := by
  calc (integerElement c n).content.length ≤ (c.coordinate n).length + 1 :=
        Der.length_minimalOctets_le _
    _ = c.coordinateSize + 1 := by rw [Curve.coordinate, Bytes.length_ofNat]
    _ ≤ 67 := by cases c <;> decide

theorem wellFormed_integerElement (c : Curve) (n : ℕ) : (integerElement c n).WellFormed := by
  have hknown : Der.Tag.isKnown Der.Tag.integer = true := by decide
  have hlength := length_integerElement_le c n
  exact ⟨hknown, by rw [Der.maxLength]; omega⟩

/-- The element that spells a signature. -/
def Signature.element (sig : Signature) (c : Curve) : Der.Element :=
  ⟨Der.Tag.sequence, (integerElement c sig.r).write ++ (integerElement c sig.s).write⟩

theorem Signature.write_eq (sig : Signature) (c : Curve) : sig.write c = (sig.element c).write := by
  simp [Signature.write, Signature.element, Der.sequence, Der.unsigned_eq_tlv, integerElement,
    Der.Element.write]

theorem Signature.whole_element (sig : Signature) (c : Curve) : (sig.element c).Whole := by
  have hwrite (n : ℕ) : (integerElement c n).write.length ≤ 69 := by
    have hlength := length_integerElement_le c n
    have hshort : (Der.lengthOctets (integerElement c n).content.length).length = 1 := by
      rw [Der.lengthOctets, if_pos (by omega), List.length_singleton]
    simp only [Der.Element.write, Der.tlv, List.length_append, List.length_cons, hshort]
    omega
  have hknown : Der.Tag.isKnown Der.Tag.sequence = true := by decide
  have hr := hwrite sig.r
  have hs := hwrite sig.s
  have hcontent : (sig.element c).content.length ≤ 138 := by
    rw [Signature.element, List.length_append]
    omega
  have hlength := (sig.element c).length_write_le
  exact ⟨hknown, by rw [Der.maxLength]; omega⟩

/-- A signature has one spelling. -/
theorem Signature.ofDer?_eq_some {der : Bytes} {sig : Signature} :
    Signature.ofDer? c der = some sig ↔ sig.inRange c = true ∧ der = sig.write c := by
  constructor
  · intro h
    simp only [Signature.ofDer?, Option.bind_eq_bind, Option.bind_eq_some_iff,
      Der.element?_eq_some] at h
    obtain ⟨members, ⟨e, ⟨-, rfl⟩, hmembers⟩, h⟩ := h
    split at h
    · rename_i first second
      simp only [Option.bind_eq_some_iff, Option.ite_none_right_eq_some, Option.some.injEq] at h
      obtain ⟨r, hr, s, hs, hrange, rfl⟩ := h
      obtain ⟨⟨-, hrlt⟩, -, hslt⟩ := Signature.inRange_iff.1 hrange
      obtain rfl := (natural?_eq_some hrlt).1 hr
      obtain rfl := (natural?_eq_some hslt).1 hs
      simp only [Der.Element.sequence?, Der.Element.content?, Option.bind_eq_bind,
        Option.bind_eq_some_iff, Option.ite_none_right_eq_some, Option.some.injEq] at hmembers
      obtain ⟨content, ⟨htag, rfl⟩, hcontent⟩ := hmembers
      obtain ⟨-, hcontent⟩ := Der.elements?_eq_some.1 hcontent
      refine ⟨hrange, ?_⟩
      rw [Signature.write_eq, Signature.element, Der.Element.write, htag, hcontent]
      simp [Der.Element.write]
    · cases h
  · rintro ⟨hrange, rfl⟩
    obtain ⟨⟨-, hr⟩, -, hs⟩ := Signature.inRange_iff.1 hrange
    have helement : Der.element? (sig.write c) = some (sig.element c) :=
      Der.element?_eq_some.2 ⟨sig.whole_element c, sig.write_eq c⟩
    have hmembers : (sig.element c).sequence?
        = some [integerElement c sig.r, integerElement c sig.s] := by
      change Der.elements? (sig.element c).content = _
      rw [Der.elements?_eq_some]
      exact ⟨by simp [wellFormed_integerElement], by simp [Signature.element]⟩
    simp [Signature.ofDer?, helement, hmembers, (natural?_eq_some hr).2 rfl,
      (natural?_eq_some hs).2 rfl, hrange]

/-! ### The number of a digest -/

/-- The number that the first bits of a digest spell, all of them if there are no more. -/
def leftmostBits (count : ℕ) (digest : Bytes) : ℕ :=
  Bytes.toNat digest >>> (8 * digest.length - count)

theorem size_order (c : Curve) : c.order.size = match c with
    | .p256 => 256
    | .p384 => 384
    | .p521 => 521 := by
  cases c <;> decide +kernel

/-- The digest is of less than half the size of a coordinate. Of the pairs in use this is one. -/
def TooShort (hash : Hash) (c : Curve) : Prop := hash = .sha256 ∧ c = .p521

instance (hash : Hash) (c : Curve) : Decidable (TooShort hash c) :=
  inferInstanceAs (Decidable (_ ∧ _))

theorem fitted?_eq_some {digest octets : Bytes} : fitted? c digest = some octets ↔
    c.coordinateSize / 2 ≤ digest.length ∧
      octets = List.replicate (c.coordinateSize - digest.length) 0
        ++ digest.take c.coordinateSize := by
  rw [fitted?]
  split
  · simp only [reduceCtorEq, false_iff, not_and]
    omega
  · rename_i hlength
    simp [Nat.le_of_not_lt hlength, eq_comm]

/-- Fitting drops no bits of a digest that is no longer than a coordinate. -/
theorem toNat_fitted {digest octets : Bytes} (h : fitted? c digest = some octets)
    (hlength : digest.length ≤ c.coordinateSize) : Bytes.toNat octets = Bytes.toNat digest := by
  obtain ⟨-, rfl⟩ := fitted?_eq_some.1 h
  rw [Bytes.toNat_replicate_zero_append, List.take_of_length_le hlength]

theorem fitted?_digest (c : Curve) (hash : Hash) (message : Bytes) :
    (fitted? c (hash.digest message)).map Bytes.toNat =
      if TooShort hash c then none
      else some (leftmostBits c.order.size (hash.digest message)) := by
  rw [fitted?, leftmostBits, size_order, apply_ite (Option.map Bytes.toNat), Option.map_none,
    Option.map_some, Bytes.toNat_replicate_zero_append, Bytes.toNat_take, Hash.length_digest]
  cases c <;> cases hash <;> rfl

/-! ### The equation -/

/-- The equation of the standard for the key `Q` and the number `z` of a digest, with the inverse
of `s` modulo the order. -/
def Holds (c : Curve) (Q : c.weierstrass.Point) (z : ℕ) (sig : Signature) : Prop :=
  ∃ x y hpoint,
    (z * (sig.s : ZMod c.order)⁻¹).val • c.element c.base
        + (sig.r * (sig.s : ZMod c.order)⁻¹).val • Q = .some x y hpoint
      ∧ (x.val : ZMod c.order) = sig.r

theorem equation_iff_holds {key : Curve.Point} {Q : c.weierstrass.Point}
    (hkey : c.Represents key Q) {sig : Signature} (hrange : sig.inRange c = true) (z : ℕ) :
    equation c key z sig = true ↔ Holds c Q z sig := by
  have hpos : 0 < c.order := by cases c <;> decide
  have hr : sig.r < c.order := (Signature.inRange_iff.1 hrange).1.2
  have hfactor (n : ℕ) :
      n * Modular.inverse c.order sig.s % c.order = (n * (sig.s : ZMod c.order)⁻¹).val := by
    rw [← ZMod.val_natCast, Nat.cast_mul, Modular.cast_inverse hpos]
  rw [equation, hfactor, hfactor, Holds]
  generalize (z * (sig.s : ZMod c.order)⁻¹).val = u
  generalize (sig.r * (sig.s : ZMod c.order)⁻¹).val = v
  have hsum := ((Curve.represents_base c).mul u).add (hkey.mul v)
  generalize c.add _ _ = point at hsum
  generalize u • c.element c.base + v • Q = P at hsum
  cases hsum with
  | infinity => simp [WeierstrassCurve.Affine.Point.zero_def]
  | @affine x y hx hy h =>
    have hcoordinate : (x % c.order == sig.r) = true
        ↔ (((x : ZMod c.prime).val : ℕ) : ZMod c.order) = sig.r := by
      rw [ZMod.val_natCast, Nat.mod_eq_of_lt hx, ZMod.natCast_eq_natCast_iff',
        Nat.mod_eq_of_lt hr, beq_iff_eq]
    constructor
    · intro heq
      exact ⟨_, _, h, rfl, hcoordinate.1 heq⟩
    · rintro ⟨x', y', h', heq, hr'⟩
      cases heq
      exact hcoordinate.2 hr'

/-- The octets are the DER spelling of a signature over the digest by the key. -/
def Valid (c : Curve) (Q : c.weierstrass.Point) (digest signature : Bytes) : Prop :=
  ∃ sig : Signature, sig.inRange c = true ∧ signature = sig.write c ∧
    Holds c Q (leftmostBits c.order.size digest) sig

theorem valid_iff {x y : ℕ} {Q : c.weierstrass.Point} (hkey : c.Represents (.affine x y) Q)
    {digest signature : Bytes} : Valid c Q digest signature ↔ ∃ sig,
      Signature.ofDer? c signature = some sig ∧
        equation c (.affine x y) (leftmostBits c.order.size digest) sig = true := by
  simp only [Signature.ofDer?_eq_some, Valid, and_assoc]
  refine exists_congr fun sig => and_congr_right fun hrange => and_congr_right fun _ => ?_
  exact (equation_iff_holds hkey hrange _).symm

/-! ### The two checks -/

theorem verifyDigest_eq_true {x y : ℕ} {Q : c.weierstrass.Point}
    (hkey : c.Represents (.affine x y) Q) (hash : Hash) (message signature : Bytes) :
    verifyDigest c x y (hash.digest message) signature = true ↔
      ¬ TooShort hash c ∧ Valid c Q (hash.digest message) signature := by
  have hfitted := fitted?_digest c hash message
  rw [valid_iff hkey, verifyDigest]
  cases hsig : Signature.ofDer? c signature with
  | none => simp
  | some sig =>
    by_cases hpair : TooShort hash c
    · rw [if_pos hpair, Option.map_eq_none_iff] at hfitted
      simp [hfitted, hpair]
    · rw [if_neg hpair] at hfitted
      obtain ⟨octets, hoctets, hnumber⟩ := Option.map_eq_some_iff.1 hfitted
      simp [hoctets, hnumber, hpair]

theorem length_hash_digest (c : Curve) (message : Bytes) :
    c.coordinateSize / 2 ≤ (c.hash.digest message).length ∧
      (c.hash.digest message).length ≤ c.coordinateSize := by
  rw [Hash.length_digest]
  cases c <;> decide

/-- Hashing in the check and fitting a digest made before come to the same: the digest that goes
with a curve is neither refused nor cut. -/
theorem verifyMessage_eq_verifyDigest (c : Curve) (x y : ℕ) (message signature : Bytes) :
    verifyMessage c x y message signature
      = verifyDigest c x y (c.hash.digest message) signature := by
  obtain ⟨hhalf, hwhole⟩ := length_hash_digest c message
  obtain ⟨octets, hfitted⟩ : ∃ octets, fitted? c (c.hash.digest message) = some octets :=
    ⟨_, fitted?_eq_some.2 ⟨hhalf, rfl⟩⟩
  rw [verifyMessage, verifyDigest, hfitted, ← toNat_fitted hfitted hwhole]
  cases Signature.ofDer? c signature <;> rfl

end Passkey.Ecdsa
