import Passkey.Proofs.Asn1.Elements
import Passkey.Proofs.Cose.RoundTrip
import Passkey.Proofs.Curve.PointForms

/-!
# One value for each key

Keys are compared as values, so a key must not depend on the form in which it came. A point is kept
by both coordinates at full size, whatever form it was read from, and the numbers of an RSA key
without leading zeros, whether they were integers in DER or octets with any number of zeros in front.
Two keys are then equal exactly if they are the same point or the same numbers.
-/

namespace Passkey

/-! ### Points -/

namespace Curve

variable {c : Curve} {x y x' y' : ℕ} {octets octets' : Bytes} {Q Q' : c.weierstrass.Point}

/-- The octets are one of the forms of this point. -/
def SpellsPoint (c : Curve) (octets : Bytes) (Q : c.weierstrass.Point) : Prop :=
  ∃ x y, c.Represents (.affine x y) Q ∧ c.Spells x y octets

theorem contains_of_represents (h : c.Represents (.affine x y) Q) : c.contains x y = true := by
  cases h with
  | affine hx hy hpoint => exact contains_iff_equation.2 ⟨hx, hy, hpoint.1⟩

/-- Reduced coordinates are those of one point, and a point has one pair of them. -/
theorem represents_unique (h : c.Represents (.affine x y) Q) (h' : c.Represents (.affine x' y') Q') :
    Q = Q' ↔ x = x' ∧ y = y' := by
  cases h with
  | affine hx hy hpoint =>
    cases h' with
    | affine hx' hy' hpoint' =>
      simp only [WeierstrassCurve.Affine.Point.some.injEq, cast_inj_of_lt hx hx',
        cast_inj_of_lt hy hy']

theorem exists_spellsPoint (h : c.ofOctets? octets = some (x, y)) :
    ∃ Q, c.Represents (.affine x y) Q ∧ ∀ Q', c.SpellsPoint octets Q' ↔ Q' = Q := by
  obtain ⟨hcontains, hspells⟩ := ofOctets?_eq_some.1 h
  have hrepresents := represents_element hcontains
  refine ⟨_, hrepresents, fun Q' => ⟨?_, ?_⟩⟩
  · rintro ⟨x', y', hrepresents', hspells'⟩
    have h' := ofOctets?_eq_some.2 ⟨contains_of_represents hrepresents', hspells'⟩
    rw [h] at h'
    cases h'
    exact (represents_unique hrepresents' hrepresents).2 ⟨rfl, rfl⟩
  · rintro rfl
    exact ⟨x, y, hrepresents, hspells⟩

theorem coordinate_inj (hx : x < c.prime) (hx' : x' < c.prime) :
    c.coordinate x = c.coordinate x' ↔ x = x' := by
  have hvalue {n : ℕ} (hn : n < c.prime) : Bytes.toNat (c.coordinate n) = n :=
    Bytes.toNat_ofNat (Nat.lt_of_lt_of_le hn c.prime_le)
  constructor
  · intro h
    rw [← hvalue hx, h, hvalue hx']
  · rintro rfl
    rfl

/-- The octets are the two coordinates of a point of the curve, each at its full size. -/
structure IsCoordinates (c : Curve) (x y : Bytes) : Prop where
  length_x : x.length = c.coordinateSize
  length_y : y.length = c.coordinateSize
  x_lt : Bytes.toNat x < c.prime
  y_lt : Bytes.toNat y < c.prime
  equation : c.weierstrass.Equation (Bytes.toNat x : ZMod c.prime) (Bytes.toNat y)

theorem isCoordinates_iff {xs ys : Bytes} : c.IsCoordinates xs ys ↔
    ∃ x y, c.contains x y = true ∧ xs = c.coordinate x ∧ ys = c.coordinate y := by
  constructor
  · intro h
    refine ⟨_, _, contains_iff_equation.2 ⟨h.x_lt, h.y_lt, h.equation⟩, ?_, ?_⟩
    · rw [coordinate, ← h.length_x, Bytes.ofNat_toNat]
    · rw [coordinate, ← h.length_y, Bytes.ofNat_toNat]
  · rintro ⟨x, y, hcontains, rfl, rfl⟩
    obtain ⟨hx, hy, hequation⟩ := contains_iff_equation.1 hcontains
    have hvalue {n : ℕ} (hn : n < c.prime) : Bytes.toNat (c.coordinate n) = n :=
      Bytes.toNat_ofNat (Nat.lt_of_lt_of_le hn c.prime_le)
    refine ⟨c.length_coordinate x, c.length_coordinate y, ?_, ?_, ?_⟩
    · rwa [hvalue hx]
    · rwa [hvalue hy]
    · rwa [hvalue hx, hvalue hy]

end Curve

namespace PublicKey

variable {curve : Curve} {octets octets' : Bytes} {key key' : PublicKey}

theorem ofOctets_eq_ok : ofOctets curve octets = .ok key ↔ ∃ x y,
    curve.contains x y = true ∧ curve.Spells x y octets ∧
      key = .ec2 curve (curve.coordinate x) (curve.coordinate y) := by
  have hread : ofOctets curve octets = .ok key ↔ ∃ x y, curve.ofOctets? octets = some (x, y) ∧
      key = .ec2 curve (curve.coordinate x) (curve.coordinate y) := by
    unfold ofOctets
    cases curve.ofOctets? octets with
    | none => simp
    | some p =>
      obtain ⟨x, y⟩ := p
      simp [eq_comm]
  simp only [hread, Curve.ofOctets?_eq_some, and_assoc]

/-- A key on a curve is its coordinates. -/
theorem isCoordinates_of_ofOctets (h : ofOctets curve octets = .ok key) :
    ∃ x y, key = .ec2 curve x y ∧ curve.IsCoordinates x y := by
  obtain ⟨x, y, hcontains, -, rfl⟩ := ofOctets_eq_ok.1 h
  exact ⟨_, _, rfl, Curve.isCoordinates_iff.2 ⟨x, y, hcontains, rfl, rfl⟩⟩

/-- Keys on a curve are equal exactly if they were read from forms of one point. -/
theorem ofOctets_inj (h : ofOctets curve octets = .ok key)
    (h' : ofOctets curve octets' = .ok key') :
    key = key' ↔ ∃ Q, curve.SpellsPoint octets Q ∧ curve.SpellsPoint octets' Q := by
  obtain ⟨x, y, hcontains, hspells, rfl⟩ := ofOctets_eq_ok.1 h
  obtain ⟨x', y', hcontains', hspells', rfl⟩ := ofOctets_eq_ok.1 h'
  obtain ⟨Q, hQ, hpoint⟩ :=
    Curve.exists_spellsPoint (Curve.ofOctets?_eq_some.2 ⟨hcontains, hspells⟩)
  obtain ⟨Q', hQ', hpoint'⟩ :=
    Curve.exists_spellsPoint (Curve.ofOctets?_eq_some.2 ⟨hcontains', hspells'⟩)
  obtain ⟨hx, hy, -⟩ := Curve.contains_iff.1 hcontains
  obtain ⟨hx', hy', -⟩ := Curve.contains_iff.1 hcontains'
  simp only [hpoint, hpoint', exists_eq_left, Curve.represents_unique hQ hQ', ec2.injEq, true_and,
    Curve.coordinate_inj hx hx', Curve.coordinate_inj hy hy']

/-- The shortest form of the point at two coordinates. -/
def compress (x y : Bytes) : Bytes :=
  (if Bytes.toNat y % 2 = 0 then 0x02 else 0x03) :: x

/-- A key on a curve is read again from its shortest form. -/
theorem ofOctets_compress {x y : Bytes} (h : curve.IsCoordinates x y) :
    ofOctets curve (compress x y) = .ok (.ec2 curve x y) := by
  obtain ⟨x, y, hcontains, rfl, rfl⟩ := Curve.isCoordinates_iff.1 h
  obtain ⟨-, hy, -⟩ := Curve.contains_iff.1 hcontains
  have hvalue : Bytes.toNat (curve.coordinate y) = y :=
    Bytes.toNat_ofNat (Nat.lt_of_lt_of_le hy curve.prime_le)
  refine ofOctets_eq_ok.2 ⟨x, y, hcontains, ?_, rfl⟩
  rw [compress, hvalue]
  split
  · next heven => exact .first (.even heven)
  · next hodd => exact .first (.odd (by omega))

/-! ### Numbers -/

theorem ofRsa_congr {n e n' e' : Bytes} (hn : Bytes.toNat n = Bytes.toNat n')
    (he : Bytes.toNat e = Bytes.toNat e') : ofRsa n e = ofRsa n' e' := by
  unfold ofRsa
  rw [Bytes.trim_eq_of_toNat_eq hn, Bytes.trim_eq_of_toNat_eq he]

theorem ofRsa_inj {n e n' e' : Bytes} (h : ofRsa n e = .ok key) (h' : ofRsa n' e' = .ok key') :
    key = key' ↔ Bytes.toNat n = Bytes.toNat n' ∧ Bytes.toNat e = Bytes.toNat e' := by
  constructor
  · rintro rfl
    obtain ⟨rfl, -⟩ := ofRsa_eq_ok.1 h
    obtain ⟨hsame, -⟩ := ofRsa_eq_ok.1 h'
    obtain ⟨hn, he⟩ := PublicKey.rsa.inj hsame
    rw [← Bytes.toNat_trim n, ← Bytes.toNat_trim e, hn, he, Bytes.toNat_trim, Bytes.toNat_trim]
    exact ⟨rfl, rfl⟩
  · rintro ⟨hn, he⟩
    rw [ofRsa_congr hn he, h'] at h
    exact (Except.ok.inj h).symm

theorem head?_trim_ne_zero (bs : Bytes) : (Bytes.trim bs).head? ≠ some 0 := by
  cases h : Bytes.trim bs with
  | nil => simp
  | cons b rest => simpa using Der.head_trim_ne_zero h

/-- The numbers of an RSA key are kept in their fewest octets. -/
theorem numbers_of_ofRsa {n e : Bytes} (h : ofRsa n e = .ok key) :
    ∃ n' e', key = .rsa n' e' ∧ n'.head? ≠ some 0 ∧ e'.head? ≠ some 0 ∧
      Bytes.toNat n' = Bytes.toNat n ∧ Bytes.toNat e' = Bytes.toNat e := by
  obtain ⟨rfl, -⟩ := ofRsa_eq_ok.1 h
  exact ⟨_, _, rfl, head?_trim_ne_zero n, head?_trim_ne_zero e, Bytes.toNat_trim n,
    Bytes.toNat_trim e⟩

/-- The numbers are read from the sequence that is written for them, unless it is too long. -/
theorem ofDer?_sequence {n e : Bytes} {k : Rsa.Key} :
    Rsa.Key.ofDer? (Der.sequence [Der.unsigned n, Der.unsigned e]) = some k ↔
      (Der.sequence [Der.unsigned n, Der.unsigned e]).length ≤ Der.maxLength ∧
        k = ⟨Bytes.toNat n, Bytes.toNat e⟩ := by
  have hread {es : List Der.Element} :
      Der.element? (Der.sequence [Der.unsigned n, Der.unsigned e]) >>= Der.Element.sequence?
          = some es ↔
        Der.IsSequenceOf (Der.sequence [Der.unsigned n, Der.unsigned e]) es :=
    Der.sequence?_eq_some
  by_cases hlength : (Der.sequence [Der.unsigned n, Der.unsigned e]).length ≤ Der.maxLength
  · have helements := hread.2 (Der.isSequenceOf_unsigned.2 hlength)
    simp only [Rsa.Key.ofDer?, helements, Option.bind_eq_bind, Option.bind_some,
      Der.natural?_minimalOctets, Option.pure_def, Option.some.injEq, hlength, true_and, eq_comm]
  · have hnone :
        Der.element? (Der.sequence [Der.unsigned n, Der.unsigned e]) >>= Der.Element.sequence?
          = none := by
      rw [Option.eq_none_iff_forall_ne_some]
      exact fun es hes => hlength (hread.1 hes).length_le
    simp only [Rsa.Key.ofDer?, hnone, Option.bind_eq_bind, Option.bind_none, reduceCtorEq, hlength,
      false_and]

/-- The octets from which the numbers of a key in DER are kept spell those numbers. -/
theorem toNat_ofNat_log2 (n : ℕ) : Bytes.toNat (Bytes.ofNat (n.log2 / 8 + 1) n) = n := by
  apply Bytes.toNat_ofNat
  calc n < 2 ^ (n.log2 + 1) := Nat.lt_log2_self
    _ ≤ 2 ^ (8 * (n.log2 / 8 + 1)) := Nat.pow_le_pow_right (by decide) (by omega)
    _ = 256 ^ (n.log2 / 8 + 1) := Nat.pow_mul 2 8 _

/-- A key in DER is taken exactly if its two numbers are, as octets. -/
theorem ofRsaDer_eq_ok {der : Bytes} : ofRsaDer der = .ok key ↔ ∃ n e,
    Rsa.Key.ofDer? der = some ⟨Bytes.toNat n, Bytes.toNat e⟩ ∧ ofRsa n e = .ok key := by
  unfold ofRsaDer
  cases Rsa.Key.ofDer? der with
  | none => simp
  | some k =>
    simp only [refuse_eq_ok, Bool.not_eq_true, Option.isSome_eq_false_iff, Option.isNone_iff_eq_none,
      Option.some.injEq]
    constructor
    · rintro ⟨-, h⟩
      exact ⟨_, _, by rw [toNat_ofNat_log2, toNat_ofNat_log2], h⟩
    · rintro ⟨n, e, rfl, h⟩
      obtain ⟨-, -, -, hdefect⟩ := ofRsa_eq_ok.1 h
      rw [Bytes.toNat_trim, Bytes.toNat_trim] at hdefect
      exact ⟨hdefect, (ofRsa_congr (toNat_ofNat_log2 _) (toNat_ofNat_log2 _)).trans h⟩

theorem length_unsigned_le {bs : Bytes} {count : ℕ} (h : (Bytes.trim bs).length ≤ count) :
    (Der.unsigned bs).length ≤ count + 11 := by
  have htrim : Der.unsigned bs = Der.unsigned (Bytes.trim bs) := by
    rw [Der.unsigned, Der.unsigned, Bytes.trim_trim]
  have hcontent := Der.length_minimalOctets_le (Bytes.trim bs)
  have hwrite := Der.Element.length_write_le ⟨Der.Tag.integer, Der.minimalOctets (Bytes.trim bs)⟩
  rw [htrim, Der.unsigned_eq_tlv]
  simp only [Der.Element.write] at hwrite
  omega

/-- The integers of an RSA key in DER give what its octets give. -/
theorem ofRsaDer_sequence {n e : Bytes} :
    ofRsaDer (Der.sequence [Der.unsigned n, Der.unsigned e]) = .ok key ↔ ofRsa n e = .ok key := by
  rw [ofRsaDer_eq_ok]
  simp only [ofDer?_sequence, Rsa.Key.mk.injEq]
  constructor
  · rintro ⟨n', e', ⟨-, hn, he⟩, h⟩
    rwa [ofRsa_congr hn he] at h
  · intro h
    have hcanonical := (Built.ofRsa h).canonical
    obtain ⟨rfl, -⟩ := ofRsa_eq_ok.1 h
    obtain ⟨hn, he⟩ := length_le_of_canonical_rsa hcanonical
    have hnlength := length_unsigned_le hn
    have helength := length_unsigned_le he
    have hcontent : [Der.unsigned n, Der.unsigned e].flatten.length ≤ 2 * 523 := by
      simp only [List.flatten_cons, List.flatten_nil, List.append_nil, List.length_append]
      omega
    have hlength : (Der.sequence [Der.unsigned n, Der.unsigned e]).length ≤ Der.maxLength :=
      calc (Der.sequence [Der.unsigned n, Der.unsigned e]).length
          ≤ [Der.unsigned n, Der.unsigned e].flatten.length + 10 := Der.length_sequence_le _
        _ ≤ 2 * 523 + 10 := Nat.add_le_add_right hcontent 10
        _ ≤ Der.maxLength := by decide
    exact ⟨n, e, ⟨hlength, rfl, rfl⟩, h⟩

end PublicKey

end Passkey
