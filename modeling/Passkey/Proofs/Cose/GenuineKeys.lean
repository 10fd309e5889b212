import Passkey.Proofs.Curve.EdwardsPoints
import Passkey.Proofs.Curve.GroupLaw

/-!
# Which keys are keys, and what a check can fail with

A key that was put together from arbitrary octets is genuine if they are the coordinates of a point
of its curve, an RSA key within the limits, or the encoding of a point of the Edwards curve. Whether
a signature can be checked, and what is reported if not, depends on the algorithm and the key alone
(`CannotCheck`), so no octets of a message or a signature change it.
-/

namespace Passkey

/-! ### Points -/

namespace Curve

variable {c : Curve}

/-- The octets are the coordinates of a point, each at its full size. -/
inductive Encodes (c : Curve) (x y : Bytes) : c.weierstrass.Point → Prop
  | mk {px py : ℕ} (hx : px < c.prime) (hy : py < c.prime)
      (h : c.weierstrass.Nonsingular (px : ZMod c.prime) py)
      (octets : x ++ y = c.coordinate px ++ c.coordinate py) : Encodes c x y (.some _ _ h)

theorem ofOctets?_uncompressed {x y : Bytes} {px py : ℕ} :
    c.ofOctets? (0x04 :: x ++ y) = some (px, py)
      ↔ x ++ y = c.coordinate px ++ c.coordinate py ∧ c.contains px py = true := by
  constructor
  · intro h
    refine ⟨?_, contains_of_ofOctets? h⟩
    simp only [ofOctets?, List.cons_append, if_true, Option.ite_none_right_eq_some,
      Option.some.injEq, Prod.mk.injEq] at h
    obtain ⟨⟨hlength, -⟩, rfl, rfl⟩ := h
    have hread (bs : Bytes) (hbs : bs.length = c.coordinateSize) :
        c.coordinate (Bytes.toNat bs) = bs := by
      rw [coordinate, ← hbs, Bytes.ofNat_toNat]
    rw [hread _ (by rw [List.length_take]; omega), hread _ (by rw [List.length_drop]; omega),
      List.take_append_drop]
  · rintro ⟨hoctets, hcontains⟩
    rw [List.cons_append, hoctets, ← List.cons_append]
    exact ofOctets?_coordinates hcontains

theorem exists_encodes_iff {x y : Bytes} :
    (∃ Q, c.Encodes x y Q) ↔ ∃ p, c.ofOctets? (0x04 :: x ++ y) = some p := by
  constructor
  · rintro ⟨-, hx, hy, h, hoctets⟩
    exact ⟨_, ofOctets?_uncompressed.2 ⟨hoctets, contains_iff_equation.2 ⟨hx, hy, h.1⟩⟩⟩
  · rintro ⟨⟨px, py⟩, h⟩
    obtain ⟨hoctets, hcontains⟩ := ofOctets?_uncompressed.1 h
    obtain ⟨hx, hy, hequation⟩ := contains_iff_equation.1 hcontains
    exact ⟨_, hx, hy, WeierstrassCurve.Affine.equation_iff_nonsingular.1 hequation, hoctets⟩

end Curve

/-! ### Keys -/

namespace PublicKey

variable {key : PublicKey} {algorithm : CoseAlgorithm}

/-- The octets of the key are those of a point, or spell an RSA key within the limits. -/
def Genuine : PublicKey → Prop
  | .ec2 curve x y => ∃ Q, curve.Encodes x y Q
  | .rsa n e => (Rsa.Key.mk (Bytes.toNat n) (Bytes.toNat e)).Sound
  | .ed25519 x => Edwards.Encodes x

theorem usable_iff_genuine : key.Usable ↔ key.Genuine := by
  cases key with
  | ec2 curve x y => exact Curve.exists_encodes_iff.symm
  | rsa n e => exact Rsa.Key.defect?_eq_none_iff _
  | ed25519 x => exact Option.isSome_iff_exists.symm.trans (Edwards.decode?_isSome_iff x)

/-! ### Checks that cannot be made -/

theorem point_of_not_usable {curve : Curve} {x y : Bytes} (h : ¬ (ec2 curve x y).Usable) :
    point curve x y = .error .invalidKey := by
  have hnone : curve.ofOctets? (0x04 :: x ++ y) = none :=
    Option.eq_none_iff_forall_ne_some.2 fun p hp => h ⟨p, hp⟩
  rw [point, hnone]

theorem verifyEcdsa_of_not_usable {curve : Curve} {x y : Bytes} (h : ¬ (ec2 curve x y).Usable)
    (message signature : Bytes) :
    verifyEcdsa curve x y message signature = .error .invalidKey := by
  rw [verifyEcdsa, point_of_not_usable h]
  rfl

theorem verifyEcdsaDigest_of_not_usable {curve : Curve} {x y : Bytes}
    (h : ¬ (ec2 curve x y).Usable) (digest signature : Bytes) :
    verifyEcdsaDigest curve x y digest signature = .error .invalidKey := by
  rw [verifyEcdsaDigest, point_of_not_usable h]
  rfl

theorem rsaKey_of_not_usable {n e : Bytes} (h : ¬ (rsa n e).Usable) :
    rsaKey n e = .error .invalidKey := by
  have hdefect : (Rsa.Key.mk (Bytes.toNat n) (Bytes.toNat e)).defect?.isSome = true :=
    Option.isSome_iff_ne_none.2 h
  rw [rsaKey, if_pos hdefect]

/-- A key that is no key fails each check with an algorithm that fits its kind. -/
theorem verify_of_not_usable (hfits : algorithm.Fits key) (hkey : ¬ key.Usable)
    (message signature : Bytes) : key.verify algorithm message signature = .error .invalidKey := by
  cases hfits with
  | es256 x y => exact verifyEcdsa_of_not_usable hkey _ _
  | es384 x y => exact verifyEcdsa_of_not_usable hkey _ _
  | es512 x y => exact verifyEcdsa_of_not_usable hkey _ _
  | edDsa x =>
    have hnone : Edwards.decode? x = none :=
      Option.eq_none_iff_forall_ne_some.2 fun p hp => hkey ⟨p, hp⟩
    rw [verify, hnone]
  | rs256 n e =>
    rw [verify, verifyRsa, rsaKey_of_not_usable hkey]
    rfl
  | rs384 n e =>
    rw [verify, verifyRsa, rsaKey_of_not_usable hkey]
    rfl
  | rs512 n e =>
    rw [verify, verifyRsa, rsaKey_of_not_usable hkey]
    rfl
  | ps256 n e =>
    rw [verify, rsaKey_of_not_usable hkey]
    rfl

/-- Why an algorithm and a key check no signature. -/
inductive CannotCheck (algorithm : CoseAlgorithm) (key : PublicKey) : SignatureError → Prop
  | unsupported (h : algorithm.isSupported = false) :
      CannotCheck algorithm key (.unsupportedAlgorithm algorithm)
  | mismatch (hsupported : algorithm.isSupported = true) (hfits : ¬ algorithm.Fits key) :
      CannotCheck algorithm key (.algorithmKeyMismatch algorithm key.keyType)
  | invalid (hfits : algorithm.Fits key) (hkey : ¬ key.Genuine) :
      CannotCheck algorithm key .invalidKey

theorem verify_eq_error_iff {message signature : Bytes} {e : SignatureError} :
    key.verify algorithm message signature = .error e ↔ CannotCheck algorithm key e := by
  have hcannot (h : CannotCheck algorithm key e) :
      key.verify algorithm message signature = .error e := by
    cases h with
    | unsupported h =>
      cases algorithm with
      | unsupported id => rw [verify]
      | _ => cases h
    | mismatch hsupported hfits => exact verify_of_not_fits hsupported hfits message signature
    | invalid hfits hkey =>
      exact verify_of_not_usable hfits (mt usable_iff_genuine.1 hkey) message signature
  refine ⟨fun h => ?_, hcannot⟩
  by_cases hsupported : algorithm.isSupported = true
  · by_cases hfits : algorithm.Fits key
    · by_cases hkey : key.Usable
      · obtain ⟨good, hgood⟩ := verify_of_fits hfits hkey message signature
        rw [hgood] at h
        cases h
      · rw [verify_of_not_usable hfits hkey] at h
        cases h
        exact .invalid hfits (mt usable_iff_genuine.2 hkey)
    · rw [verify_of_not_fits hsupported hfits] at h
      cases h
      exact .mismatch hsupported hfits
  · cases algorithm with
    | unsupported id =>
      rw [verify] at h
      cases h
      exact .unsupported rfl
    | _ => exact absurd rfl hsupported

/-- Whether a check can be made, and the error if not, are decided by the algorithm and the key,
for every message and every signature. -/
theorem check_decided_by_key (key : PublicKey) (algorithm : CoseAlgorithm)
    (message signature message' signature' : Bytes) :
    (∀ e, key.verify algorithm message signature = .error e ↔ CannotCheck algorithm key e) ∧
    ((∃ good, key.verify algorithm message signature = .ok good)
      ↔ algorithm.Fits key ∧ key.Genuine) ∧
    ∀ e, key.verify algorithm message signature = .error e
      ↔ key.verify algorithm message' signature' = .error e := by
  refine ⟨fun e => verify_eq_error_iff, ⟨?_, ?_⟩, fun e => ?_⟩
  · rintro ⟨good, hgood⟩
    have hno (e : SignatureError) : ¬ CannotCheck algorithm key e := by
      intro h
      rw [verify_eq_error_iff.2 h] at hgood
      cases hgood
    have hsupported : algorithm.isSupported = true := by
      by_contra h
      exact hno _ (.unsupported (Bool.eq_false_iff.2 h))
    have hfits : algorithm.Fits key := by
      by_contra h
      exact hno _ (.mismatch hsupported h)
    refine ⟨hfits, ?_⟩
    by_contra h
    exact hno _ (.invalid hfits h)
  · rintro ⟨hfits, hkey⟩
    exact verify_of_fits hfits (usable_iff_genuine.2 hkey) message signature
  · rw [verify_eq_error_iff, verify_eq_error_iff]

end PublicKey

end Passkey
