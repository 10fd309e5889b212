import Mathlib.Data.Int.ModEq
import Mathlib.Tactic.Ring
import Passkey.Cose.Verify
import Passkey.Proofs.Fallible
import Passkey.Theory.Radix

/-!
# Which signatures can be checked

A key is usable if its octets are those of a key: of a point of the curve, of an RSA key without
defect, or of an encoded point. Every key that was decoded went through one of the checked
constructors, and those give usable keys. Whether a signature can be checked then only depends on
whether the algorithm fits the key, and if it does not, the check fails in the same way for every
message and signature.
-/

namespace Passkey

/-! ### Points -/

namespace Curve

variable {c : Curve} {x y : Nat}

theorem prime_pos (c : Curve) : 0 < c.prime := by
  cases c <;> decide

theorem prime_le (c : Curve) : c.prime ≤ 256 ^ c.coordinateSize := by
  cases c <;> decide

theorem contains_iff :
    c.contains x y = true ↔ x < c.prime ∧ y < c.prime ∧ y * y % c.prime = c.rhs x := by
  simp [contains, and_assoc]

/-- A root and its negative have the same square. -/
theorem roots?_eq_some {a r s : Nat} (h : c.roots? a = some (r, s)) :
    (r < c.prime ∧ r * r % c.prime = a % c.prime) ∧
      s < c.prime ∧ s * s % c.prime = a % c.prime := by
  simp only [roots?] at h
  split at h
  · rename_i hroot
    cases h
    have hr : Modular.pow c.prime a ((c.prime + 1) / 4) < c.prime := by
      rw [Modular.pow_eq]
      exact Nat.mod_lt _ c.prime_pos
    generalize Modular.pow c.prime a ((c.prime + 1) / 4) = r at hroot hr ⊢
    have hneg : (c.prime - r) * (c.prime - r) ≡ r * r [MOD c.prime] := by
      refine (Nat.modEq_iff_dvd.2 ⟨(c.prime : ℤ) - 2 * r, ?_⟩).symm
      push_cast [Nat.cast_sub hr.le]
      ring
    refine ⟨⟨hr, hroot⟩, Nat.mod_lt _ c.prime_pos, ?_⟩
    rw [← Nat.mul_mod, hneg, hroot]
  · cases h

theorem contains_of_ofOctets? {octets : Bytes} (h : c.ofOctets? octets = some (x, y)) :
    c.contains x y = true := by
  cases octets with
  | nil => cases h
  | cons form body =>
    have hroot {r : Nat} {a : Nat} (hx : a < c.prime)
        (hr : r < c.prime ∧ r * r % c.prime = c.rhs a % c.prime) : c.contains a r = true :=
      contains_iff.2 ⟨hx, hr.1, hr.2.trans (Nat.mod_mod ..)⟩
    simp only [ofOctets?] at h
    by_cases hform : form = 4
    · simp only [hform, if_true, Option.ite_none_right_eq_some] at h
      obtain ⟨⟨-, hc⟩, heq⟩ := h
      cases heq
      exact hc
    · simp only [hform, if_false, Option.ite_none_right_eq_some, Option.bind_eq_bind,
        Option.bind_eq_some_iff] at h
      obtain ⟨⟨-, -, hx⟩, ⟨r, s⟩, hroots, h⟩ := h
      obtain ⟨hr, hs⟩ := roots?_eq_some hroots
      have hchosen : Bytes.toNat body = x ∧ (y = r ∨ y = s) := by
        split at h
        · cases h
          exact ⟨rfl, min_choice r s⟩
        · split at h
          · cases h
            exact ⟨rfl, Or.inl rfl⟩
          · cases h
            exact ⟨rfl, Or.inr rfl⟩
      obtain ⟨rfl, rfl | rfl⟩ := hchosen
      · exact hroot hx hr
      · exact hroot hx hs

theorem ofOctets?_coordinates (h : c.contains x y = true) :
    c.ofOctets? (0x04 :: c.coordinate x ++ c.coordinate y) = some (x, y) := by
  obtain ⟨hx, hy, -⟩ := contains_iff.1 h
  have hlen (n : Nat) : (c.coordinate n).length = c.coordinateSize := Bytes.length_ofNat ..
  have hread {n : Nat} (hn : n < c.prime) : Bytes.toNat (c.coordinate n) = n :=
    Bytes.toNat_ofNat (Nat.lt_of_lt_of_le hn c.prime_le)
  have hboth : (c.coordinate x ++ c.coordinate y).length = 2 * c.coordinateSize := by
    rw [List.length_append, hlen, hlen, Nat.two_mul]
  simp only [ofOctets?, List.cons_append, if_true, List.take_left' (hlen x),
    List.drop_left' (hlen x), hread hx, hread hy, hboth, h, and_self]

end Curve

/-! ### Numbers of an RSA key -/

namespace Rsa.Key

/-- The numbers of an RSA key are within the limits: at most 4096 bits of an odd modulus, and an odd
exponent below it of at least two and at most 33 bits. -/
structure Sound (key : Key) : Prop where
  modulus_lt : key.n < 2 ^ 4096
  modulus_odd : key.n % 2 = 1
  exponent_odd : key.e % 2 = 1
  exponent_ge : 2 ≤ key.e
  exponent_lt : key.e < 2 ^ 33
  exponent_lt_modulus : key.e < key.n

theorem bits_le_iff (key : Key) (count : ℕ) : key.bits ≤ count ↔ key.n < 2 ^ count := by
  unfold bits
  by_cases hzero : key.n = 0
  · simp [hzero]
  · rw [if_neg hzero, Nat.succ_le_iff, Nat.log2_lt hzero]

theorem defect?_eq_none_iff (key : Key) : key.defect? = none ↔ key.Sound := by
  have hbits := key.bits_le_iff 4096
  have hlimit : maxBits = 4096 := rfl
  have hwords : maxWord = 2 ^ 64 - 1 ∧ maxExponent = 2 ^ 33 - 1 := by decide
  simp only [defect?, ite_eq_iff, reduceCtorEq, and_false, false_or, and_true]
  constructor
  · rintro ⟨hmodulus, -, heven, hexponent, htwo, hmax⟩
    have hle : key.bits ≤ 4096 := by omega
    exact ⟨hbits.1 hle, by omega, by omega, by omega, by omega, by omega⟩
  · rintro ⟨hmodulus, hodd, hexponent, htwo, hmax, hlt⟩
    have hle : key.bits ≤ 4096 := hbits.2 hmodulus
    clear hbits hmodulus
    omega

end Rsa.Key

/-! ### Keys -/

namespace PublicKey

variable {key : PublicKey}

/-- The octets of a key are those of a key. -/
def Usable : PublicKey → Prop
  | .ec2 curve x y => ∃ p, curve.ofOctets? (0x04 :: x ++ y) = some p
  | .rsa n e => (Rsa.Key.mk (Bytes.toNat n) (Bytes.toNat e)).defect? = none
  | .ed25519 x => ∃ p, Edwards.decode? x = some p

theorem usable_of_ofOctets {curve : Curve} {octets : Bytes} (h : ofOctets curve octets = .ok key) :
    key.Usable := by
  unfold ofOctets at h
  split at h
  · rename_i x y hpoint
    cases h
    exact ⟨_, Curve.ofOctets?_coordinates (Curve.contains_of_ofOctets? hpoint)⟩
  · cases h

theorem usable_of_ofRsa {n e : Bytes} (h : ofRsa n e = .ok key) : key.Usable := by
  simp only [ofRsa, refuse_eq_ok] at h
  obtain ⟨-, h⟩ := h
  split at h
  · cases h
  · rename_i hdefect
    cases h
    exact hdefect

theorem usable_of_ofEd25519 {octets : Bytes} (h : ofEd25519 octets = .ok key) : key.Usable := by
  simp only [ofEd25519, refuse_eq_ok, Option.isNone_iff_eq_none, Except.ok.injEq] at h
  obtain ⟨-, hpoint, rfl⟩ := h
  exact Option.ne_none_iff_exists'.1 hpoint

/-- A checked constructor gave the key. -/
inductive Built (key : PublicKey) : Prop where
  | ofOctets {curve : Curve} {octets : Bytes} (h : ofOctets curve octets = .ok key)
  | ofRsa {n e : Bytes} (h : ofRsa n e = .ok key)
  | ofEd25519 {octets : Bytes} (h : ofEd25519 octets = .ok key)

theorem Built.usable (h : key.Built) : key.Usable := by
  cases h with
  | ofOctets h => exact usable_of_ofOctets h
  | ofRsa h => exact usable_of_ofRsa h
  | ofEd25519 h => exact usable_of_ofEd25519 h

end PublicKey

namespace CoseKey

variable {k : CoseKey}

theorem refuse_eq_ok_iff {α : Type} {result : Except KeyDefect α} {a : α} :
    refuse result = .ok a ↔ result = .ok a :=
  mapError_eq_ok

theorem built_of_ofEc2 {entries : Cbor.Entries} {key : PublicKey} (h : ofEc2 entries = .ok key) :
    key.Built := by
  unfold ofEc2 at h
  obtain ⟨id, -, h⟩ := bind_eq_ok.1 h
  split at h
  · cases h
  · simp only [bind_eq_ok, Passkey.refuse_eq_ok, refuse_eq_ok_iff] at h
    obtain ⟨x, -, y, -, -, h⟩ := h
    exact .ofOctets h

theorem built_of_ofRsa {entries : Cbor.Entries} {key : PublicKey} (h : ofRsa entries = .ok key) :
    key.Built := by
  simp only [ofRsa, bind_eq_ok, refuse_eq_ok_iff] at h
  obtain ⟨n, -, e, -, h⟩ := h
  exact .ofRsa h

theorem built_of_ofOkp {entries : Cbor.Entries} {key : PublicKey} (h : ofOkp entries = .ok key) :
    key.Built := by
  simp only [ofOkp, bind_eq_ok, require_eq_ok, refuse_eq_ok_iff] at h
  obtain ⟨id, -, -, x, -, h⟩ := h
  exact .ofEd25519 h

/-- The key went through a checked constructor, and its algorithm is known by an identifier. -/
structure Built (k : CoseKey) : Prop where
  key : k.key.Built
  algorithm : ∃ id, CoseAlgorithm.inRange id = true ∧ k.algorithm = .ofId id

theorem built_of_ofValue {value : Cbor.Value} (h : ofValue value = .ok k) : k.Built := by
  unfold ofValue at h
  split at h
  · simp only [bind_eq_ok] at h
    obtain ⟨kty, -, alg, -, h⟩ := h
    split at h
    · cases h
    · rename_i algorithm halgorithm
      simp only [CoseAlgorithm.ofId?, Option.ite_none_right_eq_some, Option.some.injEq]
        at halgorithm
      obtain ⟨hrange, rfl⟩ := halgorithm
      have labelled {read : Except KeyError PublicKey}
          (hread : ∀ key, read = .ok key → key.Built)
          (h : (do let key ← read; return CoseKey.mk (.ofId alg) key) = .ok k) : k.Built := by
        obtain ⟨key, hkey, hk⟩ := bind_eq_ok.1 h
        cases hk
        exact ⟨hread key hkey, alg, hrange, rfl⟩
      split at h
      · exact labelled (fun _ => built_of_ofEc2) h
      · split at h
        · exact labelled (fun _ => built_of_ofRsa) h
        · split at h
          · exact labelled (fun _ => built_of_ofOkp) h
          · cases h
  · cases h

theorem built_of_decode {bs : Bytes} (h : decode bs = .ok k) : k.Built := by
  unfold decode at h
  split at h
  · cases h
  · exact built_of_ofValue h

theorem usable_of_decode {bs : Bytes} (h : decode bs = .ok k) : k.key.Usable :=
  (built_of_decode h).key.usable

end CoseKey

/-! ### Checking a signature -/

/-- An algorithm fits a key: each ECDSA algorithm its curve, and each other one its kind of key. -/
inductive CoseAlgorithm.Fits : CoseAlgorithm → PublicKey → Prop where
  | es256 (x y : Bytes) : Fits .es256 (.ec2 .p256 x y)
  | es384 (x y : Bytes) : Fits .es384 (.ec2 .p384 x y)
  | es512 (x y : Bytes) : Fits .es512 (.ec2 .p521 x y)
  | edDsa (x : Bytes) : Fits .edDsa (.ed25519 x)
  | rs256 (n e : Bytes) : Fits .rs256 (.rsa n e)
  | rs384 (n e : Bytes) : Fits .rs384 (.rsa n e)
  | rs512 (n e : Bytes) : Fits .rs512 (.rsa n e)
  | ps256 (n e : Bytes) : Fits .ps256 (.rsa n e)

namespace PublicKey

variable {key : PublicKey} {algorithm : CoseAlgorithm}

theorem point_of_usable {curve : Curve} {x y : Bytes} (h : (ec2 curve x y).Usable) :
    ∃ p, point curve x y = .ok p := by
  obtain ⟨p, hp⟩ := h
  exact ⟨p, by rw [point, hp]⟩

theorem verifyEcdsa_of_usable {curve : Curve} {x y : Bytes} (h : (ec2 curve x y).Usable)
    (message signature : Bytes) : ∃ good, verifyEcdsa curve x y message signature = .ok good := by
  obtain ⟨p, hp⟩ := point_of_usable h
  rw [verifyEcdsa, hp]
  exact ⟨_, rfl⟩

theorem verifyEcdsaDigest_of_usable {curve : Curve} {x y : Bytes} (h : (ec2 curve x y).Usable)
    (digest signature : Bytes) :
    ∃ good, verifyEcdsaDigest curve x y digest signature = .ok good := by
  obtain ⟨p, hp⟩ := point_of_usable h
  rw [verifyEcdsaDigest, hp]
  exact ⟨_, rfl⟩

theorem rsaKey_of_usable {n e : Bytes} (h : (rsa n e).Usable) :
    rsaKey n e = .ok ⟨Bytes.toNat n, Bytes.toNat e⟩ := by
  have hsound : (Rsa.Key.mk (Bytes.toNat n) (Bytes.toNat e)).defect? = none := h
  simp [rsaKey, hsound]

theorem verifyRsa_of_usable {n e : Bytes} (h : (rsa n e).Usable) (hash : Hash)
    (message signature : Bytes) : ∃ good, verifyRsa hash n e message signature = .ok good := by
  rw [verifyRsa, rsaKey_of_usable h]
  exact ⟨_, rfl⟩

/-- A usable key and an algorithm that fits it check every signature. -/
theorem verify_of_fits (hfits : algorithm.Fits key) (hkey : key.Usable)
    (message signature : Bytes) : ∃ good, key.verify algorithm message signature = .ok good := by
  cases hfits with
  | es256 x y => exact verifyEcdsa_of_usable hkey _ _
  | es384 x y => exact verifyEcdsa_of_usable hkey _ _
  | es512 x y => exact verifyEcdsa_of_usable hkey _ _
  | edDsa x =>
    obtain ⟨p, hp⟩ := hkey
    exact ⟨Ed25519.verify x p message signature, by rw [verify, hp]⟩
  | rs256 n e => exact verifyRsa_of_usable hkey _ _ _
  | rs384 n e => exact verifyRsa_of_usable hkey _ _ _
  | rs512 n e => exact verifyRsa_of_usable hkey _ _ _
  | ps256 n e =>
    rw [verify, rsaKey_of_usable hkey]
    exact ⟨_, rfl⟩

/-- A supported algorithm that does not fit the key checks no signature, and says so. -/
theorem verify_of_not_fits (hsupported : algorithm.isSupported = true)
    (hfits : ¬ algorithm.Fits key) (message signature : Bytes) :
    key.verify algorithm message signature
      = .error (.algorithmKeyMismatch algorithm key.keyType) := by
  rcases key with ⟨_ | _ | _, x, y⟩ | ⟨n, e⟩ | x
  all_goals
    cases algorithm <;> first
      | rfl
      | exact absurd (by constructor) hfits
      | cases hsupported

end PublicKey

end Passkey
