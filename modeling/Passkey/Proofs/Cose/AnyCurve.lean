import Passkey.Proofs.Attestation.TrustPath
import Passkey.Proofs.Cose.GenuineKeys
import Passkey.Proofs.Signature.Ecdsa

/-!
# ECDSA with any digest on any curve

In certificates an ECDSA algorithm names the digest only. The check for them accepts exactly the
valid signatures of a genuine key, for each digest and each curve except SHA-256 with P-521, whose
digest is shorter than half a coordinate and never accepted (`verifyAnyCurve_decided`). The check of
other signatures hashes the message itself and has no rule for lengths; for the algorithm of the
curve both have the same result on any octets (`verifyEcdsa_eq_verifyEcdsaDigest`).
-/

namespace Passkey

/-- The ECDSA algorithm that names a digest. -/
def Hash.ecdsa : Hash → CoseAlgorithm
  | .sha256 => .es256
  | .sha384 => .es384
  | .sha512 => .es512

/-- The ECDSA algorithm that goes with a curve. -/
def Curve.algorithm (c : Curve) : CoseAlgorithm := c.hash.ecdsa

namespace PublicKey

open Ecdsa (TooShort)

variable {curve : Curve} {x y : Bytes}

/-! ### Each digest on each curve -/

theorem verifyAnyCurve_ecdsa (hash : Hash) (message signature : Bytes) :
    (ec2 curve x y).verifyAnyCurve hash.ecdsa message signature
      = verifyEcdsaDigest curve x y (hash.digest message) signature := by
  cases hash <;> rfl

theorem verifyEcdsaDigest_of_encodes {Q : curve.weierstrass.Point} (hkey : curve.Encodes x y Q)
    (hash : Hash) (message signature : Bytes) : ∃ good,
      verifyEcdsaDigest curve x y (hash.digest message) signature = .ok good ∧
      (good = true ↔
        ¬ TooShort hash curve ∧ Ecdsa.Valid curve Q (hash.digest message) signature) := by
  obtain ⟨hx, hy, h, hoctets⟩ := hkey
  have hcontains := Curve.contains_iff_equation.2 ⟨hx, hy, h.1⟩
  have hpoint := Curve.ofOctets?_uncompressed.2 ⟨hoctets, hcontains⟩
  refine ⟨_, ?_, Ecdsa.verifyDigest_eq_true (.affine hx hy h) hash message signature⟩
  rw [verifyEcdsaDigest, point, hpoint]
  rfl

theorem verifyEcdsaDigest_eq_ok {hash : Hash} {message signature : Bytes} {good : Bool} :
    verifyEcdsaDigest curve x y (hash.digest message) signature = .ok good ↔
      ∃ Q, curve.Encodes x y Q ∧ (good = true ↔
        ¬ TooShort hash curve ∧ Ecdsa.Valid curve Q (hash.digest message) signature) := by
  constructor
  · intro h
    by_cases hkey : ∃ Q, curve.Encodes x y Q
    · obtain ⟨Q, hQ⟩ := hkey
      obtain ⟨good', hgood', hiff⟩ := verifyEcdsaDigest_of_encodes hQ hash message signature
      rw [h] at hgood'
      cases hgood'
      exact ⟨Q, hQ, hiff⟩
    · rw [verifyEcdsaDigest_of_not_usable (mt usable_iff_genuine.1 hkey)] at h
      cases h
  · rintro ⟨Q, hQ, hiff⟩
    obtain ⟨good', hgood', hiff'⟩ := verifyEcdsaDigest_of_encodes hQ hash message signature
    rw [hgood', Bool.eq_iff_iff.2 (hiff'.trans hiff.symm)]

/-- The check of a certificate's signature accepts the valid signatures over the digest that is
named, and a certificate is issued by the holder of such a key accordingly. -/
theorem verifyAnyCurve_decided (curve : Curve) (x y : Bytes) (hash : Hash) :
    (∀ message signature,
      ((ec2 curve x y).verifyAnyCurve hash.ecdsa message signature = .ok true ↔
        ∃ Q, curve.Encodes x y Q ∧ ¬ TooShort hash curve ∧
          Ecdsa.Valid curve Q (hash.digest message) signature) ∧
      ((ec2 curve x y).verifyAnyCurve hash.ecdsa message signature = .ok false ↔
        ∃ Q, curve.Encodes x y Q ∧ (TooShort hash curve ∨
          ¬ Ecdsa.Valid curve Q (hash.digest message) signature))) ∧
    ∀ c issuer : X509.Certificate,
      X509.signatureAlgorithm? c.signatureAlgorithm.algorithm = some hash.ecdsa →
      issuer.publicKey = .ok (ec2 curve x y) →
      (c.isIssuedBy issuer = true ↔
        c.content.issuer = issuer.content.subject ∧ c.signature.unused = 0 ∧
        ∃ Q, curve.Encodes x y Q ∧ ¬ TooShort hash curve ∧
          Ecdsa.Valid curve Q (hash.digest c.signedOctets) c.signature.octets) := by
  have haccepts (message signature : Bytes) :
      (ec2 curve x y).verifyAnyCurve hash.ecdsa message signature = .ok true ↔
        ∃ Q, curve.Encodes x y Q ∧ ¬ TooShort hash curve ∧
          Ecdsa.Valid curve Q (hash.digest message) signature := by
    simp only [verifyAnyCurve_ecdsa, verifyEcdsaDigest_eq_ok, true_iff]
  refine ⟨fun message signature => ⟨haccepts message signature, ?_⟩, ?_⟩
  · simp only [verifyAnyCurve_ecdsa, verifyEcdsaDigest_eq_ok, Bool.false_eq_true, false_iff,
      not_and_or, not_not]
  · intro c issuer halgorithm hissuer
    have hsigned : X509.verifySigned (ec2 curve x y) hash.ecdsa c.signedOctets c.signature.octets
        = (ec2 curve x y).verifyAnyCurve hash.ecdsa c.signedOctets c.signature.octets := by
      cases hash <;> rfl
    rw [X509.Certificate.isIssuedBy_iff, ← haccepts, ← hsigned]
    constructor
    · rintro ⟨hnamed, algorithm, key, halgorithm', hkey, hunused, hverified⟩
      rw [halgorithm] at halgorithm'
      rw [hissuer] at hkey
      cases halgorithm'
      cases hkey
      exact ⟨hnamed, hunused, hverified⟩
    · rintro ⟨hnamed, hunused, hverified⟩
      exact ⟨hnamed, _, _, halgorithm, hissuer, hunused, hverified⟩

/-- A key on P-521. -/
def refusedKey : ℕ × ℕ :=
  (0x143747326ec4f23427a34889131f43626e31007d464126fbd017439c62eda2a677fcc6c2d79492751a6c7aded8d4859ffc62cd70bbd567c921ab5286c6851364bf6,
    0x12bbca1390cc0b2b52edb4efacbdac3c36069cb781e45313a22f935f8030fb60505637ab55ccf28b350a1d219644cd2eae4f100238bd7cbbed495cfd30ecf17f418)

/-- A signature over one zero octet by that key. Both numbers are the digest, which is the
coordinate of the sum of the generator and the key. -/
def refusedSignature : Ecdsa.Signature where
  r := 0x6e340b9cffb37a989ca544e6bb780a2c78901d3fb33738768511a30617afa01d
  s := 0x6e340b9cffb37a989ca544e6bb780a2c78901d3fb33738768511a30617afa01d

theorem valid_signature_refused :
    let x := Curve.p521.coordinate refusedKey.1
    let y := Curve.p521.coordinate refusedKey.2
    let signature := refusedSignature.write .p521
    (∃ Q, Curve.p521.Encodes x y Q ∧
        Ecdsa.Valid .p521 Q (Hash.sha256.digest [0x00]) signature) ∧
      (ec2 .p521 x y).verifyAnyCurve .es256 [0x00] signature = .ok false := by
  intro x y signature
  have hcontains : Curve.p521.contains refusedKey.1 refusedKey.2 = true := by decide +kernel
  have hequation : Ecdsa.equation .p521 (.affine refusedKey.1 refusedKey.2)
      (Ecdsa.leftmostBits Curve.p521.order.size (Hash.sha256.digest [0x00])) refusedSignature
        = true := by decide +kernel
  have hrange : refusedSignature.inRange .p521 = true := by decide
  obtain ⟨hx, hy, hcurve⟩ := Curve.contains_iff_equation.1 hcontains
  have h := WeierstrassCurve.Affine.equation_iff_nonsingular.1 hcurve
  have hkey : Curve.p521.Encodes x y (.some _ _ h) := .mk hx hy h rfl
  refine ⟨⟨_, hkey, refusedSignature, hrange, rfl, ?_⟩, ?_⟩
  · exact (Ecdsa.equation_iff_holds (.affine hx hy h) hrange _).1 hequation
  · calc (ec2 .p521 x y).verifyAnyCurve .es256 [0x00] signature
        = verifyEcdsaDigest .p521 x y (Hash.sha256.digest [0x00]) signature :=
          verifyAnyCurve_ecdsa .sha256 [0x00] signature
      _ = .ok false := verifyEcdsaDigest_eq_ok.2 ⟨_, hkey, by simp [TooShort]⟩

/-! ### The digest that goes with the curve -/

theorem not_tooShort_hash (curve : Curve) : ¬ TooShort curve.hash curve := by
  rintro ⟨hhash, rfl⟩
  cases hhash

theorem verify_algorithm (curve : Curve) (x y message signature : Bytes) :
    (ec2 curve x y).verify curve.algorithm message signature
      = verifyEcdsa curve x y message signature := by
  cases curve <;> rfl

/-- Whether the curve's check hashes the message or is given the digest makes no difference, for the
octets of a point as for any others. -/
theorem verifyEcdsa_eq_verifyEcdsaDigest (curve : Curve) (x y message signature : Bytes) :
    verifyEcdsa curve x y message signature
      = verifyEcdsaDigest curve x y (curve.hash.digest message) signature := by
  simp only [verifyEcdsa, verifyEcdsaDigest, Ecdsa.verifyMessage_eq_verifyDigest]

/-- The algorithm of a curve accepts the valid signatures over its digest. -/
theorem verify_algorithm_eq_ok {message signature : Bytes} {good : Bool} :
    (ec2 curve x y).verify curve.algorithm message signature = .ok good ↔
      ∃ Q, curve.Encodes x y Q ∧
        (good = true ↔ Ecdsa.Valid curve Q (curve.hash.digest message) signature) := by
  simp only [verify_algorithm, verifyEcdsa_eq_verifyEcdsaDigest, verifyEcdsaDigest_eq_ok,
    not_tooShort_hash, not_false_eq_true, true_and]

/-- The two checks agree exactly for the algorithm of the key's curve, apart from those that
neither supports. -/
theorem verifyAnyCurve_eq_verify_iff (curve : Curve) (x y : Bytes) (algorithm : CoseAlgorithm)
    (message signature : Bytes) :
    (ec2 curve x y).verifyAnyCurve algorithm message signature
        = (ec2 curve x y).verify algorithm message signature
      ↔ algorithm = curve.algorithm ∨ algorithm.isSupported = false := by
  constructor
  · intro h
    by_contra hother
    obtain ⟨hcurve, hsupported⟩ := not_or.1 hother
    have hfits : ¬ algorithm.Fits (ec2 curve x y) := by
      rintro (_ | _)
      all_goals exact hcurve rfl
    have hecdsa (hash : Hash) : verifyEcdsaDigest curve x y (hash.digest message) signature
        ≠ .error (.algorithmKeyMismatch algorithm (ec2 curve x y).keyType) := by
      by_cases hkey : (ec2 curve x y).Usable
      · obtain ⟨good, hgood⟩ := verifyEcdsaDigest_of_usable hkey (hash.digest message) signature
        simp [hgood]
      · simp [verifyEcdsaDigest_of_not_usable hkey]
    rw [verify_of_not_fits (Bool.not_eq_false _ ▸ hsupported) hfits] at h
    cases algorithm with
    | es256 => exact hecdsa .sha256 h
    | es384 => exact hecdsa .sha384 h
    | es512 => exact hecdsa .sha512 h
    | _ => cases h
  · rintro (rfl | hunsupported)
    · calc (ec2 curve x y).verifyAnyCurve curve.algorithm message signature
          = verifyEcdsaDigest curve x y (curve.hash.digest message) signature :=
            verifyAnyCurve_ecdsa curve.hash message signature
        _ = verifyEcdsa curve x y message signature :=
            (verifyEcdsa_eq_verifyEcdsaDigest curve x y message signature).symm
        _ = (ec2 curve x y).verify curve.algorithm message signature :=
            (verify_algorithm curve x y message signature).symm
    · cases algorithm with
      | unsupported id => rfl
      | _ => cases hunsupported

end PublicKey

end Passkey
