import Passkey.Proofs.Attestation.Checks
import Passkey.Proofs.Attestation.ReceivedKeys
import Passkey.Proofs.Attestation.Refusals
import Passkey.Proofs.X509.KeyInfo

/-!
# Comparing keys that came in different ways

Two formats compare the credential's key with one that came in a certificate or in a public area. The
comparison is of values. Since a key has one value in whatever form it came, the comparison fails
exactly if the two are not the same point, the same numbers or the same encoding (`PublicKey.Same`),
and a mismatch is reported exactly then, once what is checked before has passed.
-/

namespace Passkey

open X509 (Certificate)
open AttestationError (Inherent)

/-! ### The same key -/

namespace PublicKey

variable {key key' : PublicKey}

/-- Two keys are the same point of one curve, the same two numbers, or the same encoding of a point
of the Edwards curve. Such an encoding is itself the key, since signatures are made over it. -/
inductive Same : PublicKey → PublicKey → Prop
  | point {curve : Curve} {x y x' y' : Bytes} {Q : curve.weierstrass.Point}
    (h : curve.SpellsPoint (0x04 :: x ++ y) Q) (h' : curve.SpellsPoint (0x04 :: x' ++ y') Q) :
    Same (.ec2 curve x y) (.ec2 curve x' y')
  | numbers {n e n' e' : Bytes} (hn : Bytes.toNat n = Bytes.toNat n')
    (he : Bytes.toNat e = Bytes.toNat e') : Same (.rsa n e) (.rsa n' e')
  | encoding (x : Bytes) : Same (.ed25519 x) (.ed25519 x)

/-- Keys that were received are equal exactly if they are the same. -/
theorem Received.eq_iff_same (h : key.Received) (h' : key'.Received) : key = key' ↔ key.Same key' := by
  have hcanonical := h.built.canonical
  have hcanonical' := h'.built.canonical
  constructor
  · rintro rfl
    cases key with
    | ec2 curve x y =>
      obtain ⟨Q, hQ, hQ'⟩ := (ofOctets_inj hcanonical.2.2 hcanonical.2.2).1 rfl
      exact .point hQ hQ'
    | rsa n e => exact .numbers rfl rfl
    | ed25519 x => exact .encoding x
  · intro hsame
    cases hsame with
    | point hQ hQ' => exact (ofOctets_inj hcanonical.2.2 hcanonical'.2.2).2 ⟨_, hQ, hQ'⟩
    | numbers hn he => exact (ofRsa_inj hcanonical hcanonical').2 ⟨hn, he⟩
    | encoding x => rfl

end PublicKey

/-! ### Which statements report a mismatch -/

namespace Attestation

variable {s : AttestationStatement} {context : AttestationContext}

theorem ne_mismatch {α : Type} {x : Except AttestationError α} (h : ErrsWith Inherent x) :
    x ≠ .error .keyMismatch :=
  fun hx => (h _ hx).ne_keyMismatch rfl

/-- What passes before an Android key statement's key is compared with the credential's. -/
structure AndroidKeyCompares (s : AttestationStatement) (context : AttestationContext)
    (path : List Certificate) (algorithm : CoseAlgorithm) (signature : Bytes) (leaf : Certificate)
    (credential : AttestedCredential) (key : PublicKey) : Prop where
  algorithm_named : s.Names algorithm
  signature_member : s.get? "sig" = some (.bytes signature)
  brought : s.Brings path
  first : path.head? = some leaf
  signed : leaf.Verifies algorithm context.message signature
  attested : context.data.attested = some credential
  key_read : leaf.publicKey = .ok key

theorem android_key_mismatch_iff : verifyAndroidKey s context = .error .keyMismatch ↔
    ∃ path algorithm signature leaf credential key,
      AndroidKeyCompares s context path algorithm signature leaf credential key ∧
        key ≠ credential.publicKey.key := by
  -- Nothing but the comparison reports a mismatch.
  have halgorithm := ne_mismatch s.errsWith_algorithm
  have hsignature := ne_mismatch s.errsWith_signature
  have hcertificates := ne_mismatch s.errsWith_certificates
  have hleaf (path : List Certificate) := ne_mismatch (errsWith_leafOf path)
  have hsigned (leaf : Certificate) (algorithm : CoseAlgorithm) (signature : Bytes) :=
    ne_mismatch (leaf.errsWith_requireSigned algorithm context.message signature)
  have hcredential := ne_mismatch context.errsWith_credential
  have hchallenge (leaf : Certificate) :=
    ne_mismatch (errsWith_requireChallenge leaf context.clientDataHash)
  simp only [verifyAndroidKey, throw_eq_error, error_bind, bind_eq_error, refuse_eq_error,
    halgorithm, hsignature, hcertificates, hleaf, hsigned, hcredential, hchallenge, mapError_eq_error,
    exists_unit, pure, Except.pure, reduceCtorEq, and_false, exists_false, false_or, or_false,
    and_true, AttestationStatement.algorithm_eq_ok, AttestationStatement.signature_eq_ok,
    AttestationStatement.certificates_eq_ok, leafOf_eq_ok, Certificate.requireSigned_eq_ok,
    AttestationContext.credential_eq_ok, Certificate.attestationKey, mapError_eq_ok]
  constructor
  · rintro ⟨algorithm, halgorithm, signature, hsignature, path, hpath, leaf, hfirst, hsigned,
      credential, hattested, key, hkey, hne⟩
    exact ⟨path, algorithm, signature, leaf, credential, key,
      ⟨halgorithm, hsignature, hpath, hfirst, hsigned, hattested, hkey⟩, hne⟩
  · rintro ⟨path, algorithm, signature, leaf, credential, key, h, hne⟩
    exact ⟨algorithm, h.algorithm_named, signature, h.signature_member, path, h.brought, leaf,
      h.first, h.signed, credential, h.attested, key, h.key_read, hne⟩

/-- What passes before the key in a TPM statement's public area is compared with the credential's. -/
structure TpmCompares (s : AttestationStatement) (context : AttestationContext)
    (path : List Certificate) (algorithm : CoseAlgorithm) (signature certInfo pubArea : Bytes)
    (credential : AttestedCredential) (area : PublicArea) : Prop where
  version : s.get? "ver" = some (.text "2.0")
  algorithm_named : s.Names algorithm
  signature_member : s.get? "sig" = some (.bytes signature)
  brought : s.Brings path
  certInfo_member : s.get? "certInfo" = some (.bytes certInfo)
  pubArea_member : s.get? "pubArea" = some (.bytes pubArea)
  area_read : PublicArea.decode pubArea = .ok area
  attested : context.data.attested = some credential

theorem tpm_mismatch_iff : verifyTpm s context = .error .keyMismatch ↔
    ∃ path algorithm signature certInfo pubArea credential area,
      TpmCompares s context path algorithm signature certInfo pubArea credential area ∧
        area.key ≠ credential.publicKey.key := by
  have halgorithm := ne_mismatch s.errsWith_algorithm
  have hsignature := ne_mismatch s.errsWith_signature
  have hcertificates := ne_mismatch s.errsWith_certificates
  have hmember (name : String) :=
    ne_mismatch (AttestationStatement.errsWith_require name (s.bytes? name))
  have hcredential := ne_mismatch context.errsWith_credential
  have hleaf (path : List Certificate) := ne_mismatch (errsWith_leafOf path)
  have hsigned (leaf : Certificate) (algorithm : CoseAlgorithm) (message signature : Bytes) :=
    ne_mismatch (leaf.errsWith_requireSigned algorithm message signature)
  have hfor (leaf : Certificate) := ne_mismatch (leaf.errsWith_requireLeaf context)
  have hpurpose (leaf : Certificate) := ne_mismatch (errsWith_requireAttestationKey leaf)
  simp only [verifyTpm, throw_eq_error, error_bind, bind_eq_error, refuse_eq_error, ne_eq, not_not,
    halgorithm, hsignature, hcertificates, hmember, hcredential, hleaf, hsigned, hfor, hpurpose,
    mapError_eq_error, reduceCtorEq, and_false, exists_false, false_or, or_false, pure, Except.pure,
    and_true, AttestationStatement.text?_eq_some, AttestationStatement.algorithm_eq_ok,
    AttestationStatement.signature_eq_ok, AttestationStatement.certificates_eq_ok,
    AttestationStatement.require_member_eq_ok, AttestationStatement.bytes?_eq_some,
    AttestationContext.credential_eq_ok, mapError_eq_ok]
  constructor
  · rintro ⟨hversion, algorithm, halgorithm, signature, hsignature, path, hpath, certInfo,
      hcertInfo, pubArea, hpubArea, area, harea, credential, hattested, hne⟩
    exact ⟨path, algorithm, signature, certInfo, pubArea, credential, area,
      ⟨hversion, halgorithm, hsignature, hpath, hcertInfo, hpubArea, harea, hattested⟩, hne⟩
  · rintro ⟨path, algorithm, signature, certInfo, pubArea, credential, area, h, hne⟩
    exact ⟨h.version, algorithm, h.algorithm_named, signature, h.signature_member, path, h.brought,
      certInfo, h.certInfo_member, pubArea, h.pubArea_member, area, h.area_read, credential,
      h.attested, hne⟩

/-- Whatever form a key comes in, it has one value.

A point is kept by its two coordinates, each of the curve's size, reduced and on the curve, and is
read as the same key from its shortest and its longest form, from the map that is written for it, and
out of a certificate; two accepted forms give equal keys exactly if they are of one point. The numbers
of an RSA key are kept without leading zeros, are read alike from octets and from integers in DER, and
give equal keys exactly if they are equal. The comparisons of an Android key and of a TPM statement
therefore report a mismatch exactly if they are made and the two keys are not the same. -/
theorem keys_compared_by_value :
    (∀ (curve : Curve) (octets : Bytes) (key : PublicKey),
      PublicKey.ofOctets curve octets = .ok key → ∃ x y,
        key = .ec2 curve x y ∧ curve.IsCoordinates x y ∧
        PublicKey.ofOctets curve (PublicKey.compress x y) = .ok key ∧
        PublicKey.ofOctets curve (0x04 :: x ++ y) = .ok key ∧
        (∀ id, CoseAlgorithm.inRange id = true →
          CoseKey.decode (CoseKey.encode ⟨.ofId id, key⟩) = .ok ⟨.ofId id, key⟩) ∧
        Der.element? (curve.keyInfo octets).write >>= X509.PublicKeyInfo.ofElement?
          = some (curve.keyInfo octets) ∧
        ∀ c : Certificate, c.content.keyInfo = curve.keyInfo octets → c.publicKey = .ok key) ∧
    (∀ (curve : Curve) (octets octets' : Bytes) (key key' : PublicKey),
      PublicKey.ofOctets curve octets = .ok key → PublicKey.ofOctets curve octets' = .ok key' →
      (key = key' ↔ ∃ Q, curve.SpellsPoint octets Q ∧ curve.SpellsPoint octets' Q)) ∧
    (∀ (n e : Bytes) (key : PublicKey), PublicKey.ofRsa n e = .ok key → ∃ n' e',
      key = .rsa n' e' ∧ n'.head? ≠ some 0 ∧ e'.head? ≠ some 0 ∧
        Bytes.toNat n' = Bytes.toNat n ∧ Bytes.toNat e' = Bytes.toNat e) ∧
    (∀ (n e n' e' : Bytes) (key key' : PublicKey),
      PublicKey.ofRsa n e = .ok key → PublicKey.ofRsa n' e' = .ok key' →
      (key = key' ↔ Bytes.toNat n = Bytes.toNat n' ∧ Bytes.toNat e = Bytes.toNat e')) ∧
    (∀ (n e : Bytes) (key : PublicKey),
      PublicKey.ofRsaDer (Der.sequence [Der.unsigned n, Der.unsigned e]) = .ok key ↔
        PublicKey.ofRsa n e = .ok key) ∧
    ∀ (bs : Bytes) (data : AuthenticatorData) (hash : Bytes) (s : AttestationStatement),
      AuthenticatorData.decode bs = .ok data →
      (verifyStatement .androidKey s ⟨data, hash⟩ = .error .keyMismatch ↔
        ∃ path algorithm signature leaf credential key,
          AndroidKeyCompares s ⟨data, hash⟩ path algorithm signature leaf credential key ∧
            ¬ key.Same credential.publicKey.key) ∧
      (verifyStatement .tpm s ⟨data, hash⟩ = .error .keyMismatch ↔
        ∃ path algorithm signature certInfo pubArea credential area,
          TpmCompares s ⟨data, hash⟩ path algorithm signature certInfo pubArea credential area ∧
            ¬ area.key.Same credential.publicKey.key) := by
  refine ⟨?_, fun _ _ _ _ _ => PublicKey.ofOctets_inj, fun _ _ _ => PublicKey.numbers_of_ofRsa,
    fun _ _ _ _ _ _ => PublicKey.ofRsa_inj, fun _ _ _ => PublicKey.ofRsaDer_sequence, ?_⟩
  · intro curve octets key h
    obtain ⟨x, y, rfl, hcoordinates⟩ := PublicKey.isCoordinates_of_ofOctets h
    obtain ⟨px, py, -, hspells, -⟩ := PublicKey.ofOctets_eq_ok.1 h
    refine ⟨x, y, rfl, hcoordinates, PublicKey.ofOctets_compress hcoordinates,
      (PublicKey.canonical_of_ofOctets h).2.2, ?_, Curve.read_keyInfo hspells.length_le, ?_⟩
    · intro id hid
      exact CoseKey.decode_encode ⟨.ofOctets h, id, hid, rfl⟩
    · intro c hc
      rw [Curve.publicKey_of_keyInfo hc, h]
      rfl
  · intro bs data hash s hdata
    constructor
    · refine android_key_mismatch_iff.trans ?_
      refine exists_congr fun path => exists_congr fun algorithm => exists_congr fun signature =>
        exists_congr fun leaf => exists_congr fun credential => exists_congr fun key => ?_
      refine and_congr_right fun h => not_congr ?_
      exact PublicKey.Received.eq_iff_same (.certificate h.key_read)
        (.of_attested hdata h.attested)
    · refine tpm_mismatch_iff.trans ?_
      refine exists_congr fun path => exists_congr fun algorithm => exists_congr fun signature =>
        exists_congr fun certInfo => exists_congr fun pubArea => exists_congr fun credential =>
          exists_congr fun area => ?_
      refine and_congr_right fun h => not_congr ?_
      exact PublicKey.Received.eq_iff_same (.publicArea h.area_read)
        (.of_attested hdata h.attested)

end Attestation

end Passkey
