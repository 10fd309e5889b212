import Passkey.Proofs.Asn1.Identifiers
import Passkey.Proofs.Attestation.Checks

/-!
# Which TPM statements are verified

The statement ties the credential to a key of a TPM in four steps. The public area describes the
credential's key; its name is the hash of the area; the certification carries that name and the hash
of the message; and the first certificate, which is one of an attestation key, signs the
certification. A statement is verified exactly if all of these hold (`tpm_decided`).
-/

namespace Passkey

open X509 (Certificate)

/-! ### Purposes of a certificate -/

namespace X509.Certificate

/-- The extended key usage of the certificate is a sequence of these identifiers. -/
def HasPurposes (c : Certificate) (purposes : List Oid) : Prop :=
  ∃ value, c.extension? extendedKeyUsageId = some value ∧ Oid.SpelledBy purposes value

theorem extendedKeyUsage_eq_ok {c : Certificate} {purposes : List Oid} :
    c.extendedKeyUsage = .ok purposes ↔
      c.extension? extendedKeyUsageId = none ∧ purposes = [] ∨ c.HasPurposes purposes := by
  simp only [extendedKeyUsage, map_eq_ok, readExtension_eq_ok, Oid.readAll_eq_some]
  constructor
  · rintro ⟨_, ⟨hnone, rfl⟩ | ⟨value, found, hvalue, hfound, rfl⟩, rfl⟩
    · exact Or.inl ⟨hnone, rfl⟩
    · exact Or.inr ⟨value, hvalue, hfound⟩
  · rintro (⟨hnone, rfl⟩ | ⟨value, hvalue, hpurposes⟩)
    · exact ⟨none, Or.inl ⟨hnone, rfl⟩, rfl⟩
    · exact ⟨some purposes, Or.inr ⟨value, purposes, hvalue, hpurposes, rfl⟩, rfl⟩

end X509.Certificate

/-! ### Names of areas -/

/-- The identifier of a hash function in a public area. -/
def Hash.tpmId : Hash → Nat
  | .sha256 => 0x000b
  | .sha384 => 0x000c
  | .sha512 => 0x000d

/-- The name of a public area under a hash function: its identifier and the digest of the area. -/
def Hash.areaName (hash : Hash) (area : Bytes) : Bytes :=
  Bytes.ofNat 2 hash.tpmId ++ hash.digest area

namespace Attestation

variable {s : AttestationStatement} {context : AttestationContext} {v : StatementVerdict}
  {algorithm : CoseAlgorithm} {leaf : Certificate}

theorem tpmHash?_eq_some {id : Nat} {hash : Hash} : tpmHash? id = some hash ↔ id = hash.tpmId := by
  unfold tpmHash?
  constructor
  · intro h
    split at h
    · cases h
      assumption
    · split at h
      · cases h
        assumption
      · obtain ⟨hid, h⟩ := Option.ite_none_right_eq_some.1 h
        cases h
        exact hid
  · rintro rfl
    cases hash <;> rfl

theorem areaName_eq_ok {id : Nat} {area name : Bytes} :
    areaName id area = .ok name ↔ ∃ hash : Hash, id = hash.tpmId ∧ name = hash.areaName area := by
  unfold areaName
  cases h : tpmHash? id with
  | none =>
    simp only [reduceCtorEq, false_iff, not_exists, not_and]
    rintro hash rfl
    rw [tpmHash?_eq_some.2 rfl] at h
    cases h
  | some hash =>
    obtain rfl := tpmHash?_eq_some.1 h
    constructor
    · intro hname
      cases hname
      exact ⟨hash, rfl, rfl⟩
    · rintro ⟨hash', hid, rfl⟩
      rw [hid, tpmHash?_eq_some.2 rfl] at h
      cases h
      rw [hid]
      rfl

/-- A certification is about an area and a message exactly if it is this one. -/
theorem requireCertified_eq_ok {info : CertifyInfo} {message area : Bytes} {id : Nat} :
    requireCertified info algorithm message id area = .ok () ↔
      ∃ hash nameHash : Hash, algorithm.hash? = some hash ∧ id = nameHash.tpmId ∧
        info = ⟨0xff544347, 0x8017, hash.digest message, nameHash.areaName area⟩ := by
  simp only [requireCertified, generatedMagic, certifyType, throw_eq_error, error_bind,
    refuse_eq_ok, ne_eq, not_not]
  obtain ⟨magic, type, extraData, name⟩ := info
  cases algorithm.hash? with
  | none => simp
  | some hash =>
    simp only [refuse_eq_ok, bind_eq_ok, areaName_eq_ok, pure_eq_ok, not_not, and_true,
      Option.some.injEq, CertifyInfo.mk.injEq]
    constructor
    · rintro ⟨rfl, rfl, rfl, _, ⟨nameHash, rfl, rfl⟩, rfl⟩
      exact ⟨hash, nameHash, rfl, rfl, rfl, rfl, rfl, rfl⟩
    · rintro ⟨_, nameHash, rfl, rfl, rfl, rfl, rfl, rfl⟩
      exact ⟨rfl, rfl, rfl, _, ⟨nameHash, rfl, rfl⟩, rfl⟩

theorem requireAttestationKey_eq_ok :
    requireAttestationKey leaf = .ok () ↔ leaf.content.subject.levels = [] ∧
      ∃ purposes, leaf.HasPurposes purposes ∧ Oid.ofArcs [2, 23, 133, 8, 3] ∈ purposes := by
  simp only [requireAttestationKey, Certificate.hasEmptySubject, throw_eq_error, error_bind,
    refuse_eq_ok, bind_eq_ok, mapError_eq_ok, pure_eq_ok, Certificate.extendedKeyUsage_eq_ok,
    attestationKeyPurpose, Bool.not_eq_true', Bool.not_eq_false, List.isEmpty_iff,
    List.contains_iff_mem, and_true]
  refine and_congr_right fun _ => exists_congr fun purposes => ?_
  constructor
  · rintro ⟨⟨-, rfl⟩ | hpurposes, hmem⟩
    · cases hmem
    · exact ⟨hpurposes, hmem⟩
  · rintro ⟨hpurposes, hmem⟩
    exact ⟨Or.inr hpurposes, hmem⟩

/-! ### The whole statement -/

/-- What is required of a TPM statement that brings these certificates, with its algorithm and the
hash function of that, the hash function of the area's name, the members that it consists of, the
credential and the first certificate. -/
structure TpmAttests (s : AttestationStatement) (context : AttestationContext)
    (path : List Certificate) (algorithm : CoseAlgorithm) (hash nameHash : Hash)
    (signature certInfo pubArea : Bytes) (credential : AttestedCredential) (leaf : Certificate) :
    Prop where
  version : s.get? "ver" = some (.text "2.0")
  algorithm_named : s.Names algorithm
  algorithm_hash : algorithm.hash? = some hash
  signature_member : s.get? "sig" = some (.bytes signature)
  certInfo_member : s.get? "certInfo" = some (.bytes certInfo)
  pubArea_member : s.get? "pubArea" = some (.bytes pubArea)
  brought : s.Brings path
  first : path.head? = some leaf
  attested : context.data.attested = some credential
  key_described : PublicArea.decode pubArea = .ok ⟨nameHash.tpmId, credential.publicKey.key⟩
  area_certified : CertifyInfo.decode certInfo =
    .ok ⟨0xff544347, 0x8017, hash.digest context.message, nameHash.areaName pubArea⟩
  signed : leaf.Verifies algorithm certInfo signature
  leaf_for : leaf.IsLeafFor context.data
  no_subject : leaf.content.subject.levels = []
  purpose : ∃ purposes, leaf.HasPurposes purposes ∧ Oid.ofArcs [2, 23, 133, 8, 3] ∈ purposes

/-- A TPM statement is verified exactly if each of its parts is tied to the next, from the
credential's key to a certificate of an attestation key, and then rests on all of its
certificates. -/
theorem tpm_decided (s : AttestationStatement) (context : AttestationContext)
    (v : StatementVerdict) :
    verifyStatement .tpm s context = .ok v ↔
      ∃ path algorithm hash nameHash signature certInfo pubArea credential leaf,
        TpmAttests s context path algorithm hash nameHash signature certInfo pubArea credential
          leaf ∧ v = .basic path := by
  simp only [verifyStatement, verifyTpm, throw_eq_error, error_bind, refuse_eq_ok, bind_eq_ok,
    exists_unit, mapError_eq_ok, pure_eq_ok, ne_eq, not_not, AttestationStatement.text?_eq_some,
    AttestationStatement.algorithm_eq_ok, AttestationStatement.signature_eq_ok,
    AttestationStatement.certificates_eq_ok, AttestationStatement.require_member_eq_ok,
    AttestationStatement.bytes?_eq_some, AttestationContext.credential_eq_ok,
    requireCertified_eq_ok, leafOf_eq_ok, Certificate.requireSigned_eq_ok,
    Certificate.requireLeaf_eq_ok, requireAttestationKey_eq_ok]
  constructor
  · rintro ⟨hversion, algorithm, halgorithm, signature, hsignature, path, hpath, certInfo,
      hcertInfo, pubArea, hpubArea, ⟨id, key⟩, harea, credential, hattested, rfl, info, hinfo,
      ⟨hash, nameHash, hhash, rfl, rfl⟩, leaf, hfirst, hsigned, hleaf, ⟨hsubject, hpurpose⟩, rfl⟩
    exact ⟨path, algorithm, hash, nameHash, signature, certInfo, pubArea, credential, leaf,
      ⟨hversion, halgorithm, hhash, hsignature, hcertInfo, hpubArea, hpath, hfirst, hattested,
        harea, hinfo, hsigned, hleaf, hsubject, hpurpose⟩, rfl⟩
  · rintro ⟨path, algorithm, hash, nameHash, signature, certInfo, pubArea, credential, leaf, h, rfl⟩
    exact ⟨h.version, algorithm, h.algorithm_named, signature, h.signature_member, path, h.brought,
      certInfo, h.certInfo_member, pubArea, h.pubArea_member, _, h.key_described, credential,
      h.attested, rfl, _, h.area_certified, ⟨hash, nameHash, h.algorithm_hash, rfl, rfl⟩, leaf,
      h.first, h.signed, h.leaf_for, ⟨h.no_subject, h.purpose⟩, rfl⟩

end Attestation

end Passkey
