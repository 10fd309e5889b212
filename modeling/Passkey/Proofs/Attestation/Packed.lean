import Passkey.Proofs.Attestation.Checks

/-!
# Which packed statements are verified

A packed statement is signed either by the credential's own key or by a certificate, and which of
the two is meant depends on whether there is any entry `x5c` at all. Either verdict is reached
exactly if the signature is one of the key in question over the message and what else is required of
that key holds; an entry that brings no certificates never leads to the other one
(`packed_decided`).
-/

namespace Passkey.Attestation

open X509 (Certificate)

variable {s : AttestationStatement} {context : AttestationContext} {v : StatementVerdict}
  {path : List Certificate} {algorithm : CoseAlgorithm} {signature : Bytes}

/-- What every packed statement has: a signature, the algorithm that it is made with, and no entry
that names a key of another scheme. -/
structure IsPacked (s : AttestationStatement) (algorithm : CoseAlgorithm) (signature : Bytes) :
    Prop where
  algorithm_named : s.Names algorithm
  signature_member : s.get? "sig" = some (.bytes signature)
  no_ecdaa : ∀ e ∈ s.entries, e.1 ≠ .text "ecdaaKeyId"

/-- The statement has no entry for certificates, and the new credential's key signs with its own
algorithm. -/
def SelfAttests (s : AttestationStatement) (context : AttestationContext) : Prop :=
  ∃ algorithm signature credential, IsPacked s algorithm signature ∧
    (∀ e ∈ s.entries, e.1 ≠ .text "x5c") ∧
    context.data.attested = some credential ∧ credential.publicKey.algorithm = algorithm ∧
    credential.publicKey.verify context.message signature = .ok true

/-- The statement brings these certificates, and the first of them signs and is one for the
authenticator. -/
def CertificatesAttest (s : AttestationStatement) (context : AttestationContext)
    (path : List Certificate) : Prop :=
  ∃ algorithm signature leaf, IsPacked s algorithm signature ∧
    s.Brings path ∧ path.head? = some leaf ∧
    leaf.Verifies algorithm context.message signature ∧ leaf.IsLeafFor context.data

theorem verifySelf_eq_ok :
    verifySelf algorithm signature context = .ok v ↔
      v = .selfAttested ∧ ∃ credential, context.data.attested = some credential ∧
        credential.publicKey.algorithm = algorithm ∧
        credential.publicKey.verify context.message signature = .ok true := by
  simp only [verifySelf, bind_eq_ok, throw_eq_error, error_bind, refuse_eq_ok, require_eq_ok,
    mapError_eq_ok, pure_eq_ok, AttestationContext.credential_eq_ok, ne_eq, not_not]
  constructor
  · rintro ⟨credential, hattested, halgorithm, _, hverified, rfl, hv⟩
    exact ⟨hv, credential, hattested, halgorithm, hverified⟩
  · rintro ⟨hv, credential, hattested, halgorithm, hverified⟩
    exact ⟨credential, hattested, halgorithm, true, hverified, rfl, hv⟩

theorem verifyPacked_eq_ok :
    verifyPacked s context = .ok v ↔
      v = .selfAttested ∧ SelfAttests s context ∨
        ∃ path, v = .basic path ∧ CertificatesAttest s context path := by
  have hecdaa : ¬ (s.get? "ecdaaKeyId").isSome = true ↔
      ∀ e ∈ s.entries, e.1 ≠ .text "ecdaaKeyId" := by
    rw [← AttestationStatement.get?_eq_none, Option.not_isSome_iff_eq_none]
  simp only [verifyPacked, bind_eq_ok, throw_eq_error, error_bind, refuse_eq_ok, hecdaa,
    AttestationStatement.algorithm_eq_ok, AttestationStatement.signature_eq_ok, Option.exists,
    AttestationStatement.certificates?_eq_none, AttestationStatement.get?_eq_none,
    AttestationStatement.certificates?_eq_some, exists_unit, pure_eq_ok, leafOf_eq_ok,
    Certificate.requireSigned_eq_ok, Certificate.requireLeaf_eq_ok, verifySelf_eq_ok]
  constructor
  · rintro ⟨algorithm, halgorithm, signature, hsignature, hnone,
      ⟨hpath, rfl, credential, hself⟩ | ⟨path, hpath, leaf, hfirst, hsigned, hleaf, rfl⟩⟩
    · have hpacked : IsPacked s algorithm signature := ⟨halgorithm, hsignature, hnone⟩
      exact Or.inl ⟨rfl, algorithm, signature, credential, hpacked, hpath, hself⟩
    · have hpacked : IsPacked s algorithm signature := ⟨halgorithm, hsignature, hnone⟩
      exact Or.inr ⟨path, rfl, algorithm, signature, leaf, hpacked, hpath, hfirst, hsigned, hleaf⟩
  · rintro (⟨rfl, algorithm, signature, credential, hpacked, hpath, hself⟩ |
      ⟨path, rfl, algorithm, signature, leaf, hpacked, hpath, hfirst, hsigned, hleaf⟩)
    · exact ⟨algorithm, hpacked.algorithm_named, signature, hpacked.signature_member,
        hpacked.no_ecdaa, Or.inl ⟨hpath, rfl, credential, hself⟩⟩
    · exact ⟨algorithm, hpacked.algorithm_named, signature, hpacked.signature_member,
        hpacked.no_ecdaa, Or.inr ⟨path, hpath, leaf, hfirst, hsigned, hleaf, rfl⟩⟩

/-- A packed statement is verified as one of the credential itself, or as one of the certificates
that it brings, exactly under the conditions for either, and is refused in every other case. -/
theorem packed_decided (s : AttestationStatement) (context : AttestationContext) :
    (verifyStatement .packed s context = .ok .selfAttested ↔ SelfAttests s context) ∧
    (∀ path, verifyStatement .packed s context = .ok (.basic path) ↔
      CertificatesAttest s context path) ∧
    ((∃ e, verifyStatement .packed s context = .error e) ↔
      ¬ SelfAttests s context ∧ ∀ path, ¬ CertificatesAttest s context path) := by
  have hdecided (v : StatementVerdict) : verifyStatement .packed s context = .ok v ↔
      v = .selfAttested ∧ SelfAttests s context ∨
        ∃ path, v = .basic path ∧ CertificatesAttest s context path := verifyPacked_eq_ok
  have hself : verifyStatement .packed s context = .ok .selfAttested ↔ SelfAttests s context := by
    simp [hdecided, StatementVerdict.selfAttested, StatementVerdict.basic]
  have hbasic (path : List Certificate) : verifyStatement .packed s context = .ok (.basic path) ↔
      CertificatesAttest s context path := by
    simp [hdecided, StatementVerdict.selfAttested, StatementVerdict.basic]
  refine ⟨hself, hbasic, ?_⟩
  constructor
  · rintro ⟨e, he⟩
    refine ⟨fun h => ?_, fun path h => ?_⟩
    · rw [hself.2 h] at he
      cases he
    · rw [(hbasic path).2 h] at he
      cases he
  · rintro ⟨hnotSelf, hnotBasic⟩
    cases hresult : verifyStatement .packed s context with
    | error e => exact ⟨e, rfl⟩
    | ok v =>
      rcases (hdecided v).1 hresult with ⟨-, h⟩ | ⟨path, -, h⟩
      · exact absurd h hnotSelf
      · exact absurd h (hnotBasic path)

end Passkey.Attestation
