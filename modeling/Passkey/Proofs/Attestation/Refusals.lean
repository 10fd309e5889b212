import Passkey.Attestation.Verify
import Passkey.Proofs.Fallible
import Passkey.RelyingParty.Error

/-!
# Refusals of a statement are final

A statement is verified without asking anyone, so what refuses it is in the statement, in its
certificates or in the credential, and refuses it again whenever it is sent again.
-/

namespace Passkey

/-- Trying again does not help. -/
def AttestationError.Final (e : AttestationError) : Prop := e.kind.isRetryable = false

namespace AttestationError

/-- The statement, a certificate or a signature is at fault by itself. Neither do two keys differ, nor
could someone not be asked. -/
inductive Inherent : AttestationError → Prop
  | statement (defect : StatementDefect) : Inherent (.statement defect)
  | certificate (defect : X509.CertificateDefect) : Inherent (.certificate defect)
  | requirement (r : Requirement) : Inherent (.requirement r)
  | signature (error : SignatureError) : Inherent (.signature error)
  | signatureInvalid : Inherent .signatureInvalid

theorem Inherent.final {e : AttestationError} (h : e.Inherent) : e.Final := by
  cases h <;> rfl

theorem Inherent.ne_keyMismatch {e : AttestationError} (h : e.Inherent) : e ≠ .keyMismatch := by
  rintro rfl
  cases h

end AttestationError

open AttestationError

theorem ErrsWith.final {α : Type} {x : Except AttestationError α} (h : ErrsWith Inherent x) :
    ErrsWith Final x :=
  fun e he => (h e he).final

/-! ### What the formats share -/

theorem AttestationContext.errsWith_credential (context : AttestationContext) :
    ErrsWith Inherent context.credential := by
  unfold credential
  split
  · exact errsWith_ok _
  · exact errsWith_error (.statement _)

theorem errsWith_leafOf (trustPath : List X509.Certificate) : ErrsWith Inherent (leafOf trustPath) := by
  cases trustPath with
  | nil => exact errsWith_error (.statement _)
  | cons leaf rest => exact errsWith_ok leaf

namespace AttestationStatement

variable (s : AttestationStatement)

theorem errsWith_require {α : Type} (field : String) (member : Option α) :
    ErrsWith Inherent (require field member) := by
  cases member with
  | none => exact errsWith_error (.statement _)
  | some a => exact errsWith_ok a

theorem errsWith_algorithm : ErrsWith Inherent s.algorithm := by
  refine (errsWith_require "alg" _).bind fun id => ?_
  split
  · exact errsWith_ok _
  · exact errsWith_error (.statement _)

theorem errsWith_signature : ErrsWith Inherent s.signature := errsWith_require "sig" _

theorem errsWith_certificateOf (item : Cbor.Value) : ErrsWith Inherent (certificateOf item) := by
  unfold certificateOf
  split
  · exact errsWith_mapError .certificate
  · exact errsWith_error (.statement _)

theorem errsWith_certificates? : ErrsWith Inherent s.certificates? := by
  unfold certificates?
  split
  · exact errsWith_ok _
  · exact errsWith_error (.statement _)
  · exact (errsWith_mapM _ errsWith_certificateOf).map
  · exact errsWith_error (.statement _)

theorem errsWith_certificates : ErrsWith Inherent s.certificates :=
  s.errsWith_certificates?.bind fun _ => errsWith_require "x5c" _

end AttestationStatement

namespace X509.Certificate

variable (leaf : Certificate)

theorem errsWith_attestationKey : ErrsWith Inherent leaf.attestationKey :=
  errsWith_mapError .certificate

theorem errsWith_requireSigned (algorithm : CoseAlgorithm) (message signature : Bytes) :
    ErrsWith Inherent (leaf.requireSigned algorithm message signature) := by
  refine leaf.errsWith_attestationKey.bind fun key => ?_
  refine (errsWith_mapError .signature).bind fun good => ?_
  exact errsWith_ite (errsWith_ok _) (errsWith_error .signatureInvalid)

theorem errsWith_requireLeaf (context : AttestationContext) :
    ErrsWith Inherent (leaf.requireLeaf context) := by
  refine errsWith_refuse (.requirement _) ?_
  refine (errsWith_mapError .certificate).bind fun isCa => ?_
  refine errsWith_refuse (.requirement _) ?_
  refine (errsWith_mapError .certificate).bind fun aaguid => ?_
  cases aaguid with
  | none => exact errsWith_ok _
  | some aaguid =>
    refine context.errsWith_credential.bind fun credential => ?_
    exact errsWith_ite (errsWith_ok _) (errsWith_error (.requirement _))

end X509.Certificate

/-! ### Each format -/

namespace Attestation

variable (s : AttestationStatement) (context : AttestationContext)

theorem errsWith_verifySelf (algorithm : CoseAlgorithm) (signature : Bytes) :
    ErrsWith Inherent (verifySelf algorithm signature context) := by
  refine context.errsWith_credential.bind fun credential => ?_
  refine errsWith_refuse (.statement _) ?_
  refine (errsWith_mapError .signature).bind fun good => ?_
  exact errsWith_ite (errsWith_ok _) (errsWith_error .signatureInvalid)

theorem errsWith_verifyPacked : ErrsWith Inherent (verifyPacked s context) := by
  refine s.errsWith_algorithm.bind fun algorithm => ?_
  refine s.errsWith_signature.bind fun signature => ?_
  refine errsWith_refuse (.statement _) ?_
  refine s.errsWith_certificates?.bind fun trustPath? => ?_
  cases trustPath? with
  | none => exact errsWith_verifySelf context algorithm signature
  | some trustPath =>
    refine (errsWith_leafOf trustPath).bind fun leaf => ?_
    refine (leaf.errsWith_requireSigned algorithm context.message signature).bind fun _ => ?_
    refine (leaf.errsWith_requireLeaf context).bind fun _ => ?_
    exact errsWith_ok _

theorem errsWith_u2fCertificate (trustPath : List X509.Certificate) :
    ErrsWith Inherent (u2fCertificate trustPath) := by
  unfold u2fCertificate
  split
  · next certificate =>
    refine certificate.errsWith_attestationKey.bind fun key => ?_
    split
    · exact errsWith_ok _
    · exact errsWith_error (.requirement _)
  · exact errsWith_error (.statement _)

theorem errsWith_verifyU2f : ErrsWith Inherent (verifyU2f s context) := by
  refine s.errsWith_signature.bind fun signature => ?_
  refine s.errsWith_certificates.bind fun trustPath => ?_
  refine (errsWith_u2fCertificate trustPath).bind fun certificate => ?_
  refine context.errsWith_credential.bind fun credential => ?_
  split
  · exact (certificate.errsWith_requireSigned _ _ _).bind fun _ => errsWith_ok _
  · exact errsWith_error (.statement _)

theorem errsWith_requireChallenge (leaf : X509.Certificate) (challenge : Bytes) :
    ErrsWith Inherent (requireChallenge leaf challenge) := by
  unfold requireChallenge
  split
  · exact errsWith_error (.requirement _)
  · split
    · exact errsWith_error (.requirement _)
    · exact errsWith_ite (errsWith_ok _) (errsWith_error (.requirement _))

theorem errsWith_verifyAndroidKey : ErrsWith Final (verifyAndroidKey s context) := by
  refine s.errsWith_algorithm.final.bind fun algorithm => ?_
  refine s.errsWith_signature.final.bind fun signature => ?_
  refine s.errsWith_certificates.final.bind fun trustPath => ?_
  refine (errsWith_leafOf trustPath).final.bind fun leaf => ?_
  refine (leaf.errsWith_requireSigned algorithm context.message signature).final.bind fun _ => ?_
  refine context.errsWith_credential.final.bind fun credential => ?_
  refine leaf.errsWith_attestationKey.final.bind fun key => ?_
  refine errsWith_refuse rfl ?_
  refine (errsWith_requireChallenge leaf context.clientDataHash).final.bind fun _ => ?_
  exact errsWith_ok _

theorem errsWith_tokenOf : ErrsWith Inherent (tokenOf s) := by
  refine errsWith_refuse (.statement _) ?_
  refine (AttestationStatement.errsWith_require "response" _).bind fun response => ?_
  split
  · exact errsWith_error (.statement _)
  · split
    · exact errsWith_error (.statement _)
    · exact errsWith_ok _

theorem errsWith_readSegment {α : Type} (read : Json → Option α) (segment : String) :
    ErrsWith Inherent (readSegment read segment) := by
  unfold readSegment
  split
  · exact errsWith_error (.statement _)
  · split
    · exact errsWith_error (.statement _)
    · exact errsWith_ok _

theorem errsWith_tokenCertificate (text : String) : ErrsWith Inherent (tokenCertificate text) := by
  unfold tokenCertificate
  split
  · exact errsWith_error (.statement _)
  · exact errsWith_mapError .certificate

theorem errsWith_requirePayload (payload : TokenPayload) (message : Bytes) :
    ErrsWith Inherent (requirePayload payload message) :=
  errsWith_refuse (.statement _) <| errsWith_refuse (.statement _) <| errsWith_ok _

theorem errsWith_verifySafetyNet : ErrsWith Inherent (verifySafetyNet s context) := by
  refine (errsWith_tokenOf s).bind fun token => ?_
  refine (errsWith_readSegment TokenHeader.ofJson? token.header).bind fun header => ?_
  refine errsWith_refuse (.statement _) ?_
  refine (errsWith_mapM header.certificates errsWith_tokenCertificate).bind fun trustPath => ?_
  refine (errsWith_leafOf trustPath).bind fun leaf => ?_
  split
  · exact errsWith_error (.statement _)
  · next signature _ =>
    refine (leaf.errsWith_requireSigned .rs256 token.signed signature).bind fun _ => ?_
    refine errsWith_refuse (.requirement _) ?_
    refine (leaf.errsWith_requireLeaf context).bind fun _ => ?_
    refine (errsWith_readSegment TokenPayload.ofJson? token.payload).bind fun payload => ?_
    refine (errsWith_requirePayload payload context.message).bind fun _ => ?_
    exact errsWith_ok _

theorem errsWith_requireAttestationKey (leaf : X509.Certificate) :
    ErrsWith Inherent (requireAttestationKey leaf) := by
  refine errsWith_refuse (.requirement _) ?_
  refine (errsWith_mapError .certificate).bind fun purposes => ?_
  exact errsWith_refuse (.requirement _) (errsWith_ok _)

theorem errsWith_verifyTpm : ErrsWith Final (verifyTpm s context) := by
  refine errsWith_refuse (Inherent.statement _).final ?_
  refine s.errsWith_algorithm.final.bind fun algorithm => ?_
  refine s.errsWith_signature.final.bind fun signature => ?_
  refine s.errsWith_certificates.final.bind fun trustPath => ?_
  refine (AttestationStatement.errsWith_require "certInfo" _).final.bind fun certInfo => ?_
  refine (AttestationStatement.errsWith_require "pubArea" _).final.bind fun pubArea => ?_
  refine (errsWith_mapError Inherent.statement).final.bind fun area => ?_
  refine context.errsWith_credential.final.bind fun credential => ?_
  refine errsWith_refuse rfl ?_
  refine (errsWith_mapError Inherent.statement).final.bind fun info => ?_
  refine (errsWith_mapError Inherent.statement).final.bind fun _ => ?_
  refine (errsWith_leafOf trustPath).final.bind fun leaf => ?_
  refine (leaf.errsWith_requireSigned algorithm certInfo signature).final.bind fun _ => ?_
  refine (leaf.errsWith_requireLeaf context).final.bind fun _ => ?_
  refine (errsWith_requireAttestationKey leaf).final.bind fun _ => ?_
  exact errsWith_ok _

/-- Whatever its format, a statement is refused for good. -/
theorem errsWith_verifyStatement (format : AttestationFormat) :
    ErrsWith Final (verifyStatement format s context) := by
  cases format with
  | none => exact errsWith_ok _
  | packed => exact (errsWith_verifyPacked s context).final
  | fidoU2f => exact (errsWith_verifyU2f s context).final
  | androidKey => exact errsWith_verifyAndroidKey s context
  | androidSafetyNet => exact (errsWith_verifySafetyNet s context).final
  | tpm => exact errsWith_verifyTpm s context
  | unknown name => exact errsWith_ok _

end Attestation

end Passkey
