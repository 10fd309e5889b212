import Passkey.Attestation.Statement

/-!
# The packed format

Signed either by the key of an attestation certificate or, without any certificate, by the
credential's own key.
-/

namespace Passkey.Attestation

/-- Self attestation: the credential's own key signs, with its own algorithm. -/
def verifySelf (algorithm : CoseAlgorithm) (signature : Bytes) (context : AttestationContext) :
    Except AttestationError StatementVerdict := do
  let credential ← context.credential
  let key := credential.publicKey
  if key.algorithm ≠ algorithm then throw (.statement (.selfAlgorithm algorithm key.algorithm))
  if ← (key.verify context.message signature).mapError .signature then
    return StatementVerdict.selfAttested
  else throw .signatureInvalid

/-- Verifies a packed statement. -/
def verifyPacked (s : AttestationStatement) (context : AttestationContext) :
    Except AttestationError StatementVerdict := do
  let algorithm ← s.algorithm
  let signature ← s.signature
  if (s.get? "ecdaaKeyId").isSome then throw (.statement .ecdaa)
  match ← s.certificates? with
  | none => verifySelf algorithm signature context
  | some trustPath =>
    let leaf ← leafOf trustPath
    leaf.requireSigned algorithm context.message signature
    leaf.requireLeaf context
    return StatementVerdict.basic trustPath

end Passkey.Attestation
