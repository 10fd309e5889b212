import Passkey.Attestation.Statement

/-!
# The U2F format

The older protocol's registration message, signed on P-256 by the key of the one certificate.
-/

namespace Passkey.Attestation

/-- The registration message: a zero, both hashes, the credential's identifier, and its key as an
uncompressed point. -/
def u2fMessage (rpIdHash clientDataHash credentialId x y : Bytes) : Bytes :=
  0x00 :: rpIdHash ++ clientDataHash ++ credentialId ++ 0x04 :: x ++ y

/-- The one certificate, whose key must be on P-256. -/
def u2fCertificate (trustPath : List X509.Certificate) :
    Except AttestationError X509.Certificate :=
  match trustPath with
  | [certificate] => do
    match ← certificate.attestationKey with
    | .ec2 .p256 _ _ => return certificate
    | _ => throw (.requirement .p256Key)
  | _ => .error (.statement (.certificateCount trustPath.length))

/-- Verifies a U2F statement. -/
def verifyU2f (s : AttestationStatement) (context : AttestationContext) :
    Except AttestationError StatementVerdict := do
  let signature ← s.signature
  let trustPath ← s.certificates
  let certificate ← u2fCertificate trustPath
  let credential ← context.credential
  match credential.publicKey.key with
  | .ec2 .p256 x y =>
    let message :=
      u2fMessage context.data.rpIdHash context.clientDataHash credential.credentialId x y
    certificate.requireSigned .es256 message signature
    return StatementVerdict.basic trustPath
  | _ => throw (.statement .credentialKeyNotP256)

end Passkey.Attestation
