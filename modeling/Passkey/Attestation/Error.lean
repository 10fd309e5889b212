import Passkey.Cose.Verify
import Passkey.X509.Certificate

/-!
# Why an attestation is refused

Causes of refusal, grouped by what they blame: the statement, a certificate's encoding, what a
certificate says, the key, or the services that an evaluation depends on.
-/

namespace Passkey

open X509 (CertificateDefect)

/-- The two structures of a TPM statement. -/
inductive TpmStructure where
  | pubArea
  | certInfo
  deriving DecidableEq, Repr

/-- The member that holds a structure. -/
def TpmStructure.name : TpmStructure → String
  | .pubArea => "pubArea"
  | .certInfo => "certInfo"

/-- What is wrong with a statement. -/
inductive StatementDefect where
  | missing (field : String)
  | algorithmOutOfRange
  | certificatesNotAnArray
  | noCertificates
  | certificateNotBytes
  | certificateCount (count : Nat)
  /-- The statement asks for a scheme that is not supported. -/
  | ecdaa
  | selfAlgorithm (stated key : CoseAlgorithm)
  | credentialKeyNotP256
  | responseNotText
  | responseNotCompact
  | segmentNotBase64
  | segmentUnreadable
  | tokenAlgorithm (name : String)
  | certificateNotBase64
  | tokenSignatureNotBase64
  | nonceMismatch
  | profileMismatch
  | tpmVersion
  | truncated (part : TpmStructure)
  | overlong (part : TpmStructure)
  | tpmRsaKey
  | tpmPoint
  | tpmCurve (id : Nat)
  | tpmKeyType (id : Nat)
  | tpmMagic
  | tpmAttestationType
  | noDigest (algorithm : CoseAlgorithm)
  | tpmExtraData
  | tpmNameAlgorithm (id : Nat)
  | tpmName
  deriving DecidableEq, Repr

/-- What a certificate lacks for its format. -/
inductive Requirement where
  | version3
  | notAnAuthority
  | sameAaguid
  | p256Key
  | keyDescription
  | readableKeyDescription
  | challenge
  | host (name : String)
  | emptySubject
  | purpose
  deriving DecidableEq, Repr

/-- Why an attestation is refused. -/
inductive AttestationError where
  | statement (defect : StatementDefect)
  | signatureInvalid
  | certificate (defect : CertificateDefect)
  | requirement (r : Requirement)
  | keyMismatch
  /-- The signature cannot be checked with the stated algorithm and the key at hand. -/
  | signature (error : SignatureError)
  /-- The trusted roots could not be looked up. -/
  | trustResolution (reason : String)
  deriving DecidableEq, Repr

/-- A number of 16 bits as it is shown: four hexadecimal digits. -/
def wordText (n : Nat) : String := "0x" ++ Bytes.toHex (Bytes.ofNat 2 n)

/-- The wording of a defect. -/
def StatementDefect.message : StatementDefect → String
  | .missing field => s!"missing {field}"
  | .algorithmOutOfRange => "alg out of range"
  | .certificatesNotAnArray => "x5c is not an array"
  | .noCertificates => "x5c is empty"
  | .certificateNotBytes => "x5c entry is not a byte string"
  | .certificateCount count => s!"expected exactly one certificate, got {count}"
  | .ecdaa => "ECDAA attestation is not supported"
  | .selfAlgorithm stated key =>
    s!"self attestation alg {stated.name} does not match credential key alg {key.name}"
  | .credentialKeyNotP256 => "credential public key is not an EC2 P-256 key"
  | .responseNotText => "response is not UTF-8"
  | .responseNotCompact => "response is not a compact JWS"
  | .segmentNotBase64 => "JWS segment is not base64url"
  | .segmentUnreadable => s!"JWS segment: {withheld}"
  | .tokenAlgorithm name => s!"unsupported JWS algorithm {name}"
  | .certificateNotBase64 => "x5c entry is not base64"
  | .tokenSignatureNotBase64 => "JWS signature is not base64url"
  | .nonceMismatch => "nonce does not match authenticator and client data"
  | .profileMismatch => "device failed the CTS profile match"
  | .tpmVersion => "ver must be \"2.0\""
  | .truncated s => s!"{s.name} is truncated"
  | .overlong s => s!"{s.name} has trailing bytes"
  | .tpmRsaKey => "pubArea RSA key is unusable"
  | .tpmPoint => "pubArea ECC point is not on its curve"
  | .tpmCurve id => s!"unsupported TPM curve {wordText id}"
  | .tpmKeyType id => s!"unsupported pubArea type {wordText id}"
  | .tpmMagic => "certInfo magic is not TPM_GENERATED_VALUE"
  | .tpmAttestationType => "certInfo type is not TPM_ST_ATTEST_CERTIFY"
  | .noDigest algorithm => s!"alg {algorithm.name} has no digest"
  | .tpmExtraData => "certInfo extraData does not match authenticator and client data"
  | .tpmNameAlgorithm id => s!"unsupported nameAlg {wordText id}"
  | .tpmName => "certInfo does not certify pubArea"

/-- The wording of an unmet requirement. -/
def Requirement.message : Requirement → String
  | .version3 => "attestation certificate is not version 3"
  | .notAnAuthority => "attestation certificate is a CA"
  | .sameAaguid => "certificate AAGUID does not match authenticator data"
  | .p256Key => "attestation key is not an EC P-256 key"
  | .keyDescription => "missing key attestation extension"
  | .readableKeyDescription => s!"invalid key description: {withheld}"
  | .challenge => "attestation challenge does not match client data hash"
  | .host name => s!"attestation certificate is not issued to {name}"
  | .emptySubject => "AIK certificate subject is not empty"
  | .purpose => "AIK certificate lacks the tcg-kp-AIKCertificate purpose"

/-- A defect of a certificate as an error. -/
def X509.CertificateDefect.errorMessage (d : CertificateDefect) : String :=
  s!"malformed attestation certificate: {d.message}"

/-- The wording of an error. -/
def AttestationError.message : AttestationError → String
  | .statement defect => s!"malformed attestation statement: {defect.message}"
  | .signatureInvalid => "attestation signature is invalid"
  | .certificate defect => defect.errorMessage
  | .requirement r => s!"attestation certificate requirements not met: {r.message}"
  | .keyMismatch => "attested public key does not match the credential public key"
  | .signature error => error.message
  | .trustResolution reason => s!"trust root resolution failed: {reason}"

end Passkey
