import Passkey.RelyingParty.Validation
import Passkey.Report.Basic

/-!
# Reports of errors

Every error has a name beside its wording. An error that wraps another goes by the name of the one
inside. Errors that end a ceremony are reported with their kind and with what the client is told.
-/

namespace Passkey

open Report

/-- The name of an error. -/
def KeyError.name : KeyError → String
  | .malformed _ => "MalformedCoseKey"
  | .unsupported _ => "UnsupportedCoseKeyType"

/-- The name of an error. -/
def DecodeError.name : DecodeError → String
  | .attestationObject _ => "MalformedAttestationObject"
  | .authenticatorData _ => "MalformedAuthenticatorData"
  | .key e => e.name

/-- The name of an error. -/
def SignatureError.name : SignatureError → String
  | .unsupportedAlgorithm _ => "UnsupportedAlgorithm"
  | .algorithmKeyMismatch _ _ => "AlgorithmKeyMismatch"
  | .invalidKey => "InvalidKey"

/-- The name of an error. -/
def AttestationError.name : AttestationError → String
  | .statement _ => "MalformedAttestationStatement"
  | .signatureInvalid => "AttestationSignatureInvalid"
  | .certificate _ => "MalformedAttestationCertificate"
  | .requirement _ => "CertificateRequirementsNotMet"
  | .keyMismatch => "PublicKeyMismatch"
  | .signature e => e.name
  | .trustResolution _ => "TrustResolution"

/-- The name of an error. -/
def OptionsError.name : OptionsError → String
  | .challengeTooShort _ => "ChallengeTooShort"
  | .emptyUserHandle => "EmptyUserHandle"
  | .userHandleTooLong _ => "UserHandleTooLong"

/-- The name of an error. -/
def ConfigError.name : ConfigError → String
  | .noOrigins => "NoOrigins"
  | .invalidOrigin _ _ => "InvalidOrigin"
  | .originOutsideRpId _ _ => "OriginOutsideRpId"
  | .challengeTooShort _ => "ChallengeTooShort"

/-- The name of an error. -/
def CeremonyError.name : CeremonyError → String
  | .malformedResponse _ => "MalformedResponse"
  | .decode e => e.name
  | .malformedClientData _ => "MalformedClientData"
  | .typeMismatch _ _ => "TypeMismatch"
  | .challengeMismatch => "ChallengeMismatch"
  | .originMismatch _ => "OriginMismatch"
  | .tokenBindingMismatch => "TokenBindingMismatch"
  | .rpIdHashMismatch => "RpIdHashMismatch"
  | .userPresenceRequired => "UserPresenceRequired"
  | .userVerificationRequired => "UserVerificationRequired"
  | .missingAttestedCredential => "MissingAttestedCredentialData"
  | .credentialIdMismatch => "CredentialIdMismatch"
  | .unrequestedAlgorithm _ => "UnrequestedAlgorithm"
  | .attestation e => e.name
  | .unsupportedFormat _ => "UnsupportedAttestationFormat"
  | .untrustedAttestation => "UntrustedAttestation"
  | .alreadyRegistered => "CredentialIdAlreadyRegistered"
  | .unknownCredential => "UnknownCredential"
  | .userHandleMismatch => "UserHandleMismatch"
  | .missingUserHandle => "MissingUserHandle"
  | .signatureInvalid => "SignatureInvalid"
  | .signature e => e.name
  | .possibleCloning _ _ => "PossibleCredentialCloning"
  | .counterConflict => "CounterUpdateConflict"
  | .repository _ => "Repository"

/-- The name of a kind. -/
def ErrorKind.name : ErrorKind → String
  | .malformedInput => "MalformedInput"
  | .protocolMismatch => "ProtocolMismatch"
  | .cryptoFailure => "CryptoFailure"
  | .policyViolation => "PolicyViolation"
  | .externalDependencyFailure => "ExternalDependencyFailure"

namespace Report

/-- What a client is told. -/
def service (e : ServiceError) : Json :=
  obj [("json", e.toJson), ("status", num e.code.status), ("display", str e.describe)]

/-- A key that cannot be read. -/
def keyError (e : KeyError) : Json := failureText e.name e.message

/-- Something that cannot be read. -/
def decodeError (e : DecodeError) : Json := failureText e.name e.message

/-- A signature that cannot be checked. -/
def signatureError (e : SignatureError) : Json := failureText e.name e.message

/-- A statement that does not hold. -/
def attestationError (e : AttestationError) : Json := failureText e.name e.message

/-- A certificate that cannot be read. -/
def certificateError (d : X509.CertificateDefect) : Json := attestationError (.certificate d)

/-- A configuration that is not valid. -/
def configError (e : ConfigError) : Json := failureText e.name e.message

/-- Options that cannot be made. -/
def optionsError (e : OptionsError) : Json :=
  failure e.name [("message", str e.message), ("service", service (.ofOptions e))]

/-- A ceremony that failed. -/
def ceremonyError (e : CeremonyError) : Json :=
  failure e.name
    [("message", str e.message), ("kind", str e.kind.name), ("retryable", .bool e.kind.isRetryable),
      ("service", service (.ofCeremony e))]

end Report

end Passkey
