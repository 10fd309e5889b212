import Passkey.Attestation.Error
import Passkey.Authenticator.Data
import Passkey.Json.Record

/-!
# Why a ceremony fails

Every cause of failure is kept for the party that runs the ceremony. A client is told only the
group it falls into: that its request was malformed, that the ceremony failed, or that it may try
again later.
-/

namespace Passkey

/-- Why options cannot be made. -/
inductive OptionsError where
  | challengeTooShort (length : Nat)
  | emptyUserHandle
  | userHandleTooLong (length : Nat)
  deriving DecidableEq, Repr

/-- The shortest challenge, in bytes. -/
def minChallengeLength : Nat := 16

/-- The longest user handle, in bytes. -/
def maxUserHandleLength : Nat := 64

/-- The wording of an error. -/
def OptionsError.message : OptionsError → String
  | .challengeTooShort length =>
    s!"challenge length {length} is below the minimum of {minChallengeLength} bytes"
  | .emptyUserHandle => "user handle is empty"
  | .userHandleTooLong length =>
    s!"user handle is {length} bytes, the maximum is {maxUserHandleLength}"

/-- Why a ceremony fails. -/
inductive CeremonyError where
  | malformedResponse (reason : String)
  | decode (error : DecodeError)
  | malformedClientData (detail : String)
  | typeMismatch (expected received : String)
  | challengeMismatch
  | originMismatch (origin : String)
  | tokenBindingMismatch
  | rpIdHashMismatch
  | userPresenceRequired
  | userVerificationRequired
  | missingAttestedCredential
  | credentialIdMismatch
  | unrequestedAlgorithm (algorithm : CoseAlgorithm)
  | attestation (error : AttestationError)
  | unsupportedFormat (name : String)
  | untrustedAttestation
  | alreadyRegistered
  | unknownCredential
  | userHandleMismatch
  | missingUserHandle
  | signatureInvalid
  | signature (error : SignatureError)
  | possibleCloning (stored received : UInt32)
  | counterConflict
  | repository (reason : String)
  deriving DecidableEq, Repr

/-- The identifier is not the text form of the raw identifier. -/
def CeremonyError.idMismatch : CeremonyError :=
  .malformedResponse "id is not the base64url encoding of rawId"

/-- The wording of an error. -/
def CeremonyError.message : CeremonyError → String
  | .malformedResponse reason => s!"malformed response: {reason}"
  | .decode error => error.message
  | .malformedClientData detail => s!"malformed client data: {detail}"
  | .typeMismatch expected received =>
    s!"client data type mismatch: expected {expected}, received {received}"
  | .challengeMismatch => "challenge mismatch"
  | .originMismatch origin => s!"origin {origin} is not accepted"
  | .tokenBindingMismatch => "token binding mismatch"
  | .rpIdHashMismatch => "RP ID hash mismatch"
  | .userPresenceRequired => "user presence is required"
  | .userVerificationRequired => "user verification is required"
  | .missingAttestedCredential => "authenticator data lacks attested credential data"
  | .credentialIdMismatch => "credential ID does not match the attested credential"
  | .unrequestedAlgorithm algorithm => s!"credential algorithm {algorithm.name} was not requested"
  | .attestation error => error.message
  | .unsupportedFormat name => s!"unsupported attestation format {name}"
  | .untrustedAttestation => "attestation is not trusted"
  | .alreadyRegistered => "credential ID is already registered"
  | .unknownCredential => "unknown credential"
  | .userHandleMismatch => "user handle does not match the credential owner"
  | .missingUserHandle => "user handle is required when no allow list was sent"
  | .signatureInvalid => "assertion signature is invalid"
  | .signature error => error.message
  | .possibleCloning stored received =>
    s!"possible credential cloning: stored counter {stored.toNat}, received {received.toNat}"
  | .counterConflict => "signature counter was updated concurrently"
  | .repository reason => s!"credential repository failed: {reason}"

/-- What an error is about. -/
inductive ErrorKind where
  | malformedInput
  | protocolMismatch
  | cryptoFailure
  | policyViolation
  | externalDependencyFailure
  deriving DecidableEq, Repr

/-- Whether trying again may help. -/
def ErrorKind.isRetryable (k : ErrorKind) : Bool := k = .externalDependencyFailure

/-- What an attestation error is about. -/
def AttestationError.kind : AttestationError → ErrorKind
  | .statement _ | .certificate _ => .malformedInput
  | .signatureInvalid | .signature _ => .cryptoFailure
  | .requirement _ => .policyViolation
  | .keyMismatch => .protocolMismatch
  | .trustResolution _ => .externalDependencyFailure

/-- What a decoding error is about. A key of an unsupported kind is well-formed. -/
def DecodeError.kind : DecodeError → ErrorKind
  | .key (.unsupported _) => .cryptoFailure
  | _ => .malformedInput

/-- What an error is about. -/
def CeremonyError.kind : CeremonyError → ErrorKind
  | .malformedResponse _ | .malformedClientData _ | .missingAttestedCredential
  | .missingUserHandle => .malformedInput
  | .decode error => error.kind
  | .typeMismatch _ _ | .challengeMismatch | .originMismatch _ | .tokenBindingMismatch
  | .rpIdHashMismatch | .credentialIdMismatch | .unknownCredential | .userHandleMismatch =>
    .protocolMismatch
  | .attestation error => error.kind
  | .signatureInvalid | .signature _ => .cryptoFailure
  | .userPresenceRequired | .userVerificationRequired | .unrequestedAlgorithm _
  | .unsupportedFormat _ | .untrustedAttestation | .alreadyRegistered | .possibleCloning _ _
  | .counterConflict => .policyViolation
  | .repository _ => .externalDependencyFailure

/-! ### What a client is told -/

/-- The answer to a client whose request failed. -/
inductive ErrorCode where
  | invalidRequest
  | ceremonyFailed
  | unavailable
  deriving DecidableEq, Repr

namespace ErrorCode

/-- The code as it is sent. -/
def wireName : ErrorCode → String
  | .invalidRequest => "INVALID_REQUEST"
  | .ceremonyFailed => "CEREMONY_FAILED"
  | .unavailable => "UNAVAILABLE"

/-- The code in a text for people. -/
def label : ErrorCode → String
  | .invalidRequest => "InvalidRequest"
  | .ceremonyFailed => "CeremonyFailed"
  | .unavailable => "Unavailable"

/-- The status of the response that carries the code. -/
def status : ErrorCode → Nat
  | .invalidRequest => 400
  | .ceremonyFailed => 401
  | .unavailable => 503

end ErrorCode

/-- What a client is told. -/
structure ServiceError where
  code : ErrorCode
  message : String
  deriving DecidableEq, Repr

namespace ServiceError

/-- The error as text. -/
def describe (e : ServiceError) : String := s!"{e.code.label}: {e.message}"

/-- The error as it is sent. -/
def toJson (e : ServiceError) : Json :=
  .ofMembers [("code", some (.ofText e.code.wireName)), ("message", some (.ofText e.message))]

/-- What a client is told about errors of a kind. Which step failed is not told. -/
def ofKind : ErrorKind → ServiceError
  | .malformedInput => ⟨.invalidRequest, "Malformed credential response"⟩
  | .externalDependencyFailure => ⟨.unavailable, "Temporarily unavailable, try again"⟩
  | .protocolMismatch | .cryptoFailure | .policyViolation => ⟨.ceremonyFailed, "Ceremony failed"⟩

/-- What a client is told about a failed ceremony. -/
def ofCeremony (e : CeremonyError) : ServiceError := ofKind e.kind

/-- What a client is told about options that cannot be made. -/
def ofOptions (e : OptionsError) : ServiceError := ⟨.invalidRequest, e.message⟩

end ServiceError

end Passkey
