import Passkey.Attestation.Trust
import Passkey.Attestation.Verify
import Passkey.RelyingParty.Ceremony
import Passkey.RelyingParty.Config
import Passkey.RelyingParty.Response
import Passkey.Wire.ClientData

/-!
# Finishing a registration

The response is read and checked against the options that it answers; then the trust in its
attestation is evaluated, and last the repository is asked whether the credential is new. Nothing is
written. The first check that fails decides the error.
-/

namespace Passkey

/-- The steps of a registration. -/
inductive RegistrationStep where
  | parseResponse
  | validateClientData
  | verifyRpIdHash
  | checkUserPresentFlag
  | parseAttestedCredentialData
  | dispatchAttestationVerifier
  | checkCredentialIdUnique
  deriving DecidableEq, Repr

namespace RegistrationStep

/-- The name of a step. -/
def name : RegistrationStep → String
  | .parseResponse => "parse-response"
  | .validateClientData => "validate-client-data"
  | .verifyRpIdHash => "verify-rp-id-hash"
  | .checkUserPresentFlag => "check-user-present-flag"
  | .parseAttestedCredentialData => "parse-attested-credential-data"
  | .dispatchAttestationVerifier => "dispatch-attestation-verifier"
  | .checkCredentialIdUnique => "check-credential-id-unique"

/-- The steps in order. -/
def all : List RegistrationStep :=
  [.parseResponse, .validateClientData, .verifyRpIdHash, .checkUserPresentFlag,
    .parseAttestedCredentialData, .dispatchAttestationVerifier, .checkCredentialIdUnique]

end RegistrationStep

/-- Checks that a record is for the relying party with this identifier. -/
def checkRpIdHash (data : AuthenticatorData) (rpId : String) : Except CeremonyError Unit :=
  if data.rpIdHash = sha256 (Utf8.encode rpId) then .ok () else .error .rpIdHashMismatch

/-- Checks that the user was present and, if that is required, was verified. -/
def checkUser (flags : AuthenticatorFlags) (verification : UserVerification) :
    Except CeremonyError Unit :=
  if !flags.userPresent then .error .userPresenceRequired
  else if verification = .required ∧ !flags.userVerified then .error .userVerificationRequired
  else .ok ()

/-- What a registration results in. -/
structure RegistrationResult where
  credential : RegisteredCredential
  attestation : AttestationVerdict
  userVerified : Bool
  backupEligible : Bool
  backedUp : Bool
  deriving Repr

/-- What stood in the way of trust but not of the registration. -/
def RegistrationResult.warnings (r : RegistrationResult) : List TrustWarning :=
  r.attestation.warnings

namespace Registration

/-- A response that passed all checks that need no one else. -/
structure Checked where
  data : AuthenticatorData
  attested : AttestedCredential
  format : AttestationFormat
  verdict : StatementVerdict
  deriving Repr

/-- The new credential, which must be the one that the client names and have a key for one of the
algorithms offered. -/
def newCredential (options : CreationOptions) (rawId : Bytes) (data : AuthenticatorData) :
    Except CeremonyError AttestedCredential :=
  match data.attested with
  | none => .error .missingAttestedCredential
  | some attested =>
    if attested.credentialId ≠ rawId then .error .credentialIdMismatch
    else if !options.algorithms.contains attested.publicKey.algorithm then
      .error (.unrequestedAlgorithm attested.publicKey.algorithm)
    else .ok attested

/-- The format of a statement, which the policy may require to be known. -/
def acceptedFormat (policy : UnknownAttestationPolicy) (name : String) :
    Except CeremonyError AttestationFormat :=
  let format := AttestationFormat.ofName name
  if !format.isKnown ∧ policy = .reject then .error (.unsupportedFormat name) else .ok format

/-- Makes all checks that need no one else. -/
def check (config : RelyingPartyConfig) (options : CreationOptions) (response : CreatedCredential)
    (tokenBindingId : Option String) : Except CeremonyError Checked := do
  checkId response.id response.rawId
  let clientData ← ClientData.decode response.response.clientData
  let object ←
    (AttestationObject.decode response.response.attestationObject).mapError .decode
  clientData.check {
    type := .create
    challenge := options.challenge
    origins := config.origins
    tokenBindingId
    tokenBindingPolicy := config.tokenBindingPolicy }
  checkRpIdHash object.data options.rp.id
  checkUser object.data.flags options.userVerification
  let attested ← newCredential options response.rawId object.data
  let format ← acceptedFormat config.unknownAttestation object.format
  let verdict ← (Attestation.verifyStatement format object.statement
    ⟨object.data, sha256 response.response.clientData⟩).mapError .attestation
  return ⟨object.data, attested, format, verdict⟩

/-- The model that roots are looked up for; an authenticator that does not name its model has
none. -/
def Checked.model (c : Checked) : Option Aaguid :=
  if c.attested.aaguid = Aaguid.zero then none else some c.attested.aaguid

/-- The result, with the user from the options and the trust that was found. -/
def Checked.result (c : Checked) (user : UserIdentity) (attestation : AttestationVerdict) :
    RegistrationResult where
  credential := {
    credentialId := c.attested.credentialId
    userHandle := user.id
    publicKey := c.attested.publicKey
    publicKeyBytes := c.attested.publicKeyBytes
    signatureCount := c.data.counter
    aaguid := c.attested.aaguid }
  attestation
  userVerified := c.data.flags.userVerified
  backupEligible := c.data.flags.backupEligible
  backedUp := c.data.flags.backedUp

/-- Evaluates the trust in a response. Roots are looked up only where they are needed. -/
def evaluate {α : Type} (c : Checked) (now : Instant)
    (next : AttestationVerdict → Ceremony α) : Ceremony α :=
  if c.verdict.needsRoots then
    .ask (.trustRoots c.model c.format) fun
      | none => next (c.verdict.withoutRoots c.format)
      | some (.ok roots) => next (c.verdict.withRoots c.format roots now)
      | some (.error reason) => .fail (.attestation (.trustResolution reason))
  else next (c.verdict.withoutRoots c.format)

/-- Asks whether the credential is new, if the policy accepts what is known about its attestation. -/
def Checked.register (c : Checked) (config : RelyingPartyConfig) (user : UserIdentity)
    (attestation : AttestationVerdict) : Ceremony RegistrationResult :=
  if !attestation.trustworthy && !config.allowUntrustedAttestation then .fail .untrustedAttestation
  else
    .ask (.isRegistered c.attested.credentialId) fun
      | .error reason => .fail (.repository reason)
      | .ok true => .fail .alreadyRegistered
      | .ok false => .done (.ok (c.result user attestation))

end Registration

open Registration in
/-- Finishes a registration. -/
def finishRegistration (config : RelyingPartyConfig) (options : CreationOptions)
    (response : CreatedCredential) (tokenBindingId : Option String) (now : Instant) :
    Ceremony RegistrationResult :=
  .attempt (check config options response tokenBindingId) fun checked =>
    evaluate checked now (checked.register config options.user)

end Passkey
