import Passkey.RelyingParty.ClientData
import Passkey.RelyingParty.Options

/-!
# Configuration of a relying party
-/

namespace Passkey

/-- What to do about a signature counter that did not advance. -/
inductive CounterPolicy where
  | reject
  | flagAndAccept
  deriving DecidableEq, Repr

/-- What to do about attestation formats that are not understood. -/
inductive UnknownAttestationPolicy where
  | acceptUncertain
  | reject
  deriving DecidableEq, Repr

/-- A configuration. -/
structure RelyingPartyConfig where
  identity : RelyingPartyIdentity
  /-- The origins from which responses are accepted. -/
  origins : OriginSet
  challengeLength : UInt64
  /-- The algorithms to offer, most preferred first. -/
  preferredAlgorithms : List CoseAlgorithm
  timeout : Option UInt64
  attestation : AttestationPreference
  tokenBindingPolicy : TokenBindingPolicy
  counterPolicy : CounterPolicy
  unknownAttestation : UnknownAttestationPolicy
  /-- Whether attestations that no trusted root backs are accepted. -/
  allowUntrustedAttestation : Bool
  deriving DecidableEq, Repr

namespace RelyingPartyConfig

/-- The algorithms to offer where none are configured. -/
def defaultAlgorithms : List CoseAlgorithm := [.es256, .edDsa, .rs256]

/-- The configuration for these origins that has all else at its default. -/
def ofOrigins (identity : RelyingPartyIdentity) (origins : List String) : RelyingPartyConfig where
  identity
  origins := .ofList origins
  challengeLength := defaultChallengeLength
  preferredAlgorithms := defaultAlgorithms
  timeout := none
  attestation := .none
  tokenBindingPolicy := .reject
  counterPolicy := .reject
  unknownAttestation := .acceptUncertain
  allowUntrustedAttestation := true

/-- The request for a registration of this user. -/
def registrationRequest (c : RelyingPartyConfig) (user : UserIdentity) : RegistrationRequest :=
  { RegistrationRequest.offering c.identity user c.preferredAlgorithms with
    attestation := c.attestation
    timeout := c.timeout
    challengeLength := c.challengeLength }

/-- The request for an authentication. -/
def assertionRequest (c : RelyingPartyConfig) : AssertionRequest :=
  { AssertionRequest.scoped c.identity.id with
    timeout := c.timeout
    challengeLength := c.challengeLength }

end RelyingPartyConfig

end Passkey
