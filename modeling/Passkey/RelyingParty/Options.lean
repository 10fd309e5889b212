import Passkey.RelyingParty.Identity
import Passkey.Random.Source

/-!
# Ceremony options

What a relying party sends to the client to start a ceremony, the requests that options are made
from, and the making itself: a fresh challenge, and a list of credentials without repetitions.
-/

namespace Passkey

/-- How a client may reach an authenticator. -/
inductive Transport where
  | usb
  | nfc
  | ble
  | smartCard
  | hybrid
  | internal
  deriving DecidableEq, Repr

/-- Whether the user must be verified. -/
inductive UserVerification where
  | required
  | preferred
  | discouraged
  deriving DecidableEq, Repr

/-- Whether the authenticator should keep the credential. -/
inductive ResidentKey where
  | discouraged
  | preferred
  | required
  deriving DecidableEq, Repr

/-- Whether an authenticator is built in or roams. -/
inductive Attachment where
  | platform
  | crossPlatform
  deriving DecidableEq, Repr

/-- How much attestation is wanted. -/
inductive AttestationPreference where
  | none
  | indirect
  | direct
  | enterprise
  deriving DecidableEq, Repr

/-- A credential that exists. -/
structure CredentialDescriptor where
  id : Bytes
  transports : Option (List Transport)
  deriving DecidableEq, Repr

/-- What is asked of an authenticator at registration. -/
structure AuthenticatorSelection where
  attachment : Option Attachment
  residentKey : Option ResidentKey
  /-- The older form of requiring that the credential is kept. -/
  requireResidentKey : Bool
  userVerification : UserVerification
  deriving DecidableEq, Repr

/-- Extension inputs at registration. -/
structure RegistrationExtensions where
  /-- The older identifier whose credentials should be excluded. -/
  appidExclude : Option String
  /-- Whether to report properties of the credential. -/
  credProps : Option Bool
  deriving DecidableEq, Repr

/-- Extension inputs at authentication. -/
structure AssertionExtensions where
  /-- The older identifier under which a credential may have been registered. -/
  appid : Option String
  deriving DecidableEq, Repr

/-- Options for creating a credential. -/
structure CreationOptions where
  rp : RelyingPartyIdentity
  user : UserIdentity
  challenge : Bytes
  /-- The acceptable algorithms, most preferred first. -/
  algorithms : List CoseAlgorithm
  /-- A hint in milliseconds. -/
  timeout : Option UInt64
  excludeCredentials : List CredentialDescriptor
  selection : Option AuthenticatorSelection
  attestation : AttestationPreference
  extensions : Option RegistrationExtensions
  deriving DecidableEq, Repr

/-- Whether the user must be verified; preferred unless the options say otherwise. -/
def CreationOptions.userVerification (o : CreationOptions) : UserVerification :=
  (o.selection.map (·.userVerification)).getD .preferred

/-- Options for using a credential. -/
structure RequestOptions where
  challenge : Bytes
  /-- A hint in milliseconds. -/
  timeout : Option UInt64
  rpId : String
  /-- The acceptable credentials. If there are none, any credential of the user is. -/
  allowCredentials : List CredentialDescriptor
  userVerification : UserVerification
  extensions : Option AssertionExtensions
  deriving DecidableEq, Repr

/-! ### Making options -/

/-- A challenge's length where none is configured. -/
def defaultChallengeLength : UInt64 := 32

/-- What options for creating a credential are made from. -/
structure RegistrationRequest where
  rp : RelyingPartyIdentity
  user : UserIdentity
  algorithms : List CoseAlgorithm
  excludeCredentials : List CredentialDescriptor
  selection : Option AuthenticatorSelection
  attestation : AttestationPreference
  extensions : Option RegistrationExtensions
  timeout : Option UInt64
  challengeLength : UInt64
  deriving DecidableEq, Repr

/-- What options for using a credential are made from. -/
structure AssertionRequest where
  rpId : String
  allowCredentials : List CredentialDescriptor
  userVerification : UserVerification
  extensions : Option AssertionExtensions
  timeout : Option UInt64
  challengeLength : UInt64
  deriving DecidableEq, Repr

/-- The request that offers these algorithms and has all else at its default. -/
def RegistrationRequest.offering (rp : RelyingPartyIdentity) (user : UserIdentity)
    (algorithms : List CoseAlgorithm) : RegistrationRequest where
  rp
  user
  algorithms
  excludeCredentials := []
  selection := none
  attestation := .none
  extensions := none
  timeout := none
  challengeLength := defaultChallengeLength

/-- The request for this relying party that has all else at its default. -/
def AssertionRequest.scoped (rpId : String) : AssertionRequest where
  rpId
  allowCredentials := []
  userVerification := .preferred
  extensions := none
  timeout := none
  challengeLength := defaultChallengeLength

/-- The descriptors whose identifier is not among those seen. The first with an identifier stays. -/
def dedupFrom (seen : List Bytes) : List CredentialDescriptor → List CredentialDescriptor
  | [] => []
  | d :: rest =>
    if seen.contains d.id then dedupFrom seen rest else d :: dedupFrom (d.id :: seen) rest

/-- The descriptors without repetitions of an identifier. -/
def dedup (descriptors : List CredentialDescriptor) : List CredentialDescriptor :=
  dedupFrom [] descriptors

variable {σ : Type}

/-- A fresh challenge. One that is too short is refused before anything is drawn. -/
def freshChallenge (random : RandomSource σ) (s : σ) (length : UInt64) :
    Except OptionsError Bytes × σ :=
  if length.toNat < minChallengeLength then (.error (.challengeTooShort length.toNat), s)
  else
    let (challenge, s) := random.draw s length.toNat
    (.ok challenge, s)

/-- The options of a request with this challenge. -/
def RegistrationRequest.options (r : RegistrationRequest) (challenge : Bytes) :
    CreationOptions where
  rp := r.rp
  user := r.user
  challenge
  algorithms := r.algorithms
  timeout := r.timeout
  excludeCredentials := dedup r.excludeCredentials
  selection := r.selection
  attestation := r.attestation
  extensions := r.extensions

/-- The options of a request with this challenge. -/
def AssertionRequest.options (r : AssertionRequest) (challenge : Bytes) : RequestOptions where
  challenge
  timeout := r.timeout
  rpId := r.rpId
  allowCredentials := dedup r.allowCredentials
  userVerification := r.userVerification
  extensions := r.extensions

/-- Starts a registration. -/
def startRegistration (random : RandomSource σ) (s : σ) (r : RegistrationRequest) :
    Except OptionsError CreationOptions × σ :=
  let (challenge, s) := freshChallenge random s r.challengeLength
  (challenge.map r.options, s)

/-- Starts an authentication. -/
def startAssertion (random : RandomSource σ) (s : σ) (r : AssertionRequest) :
    Except OptionsError RequestOptions × σ :=
  let (challenge, s) := freshChallenge random s r.challengeLength
  (challenge.map r.options, s)

/-- A user with a handle drawn at random. -/
def UserIdentity.generate (random : RandomSource σ) (s : σ) (name displayName : String) :
    UserIdentity × σ :=
  have h : (random.draw s generatedHandleLength).1.length = generatedHandleLength :=
    random.length_draw s generatedHandleLength
  (⟨(random.draw s generatedHandleLength).1, name, displayName,
    fun hn => by rw [hn] at h; exact absurd h (by decide),
    by rw [h]; decide⟩,
    (random.draw s generatedHandleLength).2)

end Passkey
