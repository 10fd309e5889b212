import Passkey.Cose.Verify
import Passkey.RelyingParty.Registration

/-!
# Finishing an authentication

The response is read, the credential that it names is looked up, and everything is checked against
the options and that credential. Only then, and only if the signature counter advanced, is the
counter replaced in the repository. The first check that fails decides the error.
-/

namespace Passkey

/-- The steps of an authentication. -/
inductive AssertionStep where
  | parseResponse
  | lookupCredential
  | validateClientData
  | verifyRpIdHash
  | checkUserPresentFlag
  | verifySignature
  | checkSignatureCounter
  deriving DecidableEq, Repr

namespace AssertionStep

/-- The name of a step. -/
def name : AssertionStep → String
  | .parseResponse => "parse-response"
  | .lookupCredential => "lookup-credential"
  | .validateClientData => "validate-client-data"
  | .verifyRpIdHash => "verify-rp-id-hash"
  | .checkUserPresentFlag => "check-user-present-flag"
  | .verifySignature => "verify-signature"
  | .checkSignatureCounter => "check-signature-counter"

/-- The steps in order. -/
def all : List AssertionStep :=
  [.parseResponse, .lookupCredential, .validateClientData, .verifyRpIdHash, .checkUserPresentFlag,
    .verifySignature, .checkSignatureCounter]

end AssertionStep

/-- What is to be said about an authentication that was accepted. -/
inductive AssertionWarning where
  | counterNotAdvanced (stored received : UInt32)
  deriving DecidableEq, Repr

/-- The wording of a warning. -/
def AssertionWarning.message : AssertionWarning → String
  | .counterNotAdvanced stored received =>
    s!"signature counter did not advance: stored {stored.toNat}, received {received.toNat}"

/-- What an authentication results in. -/
structure AssertionResult where
  credentialId : Bytes
  userHandle : Bytes
  signatureCount : UInt32
  /-- Whether the counter advanced, or is not used. -/
  counterValid : Bool
  userVerified : Bool
  backupEligible : Bool
  backedUp : Bool
  warnings : List AssertionWarning
  deriving DecidableEq, Repr

namespace Assertion

/-- A response that was read. -/
structure Read where
  clientData : ClientData
  data : AuthenticatorData
  deriving Repr

/-- Checks that the options accept a credential; a list without members accepts any. -/
def checkAllowed (options : RequestOptions) (id : Bytes) : Except CeremonyError Unit :=
  if options.allowCredentials.isEmpty || options.allowCredentials.any (·.id = id) then .ok ()
  else .error .unknownCredential

/-- Checks that a response says whose the credential is, where any credential is accepted. -/
def checkUserNamed (options : RequestOptions) (response : AssertedCredential) :
    Except CeremonyError Unit :=
  if options.allowCredentials.isEmpty && response.userHandle?.isNone then .error .missingUserHandle
  else .ok ()

/-- Reads a response, and checks that it names a credential that the options accept. -/
def read (options : RequestOptions) (response : AssertedCredential) :
    Except CeremonyError Read := do
  checkId response.id response.rawId
  let clientData ← ClientData.decode response.response.clientData
  let data ← (AuthenticatorData.decode response.response.authenticatorData).mapError .decode
  checkAllowed options response.rawId
  checkUserNamed options response
  return ⟨clientData, data⟩

/-- Checks that a credential belongs to the user that a response names, if it names one. -/
def checkOwner (response : AssertedCredential) (stored : RegisteredCredential) :
    Except CeremonyError Unit :=
  if response.userHandle?.any (· ≠ stored.userHandle) then .error .userHandleMismatch else .ok ()

/-- The identifier that the authenticator should have signed for: the older one if it was offered
and the client says that it was used. -/
def signedRpId (options : RequestOptions) (response : AssertedCredential) : String :=
  let appid? := options.extensions.bind (·.appid)
  match appid?, response.extensions.appid with
  | some appid, some true => appid
  | _, _ => options.rpId

/-- The message under the signature. -/
def signedMessage (data : AuthenticatorData) (clientData : Bytes) : Bytes :=
  data.bytes ++ sha256 clientData

/-- Checks the signature. -/
def checkSignature (key : CoseKey) (message signature : Bytes) : Except CeremonyError Unit :=
  match key.verify message signature with
  | .error e => .error (.signature e)
  | .ok false => .error .signatureInvalid
  | .ok true => .ok ()

/-- Whether a counter advanced, or is not used. -/
def isCounterValid (stored received : UInt32) : Bool :=
  stored < received || (received = 0 && stored = 0)

/-- The warnings about a counter, if the policy accepts it. -/
def checkCounter (policy : CounterPolicy) (stored received : UInt32) :
    Except CeremonyError (List AssertionWarning) :=
  if isCounterValid stored received then .ok []
  else
    match policy with
    | .reject => .error (.possibleCloning stored received)
    | .flagAndAccept => .ok [.counterNotAdvanced stored received]

/-- Makes all checks of a response against the stored credential. -/
def check (config : RelyingPartyConfig) (options : RequestOptions) (response : AssertedCredential)
    (tokenBindingId : Option String) (r : Read) (stored : RegisteredCredential) :
    Except CeremonyError AssertionResult := do
  checkOwner response stored
  r.clientData.check {
    type := .get
    challenge := options.challenge
    origins := config.origins
    tokenBindingId
    tokenBindingPolicy := config.tokenBindingPolicy }
  checkRpIdHash r.data (signedRpId options response)
  checkUser r.data.flags options.userVerification
  checkSignature stored.publicKey (signedMessage r.data response.response.clientData)
    response.response.signature
  let warnings ← checkCounter config.counterPolicy stored.signatureCount r.data.counter
  return {
    credentialId := stored.credentialId
    userHandle := stored.userHandle
    signatureCount := r.data.counter
    counterValid := isCounterValid stored.signatureCount r.data.counter
    userVerified := r.data.flags.userVerified
    backupEligible := r.data.flags.backupEligible
    backedUp := r.data.flags.backedUp
    warnings }

/-- What follows the answer to whether the counter was replaced. -/
def afterUpdate (result : AssertionResult) : Except String Bool → Ceremony AssertionResult
  | .error reason => .fail (.repository reason)
  | .ok false => .fail .counterConflict
  | .ok true => .done (.ok result)

/-- Replaces the stored counter if it advanced. -/
def advanceCounter (stored : RegisteredCredential) (result : AssertionResult) :
    Ceremony AssertionResult :=
  if stored.signatureCount < result.signatureCount then
    .ask (.updateCounter stored.credentialId stored.signatureCount result.signatureCount)
      (afterUpdate result)
  else .done (.ok result)

/-- What follows the answer to the look-up of the credential. -/
def afterLookup (config : RelyingPartyConfig) (options : RequestOptions)
    (response : AssertedCredential) (tokenBindingId : Option String) (r : Read) :
    Except String (Option RegisteredCredential) → Ceremony AssertionResult
  | .error reason => .fail (.repository reason)
  | .ok none => .fail .unknownCredential
  | .ok (some stored) =>
    .attempt (check config options response tokenBindingId r stored) (advanceCounter stored)

end Assertion

open Assertion in
/-- Finishes an authentication. -/
def finishAssertion (config : RelyingPartyConfig) (options : RequestOptions)
    (response : AssertedCredential) (tokenBindingId : Option String) : Ceremony AssertionResult :=
  .attempt (read options response) fun r =>
    .ask (.lookup response.rawId) (afterLookup config options response tokenBindingId r)

end Passkey
