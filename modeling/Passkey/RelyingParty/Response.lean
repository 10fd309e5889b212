import Passkey.RelyingParty.Options
import Passkey.Text.Base64

/-!
# Responses of clients

What a client sends back to finish a ceremony.
-/

namespace Passkey

/-- The authenticator's part of a response to a registration. -/
structure AttestationResponse where
  clientData : Bytes
  attestationObject : Bytes
  transports : List String
  deriving DecidableEq, Repr

/-- The authenticator's part of a response to an authentication. -/
structure AssertionResponse where
  clientData : Bytes
  authenticatorData : Bytes
  signature : Bytes
  userHandle : Option Bytes
  deriving DecidableEq, Repr

/-- Properties of a new credential. -/
structure CredentialProperties where
  /-- Whether the authenticator keeps the credential. -/
  residentKey : Option Bool
  deriving DecidableEq, Repr

/-- Extension outputs of the client. -/
structure ExtensionOutputs where
  /-- Whether the older identifier was used. -/
  appid : Option Bool
  credProps : Option CredentialProperties
  deriving DecidableEq, Repr

/-- No extension outputs. -/
def ExtensionOutputs.empty : ExtensionOutputs := ⟨none, none⟩

/-- A new credential. -/
structure CreatedCredential where
  /-- The text form of the raw identifier. -/
  id : String
  rawId : Bytes
  response : AttestationResponse
  extensions : ExtensionOutputs
  attachment : Option Attachment
  deriving DecidableEq, Repr

/-- A credential that was used. -/
structure AssertedCredential where
  /-- The text form of the raw identifier. -/
  id : String
  rawId : Bytes
  response : AssertionResponse
  extensions : ExtensionOutputs
  attachment : Option Attachment
  deriving DecidableEq, Repr

/-- The response of these parts. -/
def CreatedCredential.ofParts (rawId clientData attestationObject : Bytes) : CreatedCredential where
  id := Base64.encodeUrl rawId
  rawId
  response := ⟨clientData, attestationObject, []⟩
  extensions := .empty
  attachment := none

/-- The response of these parts. -/
def AssertedCredential.ofParts (rawId clientData authenticatorData signature : Bytes)
    (userHandle : Option Bytes) : AssertedCredential where
  id := Base64.encodeUrl rawId
  rawId
  response := ⟨clientData, authenticatorData, signature, userHandle⟩
  extensions := .empty
  attachment := none

/-- The user handle, unless it is empty. -/
def AssertedCredential.userHandle? (c : AssertedCredential) : Option Bytes :=
  c.response.userHandle.filter (!·.isEmpty)

/-- Checks that an identifier is the text form of a raw identifier, perhaps with padding. -/
def checkId (id : String) (rawId : Bytes) : Except CeremonyError Unit :=
  if Base64.decodeUrl? id = some rawId then .ok () else .error .idMismatch

end Passkey
