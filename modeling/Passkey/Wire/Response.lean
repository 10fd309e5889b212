import Passkey.RelyingParty.Response
import Passkey.Wire.Options

/-!
# Responses on the wire

The JSON forms of what clients send back.
-/

namespace Passkey

open Wire Json

namespace AttestationResponse

def toJson (r : AttestationResponse) : Json :=
  ofMembers
    [("clientDataJSON", some (ofBytes r.clientData)),
      ("attestationObject", some (ofBytes r.attestationObject)),
      ("transports", unlessEmpty ofText r.transports)]

def ofJson? (j : Json) : Option AttestationResponse := do
  let r ← j.record? ["clientDataJSON", "attestationObject", "transports"]
  return ⟨← r.required? "clientDataJSON" bytes?, ← r.required? "attestationObject" bytes?,
    ← r.withDefault? "transports" [] (list? text?)⟩

end AttestationResponse

namespace AssertionResponse

def toJson (r : AssertionResponse) : Json :=
  ofMembers
    [("clientDataJSON", some (ofBytes r.clientData)),
      ("authenticatorData", some (ofBytes r.authenticatorData)),
      ("signature", some (ofBytes r.signature)), ("userHandle", r.userHandle.map ofBytes)]

def ofJson? (j : Json) : Option AssertionResponse := do
  let r ← j.record? ["clientDataJSON", "authenticatorData", "signature", "userHandle"]
  return ⟨← r.required? "clientDataJSON" bytes?, ← r.required? "authenticatorData" bytes?,
    ← r.required? "signature" bytes?, ← r.optional? "userHandle" bytes?⟩

end AssertionResponse

namespace CredentialProperties

def toJson (p : CredentialProperties) : Json := ofMembers [("rk", p.residentKey.map .bool)]

def ofJson? (j : Json) : Option CredentialProperties := do
  let r ← j.record? ["rk"]
  return ⟨← r.optional? "rk" bool?⟩

end CredentialProperties

namespace ExtensionOutputs

def toJson (e : ExtensionOutputs) : Json :=
  ofMembers
    [("appid", e.appid.map .bool), ("credProps", e.credProps.map CredentialProperties.toJson)]

def ofJson? (j : Json) : Option ExtensionOutputs := do
  let r ← j.record? ["appid", "credProps"]
  return ⟨← r.optional? "appid" bool?, ← r.optional? "credProps" CredentialProperties.ofJson?⟩

end ExtensionOutputs

/-- The members of a response, in their declared order. -/
def Wire.responseMembers : List String :=
  ["id", "rawId", "response", "type", "clientExtensionResults", "authenticatorAttachment"]

namespace CreatedCredential

def toJson (c : CreatedCredential) : Json :=
  ofMembers
    [("id", some (ofText c.id)), ("rawId", some (ofBytes c.rawId)),
      ("response", some c.response.toJson), ("type", some (ofText credentialType)),
      ("clientExtensionResults", some c.extensions.toJson),
      ("authenticatorAttachment", c.attachment.map ofNamed)]

def ofJson? (j : Json) : Option CreatedCredential := do
  let r ← j.record? responseMembers
  r.required? "type" credentialType?
  return {
    id := ← r.required? "id" text?
    rawId := ← r.required? "rawId" bytes?
    response := ← r.required? "response" AttestationResponse.ofJson?
    extensions := ← r.withDefault? "clientExtensionResults" .empty ExtensionOutputs.ofJson?
    attachment := ← r.optional? "authenticatorAttachment" named? }

end CreatedCredential

namespace AssertedCredential

def toJson (c : AssertedCredential) : Json :=
  ofMembers
    [("id", some (ofText c.id)), ("rawId", some (ofBytes c.rawId)),
      ("response", some c.response.toJson), ("type", some (ofText credentialType)),
      ("clientExtensionResults", some c.extensions.toJson),
      ("authenticatorAttachment", c.attachment.map ofNamed)]

def ofJson? (j : Json) : Option AssertedCredential := do
  let r ← j.record? responseMembers
  r.required? "type" credentialType?
  return {
    id := ← r.required? "id" text?
    rawId := ← r.required? "rawId" bytes?
    response := ← r.required? "response" AssertionResponse.ofJson?
    extensions := ← r.withDefault? "clientExtensionResults" .empty ExtensionOutputs.ofJson?
    attachment := ← r.optional? "authenticatorAttachment" named? }

end AssertedCredential

end Passkey
