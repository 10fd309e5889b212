import Passkey.RelyingParty.Options
import Passkey.Wire.Scalar

/-!
# Options on the wire

The JSON forms of ceremony options and their parts, in the member names that browsers use.
-/

namespace Passkey

open Wire Json

instance : Named Transport where
  name
    | .usb => "usb"
    | .nfc => "nfc"
    | .ble => "ble"
    | .smartCard => "smart-card"
    | .hybrid => "hybrid"
    | .internal => "internal"
  members := [.usb, .nfc, .ble, .smartCard, .hybrid, .internal]

instance : Named UserVerification where
  name
    | .required => "required"
    | .preferred => "preferred"
    | .discouraged => "discouraged"
  members := [.required, .preferred, .discouraged]

instance : Named ResidentKey where
  name
    | .discouraged => "discouraged"
    | .preferred => "preferred"
    | .required => "required"
  members := [.discouraged, .preferred, .required]

instance : Named Attachment where
  name
    | .platform => "platform"
    | .crossPlatform => "cross-platform"
  members := [.platform, .crossPlatform]

instance : Named AttestationPreference where
  name
    | .none => "none"
    | .indirect => "indirect"
    | .direct => "direct"
    | .enterprise => "enterprise"
  members := [.none, .indirect, .direct, .enterprise]

namespace RelyingPartyIdentity

def toJson (i : RelyingPartyIdentity) : Json :=
  ofMembers [("id", some (ofText i.id)), ("name", some (ofText i.name))]

def ofJson? (j : Json) : Option RelyingPartyIdentity := do
  let r ← j.record? ["id", "name"]
  return ⟨← r.required? "id" text?, ← r.required? "name" text?⟩

end RelyingPartyIdentity

namespace UserIdentity

def toJson (u : UserIdentity) : Json :=
  ofMembers
    [("id", some (ofBytes u.id)), ("name", some (ofText u.name)),
      ("displayName", some (ofText u.displayName))]

/-- Reads a user, whose handle must be of a proper length. -/
def ofJson? (j : Json) : Option UserIdentity := do
  let r ← j.record? ["id", "name", "displayName"]
  let id ← r.required? "id" bytes?
  let name ← r.required? "name" text?
  let displayName ← r.required? "displayName" text?
  (UserIdentity.ofHandle id name displayName).toOption

end UserIdentity

namespace CredentialDescriptor

def toJson (d : CredentialDescriptor) : Json :=
  ofMembers
    [("type", some (ofText credentialType)), ("id", some (ofBytes d.id)),
      ("transports", d.transports.map (ofList ofNamed))]

def ofJson? (j : Json) : Option CredentialDescriptor := do
  let r ← j.record? ["type", "id", "transports"]
  r.required? "type" credentialType?
  return ⟨← r.required? "id" bytes?, ← r.optional? "transports" (list? named?)⟩

end CredentialDescriptor

/-- An algorithm that is offered, as it travels in options. -/
def Wire.ofParameters (a : CoseAlgorithm) : Json :=
  ofMembers [("type", some (ofText credentialType)), ("alg", some (ofAlgorithm a))]

/-- Reads an algorithm that is offered. -/
def Wire.parameters? (j : Json) : Option CoseAlgorithm := do
  let r ← j.record? ["type", "alg"]
  r.required? "type" credentialType?
  r.required? "alg" algorithm?

namespace AuthenticatorSelection

def toJson (s : AuthenticatorSelection) : Json :=
  ofMembers
    [("authenticatorAttachment", s.attachment.map ofNamed),
      ("residentKey", s.residentKey.map ofNamed),
      ("requireResidentKey", some (.bool s.requireResidentKey)),
      ("userVerification", some (ofNamed s.userVerification))]

def ofJson? (j : Json) : Option AuthenticatorSelection := do
  let r ← j.record?
    ["authenticatorAttachment", "residentKey", "requireResidentKey", "userVerification"]
  return {
    attachment := ← r.optional? "authenticatorAttachment" named?
    residentKey := ← r.optional? "residentKey" named?
    requireResidentKey := ← r.withDefault? "requireResidentKey" false bool?
    userVerification := ← r.withDefault? "userVerification" .preferred named? }

end AuthenticatorSelection

namespace RegistrationExtensions

def toJson (e : RegistrationExtensions) : Json :=
  ofMembers [("appidExclude", e.appidExclude.map ofText), ("credProps", e.credProps.map .bool)]

def ofJson? (j : Json) : Option RegistrationExtensions := do
  let r ← j.record? ["appidExclude", "credProps"]
  return ⟨← r.optional? "appidExclude" text?, ← r.optional? "credProps" bool?⟩

end RegistrationExtensions

namespace AssertionExtensions

def toJson (e : AssertionExtensions) : Json := ofMembers [("appid", e.appid.map ofText)]

def ofJson? (j : Json) : Option AssertionExtensions := do
  let r ← j.record? ["appid"]
  return ⟨← r.optional? "appid" text?⟩

end AssertionExtensions

/-- A list that is left out where it is empty. -/
def Wire.unlessEmpty {α : Type} (write : α → Json) (items : List α) : Option Json :=
  if items.isEmpty then none else some (ofList write items)

namespace CreationOptions

/-- The members of creation options, in their declared order. -/
def memberNames : List String :=
  ["rp", "user", "challenge", "pubKeyCredParams", "timeout", "excludeCredentials",
    "authenticatorSelection", "attestation", "extensions"]

def toJson (o : CreationOptions) : Json :=
  ofMembers
    [("rp", some o.rp.toJson), ("user", some o.user.toJson),
      ("challenge", some (ofBytes o.challenge)),
      ("pubKeyCredParams", some (ofList ofParameters o.algorithms)),
      ("timeout", o.timeout.map ofWord),
      ("excludeCredentials", unlessEmpty CredentialDescriptor.toJson o.excludeCredentials),
      ("authenticatorSelection", o.selection.map AuthenticatorSelection.toJson),
      ("attestation", some (ofNamed o.attestation)),
      ("extensions", o.extensions.map RegistrationExtensions.toJson)]

def ofJson? (j : Json) : Option CreationOptions := do
  let r ← j.record? memberNames
  return {
    rp := ← r.required? "rp" RelyingPartyIdentity.ofJson?
    user := ← r.required? "user" UserIdentity.ofJson?
    challenge := ← r.required? "challenge" bytes?
    algorithms := ← r.required? "pubKeyCredParams" (list? parameters?)
    timeout := ← r.optional? "timeout" word?
    excludeCredentials :=
      ← r.withDefault? "excludeCredentials" [] (list? CredentialDescriptor.ofJson?)
    selection := ← r.optional? "authenticatorSelection" AuthenticatorSelection.ofJson?
    attestation := ← r.withDefault? "attestation" .none named?
    extensions := ← r.optional? "extensions" RegistrationExtensions.ofJson? }

end CreationOptions

namespace RequestOptions

/-- The members of request options, in their declared order. -/
def memberNames : List String :=
  ["challenge", "timeout", "rpId", "allowCredentials", "userVerification", "extensions"]

def toJson (o : RequestOptions) : Json :=
  ofMembers
    [("challenge", some (ofBytes o.challenge)), ("timeout", o.timeout.map ofWord),
      ("rpId", some (ofText o.rpId)),
      ("allowCredentials", unlessEmpty CredentialDescriptor.toJson o.allowCredentials),
      ("userVerification", some (ofNamed o.userVerification)),
      ("extensions", o.extensions.map AssertionExtensions.toJson)]

def ofJson? (j : Json) : Option RequestOptions := do
  let r ← j.record? memberNames
  return {
    challenge := ← r.required? "challenge" bytes?
    timeout := ← r.optional? "timeout" word?
    rpId := ← r.required? "rpId" text?
    allowCredentials := ← r.withDefault? "allowCredentials" [] (list? CredentialDescriptor.ofJson?)
    userVerification := ← r.withDefault? "userVerification" .preferred named?
    extensions := ← r.optional? "extensions" AssertionExtensions.ofJson? }

end RequestOptions

end Passkey
