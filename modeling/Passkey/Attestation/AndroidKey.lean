import Passkey.Attestation.Statement

/-!
# The Android key format

The credential's key is the leaf's key, and an extension of the leaf describes how it was made. The
challenge in that description must be the hash of the client data.
-/

namespace Passkey.Attestation

/-- Identifier of the key description. -/
def keyDescriptionId : Oid := .ofArcs [1, 3, 6, 1, 4, 1, 11129, 2, 1, 17]

/-- The challenge in a key description, its fifth field. -/
def attestationChallenge? (description : Bytes) : Option Bytes := do
  match ← (← Der.element? description).sequence? with
  | _ :: _ :: _ :: _ :: challenge :: _ => challenge.octetString?
  | _ => none

/-- A key description with this challenge and no restrictions: versions and security levels of the
statement and of the key store, the challenge, an empty identifier, and two empty lists. -/
def keyDescription (challenge : Bytes) : Bytes :=
  Der.sequence
    [Der.tlv Der.Tag.integer [3], Der.tlv Der.Tag.enumerated [1], Der.tlv Der.Tag.integer [4],
      Der.tlv Der.Tag.enumerated [1], Der.octetString challenge, Der.octetString [],
      Der.sequence [], Der.sequence []]

/-- Requires that the leaf's description holds this challenge. -/
def requireChallenge (leaf : X509.Certificate) (challenge : Bytes) :
    Except AttestationError Unit :=
  match leaf.extension? keyDescriptionId with
  | none => .error (.requirement .keyDescription)
  | some description =>
    match attestationChallenge? description with
    | none => .error (.requirement .readableKeyDescription)
    | some found => if found = challenge then .ok () else .error (.requirement .challenge)

/-- Verifies an Android key statement. -/
def verifyAndroidKey (s : AttestationStatement) (context : AttestationContext) :
    Except AttestationError StatementVerdict := do
  let algorithm ← s.algorithm
  let signature ← s.signature
  let trustPath ← s.certificates
  let leaf ← leafOf trustPath
  leaf.requireSigned algorithm context.message signature
  let credential ← context.credential
  if (← leaf.attestationKey) ≠ credential.publicKey.key then throw .keyMismatch
  requireChallenge leaf context.clientDataHash
  return StatementVerdict.basic trustPath

end Passkey.Attestation
