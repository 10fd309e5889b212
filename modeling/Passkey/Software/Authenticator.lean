import Passkey.Authenticator.AttestationObject
import Passkey.Software.SigningKey

/-!
# An authenticator in software

Holds one credential, whose key is drawn from a seed, and answers as a device would.
-/

namespace Passkey

/-- An authenticator. -/
structure SoftwareAuthenticator where
  key : SigningKey
  credentialId : Bytes
  aaguid : Aaguid
  deriving DecidableEq, Repr

/-- The bytes that an authenticator signs for an authentication. -/
def signedData (data clientData : Bytes) : Bytes := data ++ sha256 clientData

namespace SoftwareAuthenticator

/-- The model that authenticators in software report. -/
def defaultAaguid : Aaguid where
  bytes :=
    [0x6d, 0x44, 0xba, 0x9b, 0xf6, 0xec, 0x2e, 0x49, 0xb9, 0x30, 0x0c, 0x8f, 0xe9, 0x20, 0xcb, 0x73]
  size := rfl

/-- The authenticator whose key is drawn from a seed, which also is every byte of the credential's
identifier. -/
def ofSeed? (seed : UInt8) : Option SoftwareAuthenticator :=
  (SigningKey.ofSeed? seed.toUInt64).map fun key => ⟨key, List.replicate 16 seed, defaultAaguid⟩

/-- The identifier of the algorithm of every credential. -/
def algorithm : CoseAlgorithm := .es256

/-- The credential's public key. -/
def publicKey (a : SoftwareAuthenticator) : Bytes :=
  (CoseKey.ec2Value algorithm.id Curve.p256.id a.key.publicX a.key.publicY).write

/-- Authenticator data for a registration. The flag that announces the credential is always set. -/
def registrationData (a : SoftwareAuthenticator) (rpId : String) (flags : UInt8)
    (counter : UInt32) : Bytes :=
  AuthenticatorData.write rpId (flags ||| AuthenticatorFlags.attestedMask) counter
    (AuthenticatorData.writeAttested a.aaguid.bytes a.credentialId a.publicKey) []

/-- Authenticator data for an authentication. -/
def assertionData (rpId : String) (flags : UInt8) (counter : UInt32) : Bytes :=
  AuthenticatorData.write rpId flags counter [] []

/-- The signature over authenticator data and client data. -/
def assert? (a : SoftwareAuthenticator) (data clientData : Bytes) : Option Bytes :=
  a.key.sign? (signedData data clientData)

/-- An attestation object that attests nothing. -/
def noneAttestation (data : Bytes) : Bytes := AttestationObject.write "none" data []

/-- An attestation object that the credential's own key signs. -/
def selfAttestation? (a : SoftwareAuthenticator) (data clientData : Bytes) : Option Bytes :=
  (a.assert? data clientData).map fun signature =>
    AttestationObject.write "packed" data
      [(.text "alg", .int algorithm.id), (.text "sig", .bytes signature)]

end SoftwareAuthenticator

end Passkey
