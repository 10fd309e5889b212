import Passkey.Authenticator.Data

/-!
# Registered credentials
-/

namespace Passkey

/-- A credential as it is kept after its registration. -/
structure RegisteredCredential where
  credentialId : Bytes
  /-- The handle of the user that it belongs to. -/
  userHandle : Bytes
  publicKey : CoseKey
  /-- The key as the authenticator wrote it. -/
  publicKeyBytes : Bytes
  /-- The last signature counter that was seen. -/
  signatureCount : UInt32
  aaguid : Aaguid
  deriving DecidableEq, Repr

/-- The credential that was kept as these parts, the key as its bytes. -/
def RegisteredCredential.ofParts (credentialId userHandle publicKeyBytes : Bytes)
    (signatureCount : UInt32) (aaguid : Aaguid) : Except KeyError RegisteredCredential := do
  let publicKey ← CoseKey.decode publicKeyBytes
  return ⟨credentialId, userHandle, publicKey, publicKeyBytes, signatureCount, aaguid⟩

end Passkey
