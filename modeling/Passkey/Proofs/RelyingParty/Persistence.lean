import Passkey.Proofs.Authenticator.KeyBytes
import Passkey.Proofs.RelyingParty.RegistrationAcceptance

/-!
# Keeping a registered credential

A relying party keeps a credential as its parts, the key as the bytes that the authenticator wrote.
What an accepted registration returns is what is read back from these parts.
-/

namespace Passkey

variable {σ : Type}

namespace Registration

variable {surroundings : Surroundings σ} {s : σ} {config : RelyingPartyConfig}
  {options : CreationOptions} {response : CreatedCredential} {tokenBindingId : Option String}
  {now : Instant} {result : RegistrationResult}

/-- The bytes kept for the key of an accepted credential decode to that key. -/
theorem key_of_accepted
    (h : ((finishRegistration config options response tokenBindingId now).run surroundings s).result
      = .ok result) :
    CoseKey.decode result.credential.publicKeyBytes = .ok result.credential.publicKey := by
  obtain ⟨clientData, object, attested, verdict, attestation, hp, -, rfl⟩ := accepted h
  obtain ⟨dataBytes, hdata⟩ := AttestationObject.data_of_decode hp.object_read
  obtain ⟨consumed, -, -, hkey⟩ := AuthenticatorData.key_of_decode hdata hp.credential_attested
  exact hkey

end Registration

/-- A record that has a new credential has its key at a place that the header and the identifier
determine. Whatever follows the key, the bytes kept for it decode by themselves to it, so that the
credential of an accepted registration is read back from its parts. -/
theorem registered_credential_restored :
    (∀ bs data attested, AuthenticatorData.decode bs = .ok data → data.attested = some attested →
      let keyAndRest := bs.drop
        (AuthenticatorData.headerSize + 18 + attested.credentialId.length)
      ∃ consumed, CoseKey.decodePrefix keyAndRest = .ok (attested.publicKey, consumed) ∧
        attested.publicKeyBytes = keyAndRest.take consumed ∧
        CoseKey.decode attested.publicKeyBytes = .ok attested.publicKey) ∧
    ∀ (σ : Type) (surroundings : Surroundings σ) (s : σ) (config : RelyingPartyConfig)
      (options : CreationOptions) (response : CreatedCredential) (tokenBindingId : Option String)
      (now : Instant) (result : RegistrationResult),
      ((finishRegistration config options response tokenBindingId now).run surroundings s).result
          = .ok result →
        let c := result.credential
        RegisteredCredential.ofParts c.credentialId c.userHandle c.publicKeyBytes c.signatureCount
          c.aaguid = .ok c := by
  refine ⟨fun bs data attested h ha => AuthenticatorData.key_of_decode h ha, ?_⟩
  intro σ surroundings s config options response tokenBindingId now result h c
  rw [RegisteredCredential.ofParts, Registration.key_of_accepted h]
  rfl

end Passkey
