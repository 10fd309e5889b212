import Passkey.Proofs.Attestation.Checks
import Passkey.Proofs.Attestation.ReceivedKeys
import Passkey.Proofs.Authenticator.ObjectRoundTrip

/-!
# Which U2F statements are verified

The one certificate of a U2F statement signs a registration: five parts, one after another, and no
length in between. Four of the parts have a fixed width, which leaves the credential's identifier as
the only one that can be of any length, so the signed message still says what each part is
(`U2fRegistration.message_inj`). A statement is verified exactly if its certificate and the credential
have keys on the right curve and that message is signed (`u2f_decided`).
-/

namespace Passkey

open X509 (Certificate)

namespace Attestation

variable {s : AttestationStatement} {context : AttestationContext} {v : StatementVerdict}
  {path : List Certificate} {certificate : Certificate}

/-! ### The message -/

/-- What a registration message is put together from. All parts but the identifier are of one
width. -/
structure U2fRegistration where
  rpIdHash : Bytes
  clientDataHash : Bytes
  credentialId : Bytes
  x : Bytes
  y : Bytes
  rpIdHash_length : rpIdHash.length = 32
  clientDataHash_length : clientDataHash.length = 32
  x_length : x.length = 32
  y_length : y.length = 32

namespace U2fRegistration

variable {r r' : U2fRegistration}

/-- The message about the registration. -/
def message (r : U2fRegistration) : Bytes :=
  u2fMessage r.rpIdHash r.clientDataHash r.credentialId r.x r.y

/-- A message is about one registration only. The widths in front of the identifier and behind it are
known, so it is told apart from both sides. -/
theorem message_inj (h : r.message = r'.message) : r = r' := by
  obtain ⟨rpIdHash, clientDataHash, credentialId, x, y, hrp, hclient, hx, hy⟩ := r
  obtain ⟨rpIdHash', clientDataHash', credentialId', x', y', hrp', hclient', hx', hy'⟩ := r'
  simp only [message, u2fMessage, List.cons_append, List.append_assoc, List.cons.injEq,
    true_and] at h
  obtain ⟨rfl, hclients⟩ := List.append_inj h (hrp.trans hrp'.symm)
  obtain ⟨rfl, hids⟩ := List.append_inj hclients (hclient.trans hclient'.symm)
  have hpoint : (0x04 :: (x ++ y)).length = (0x04 :: (x' ++ y')).length := by
    simp [hx, hx', hy, hy']
  obtain ⟨rfl, hpoints⟩ := List.append_inj' hids hpoint
  obtain ⟨rfl, rfl⟩ := List.append_inj (List.cons.inj hpoints).2 (hx.trans hx'.symm)
  rfl

end U2fRegistration

/-- What was decoded with a key on P-256 is of the widths that the message counts on. -/
theorem widths_of_decode {bs : Bytes} {data : AuthenticatorData} {credential : AttestedCredential}
    {x y : Bytes} (hdata : AuthenticatorData.decode bs = .ok data)
    (hattested : data.attested = some credential)
    (hkey : credential.publicKey.key = .ec2 .p256 x y) :
    data.rpIdHash.length = 32 ∧ x.length = 32 ∧ y.length = 32 := by
  obtain ⟨p, hp, hd, -⟩ := AuthenticatorData.decode_eq_ok.1 hdata
  have hcanonical := (PublicKey.Received.of_attested hdata hattested).built.canonical
  rw [hkey] at hcanonical
  obtain ⟨hx, hy, -⟩ := hcanonical
  exact ⟨hd.rpIdHash_eq ▸ hp.hash_length, hx, hy⟩

/-! ### The statement -/

/-- What is required of a U2F statement, with its signature, its certificate, the credential and the
coordinates of the credential's key. -/
structure U2fAttests (s : AttestationStatement) (context : AttestationContext) (signature : Bytes)
    (certificate : Certificate) (credential : AttestedCredential) (x y : Bytes) : Prop where
  signature_member : s.get? "sig" = some (.bytes signature)
  brought : s.Brings [certificate]
  certificate_curve : ∃ x y, certificate.publicKey = .ok (.ec2 .p256 x y)
  attested : context.data.attested = some credential
  credential_key : credential.publicKey.key = .ec2 .p256 x y
  signed : certificate.Verifies .es256
    (0x00 :: context.data.rpIdHash ++ context.clientDataHash ++ credential.credentialId
      ++ 0x04 :: x ++ y) signature

theorem u2fCertificate_eq_ok :
    u2fCertificate path = .ok certificate ↔
      path = [certificate] ∧ ∃ x y, certificate.publicKey = .ok (.ec2 .p256 x y) := by
  unfold u2fCertificate
  constructor
  · intro h
    split at h
    · next c =>
      obtain ⟨key, hkey, h⟩ := bind_eq_ok.1 h
      split at h
      · obtain rfl := pure_eq_ok.1 h
        exact ⟨rfl, _, _, mapError_eq_ok.1 hkey⟩
      · cases h
    · cases h
  · rintro ⟨rfl, x, y, hkey⟩
    exact bind_eq_ok.2 ⟨_, mapError_eq_ok.2 hkey, rfl⟩

theorem verifyU2f_eq_ok :
    verifyU2f s context = .ok v ↔
      ∃ signature certificate credential x y,
        U2fAttests s context signature certificate credential x y ∧ v = .basic [certificate] := by
  simp only [verifyU2f, bind_eq_ok, AttestationStatement.signature_eq_ok,
    AttestationStatement.certificates_eq_ok, u2fCertificate_eq_ok,
    AttestationContext.credential_eq_ok]
  constructor
  · rintro ⟨signature, hsignature, _, hpath, certificate, ⟨rfl, hcurve⟩, credential, hattested, h⟩
    split at h
    · next x y hkey =>
      simp only [bind_eq_ok, exists_unit, Certificate.requireSigned_eq_ok, pure_eq_ok] at h
      obtain ⟨hsigned, rfl⟩ := h
      exact ⟨signature, certificate, credential, x, y,
        ⟨hsignature, hpath, hcurve, hattested, hkey, hsigned⟩, rfl⟩
    · cases h
  · rintro ⟨signature, certificate, credential, x, y, h, rfl⟩
    refine ⟨signature, h.signature_member, [certificate], h.brought, certificate,
      ⟨rfl, h.certificate_curve⟩, credential, h.attested, ?_⟩
    simp only [h.credential_key]
    exact bind_eq_ok.2 ⟨(), Certificate.requireSigned_eq_ok.2 h.signed, rfl⟩

/-- A U2F statement is verified exactly if its one certificate has a key on P-256 that signs the
registration of a credential on P-256, and then rests on that certificate. The message that is signed
is about one registration only: decoded data with such a key and a hash of the client data of the
right size are determined by it, with an identifier of whatever length. -/
theorem u2f_decided :
    (∀ (s : AttestationStatement) (context : AttestationContext) (v : StatementVerdict),
      verifyStatement .fidoU2f s context = .ok v ↔
        ∃ signature certificate credential x y,
          U2fAttests s context signature certificate credential x y ∧
            v = .basic [certificate]) ∧
    ∀ (bs bs' hash hash' x y x' y' : Bytes) (data data' : AuthenticatorData)
      (credential credential' : AttestedCredential),
      AuthenticatorData.decode bs = .ok data → data.attested = some credential →
      credential.publicKey.key = .ec2 .p256 x y → hash.length = 32 →
      AuthenticatorData.decode bs' = .ok data' → data'.attested = some credential' →
      credential'.publicKey.key = .ec2 .p256 x' y' → hash'.length = 32 →
      u2fMessage data.rpIdHash hash credential.credentialId x y =
        u2fMessage data'.rpIdHash hash' credential'.credentialId x' y' →
      data.rpIdHash = data'.rpIdHash ∧ hash = hash' ∧
        credential.credentialId = credential'.credentialId ∧
        credential.publicKey.key = credential'.publicKey.key := by
  refine ⟨fun s context v => verifyU2f_eq_ok, ?_⟩
  intro bs bs' hash hash' x y x' y' data data' credential credential' hdata hattested hkey hhash
    hdata' hattested' hkey' hhash' hmessage
  obtain ⟨hrp, hx, hy⟩ := widths_of_decode hdata hattested hkey
  obtain ⟨hrp', hx', hy'⟩ := widths_of_decode hdata' hattested' hkey'
  let r : U2fRegistration :=
    ⟨data.rpIdHash, hash, credential.credentialId, x, y, hrp, hhash, hx, hy⟩
  let r' : U2fRegistration :=
    ⟨data'.rpIdHash, hash', credential'.credentialId, x', y', hrp', hhash', hx', hy'⟩
  have hsame : r = r' := U2fRegistration.message_inj hmessage
  obtain ⟨hrpId, hclient, hid, rfl, rfl⟩ := U2fRegistration.mk.inj hsame
  exact ⟨hrpId, hclient, hid, hkey.trans hkey'.symm⟩

/-- A credential with the key at the base point of P-256. -/
def baseCredential : AttestedCredential :=
  let key : CoseKey := ⟨.es256, PublicKey.baseKey⟩
  ⟨.zero, [7], key, key.encode⟩

/-- The record of that credential with a counter. -/
def baseRecord (counter : UInt32) : Bytes :=
  AuthenticatorData.write "example.com" 0x41 counter
    (AuthenticatorData.writeAttested baseCredential.aaguid.bytes baseCredential.credentialId
      baseCredential.publicKeyBytes) []

theorem decode_baseRecord (counter : UInt32) : AuthenticatorData.decode (baseRecord counter) =
    .ok ⟨baseRecord counter, sha256 (Utf8.encode "example.com"), ⟨0x41⟩, counter,
      some baseCredential, none⟩ := by
  have hkey : CoseKey.decode baseCredential.publicKeyBytes = .ok baseCredential.publicKey := by
    decide +kernel
  exact AuthenticatorData.decode_write "example.com" counter
    (some ⟨.zero, [7], baseCredential.publicKeyBytes⟩) rfl rfl
    (.some ⟨by decide, rfl, rfl, hkey, rfl⟩)

/-- The message leaves the counter out, so two records of one credential have one message. It is
about the party, the identifier and the key that they share. -/
theorem message_of_counters :
    let hash : Bytes := List.replicate 32 1
    ∃ (data data' : AuthenticatorData) (x y : Bytes),
      AuthenticatorData.decode (baseRecord 1) = .ok data ∧
      AuthenticatorData.decode (baseRecord 2) = .ok data' ∧
      data.counter ≠ data'.counter ∧
      baseCredential.publicKey.key = .ec2 .p256 x y ∧
      u2fMessage data.rpIdHash hash baseCredential.credentialId x y =
        u2fMessage data'.rpIdHash hash baseCredential.credentialId x y ∧
      data.rpIdHash = data'.rpIdHash := by
  intro hash
  have hfirst := decode_baseRecord 1
  have hsecond := decode_baseRecord 2
  refine ⟨_, _, _, _, hfirst, hsecond, by decide, rfl, rfl, ?_⟩
  exact (u2f_decided.2 _ _ hash hash _ _ _ _ _ _ _ _ hfirst rfl rfl List.length_replicate
    hsecond rfl rfl List.length_replicate rfl).1

end Attestation

end Passkey
