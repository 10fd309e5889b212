import Passkey.Attestation.Tpm
import Passkey.Proofs.Cose.GenuineKeys
import Passkey.Proofs.Cose.RoundTrip

/-!
# Keys that were received can be used

A key reaches the library as a point, as two numbers, as DER, in a map, in a certificate, or in the
public area of a TPM. Each of these ways ends in a checked constructor (`PublicKey.Built`), so the
octets that are kept of the key are those of a key. A check of a signature may then still fail
because the algorithm is not supported or does not fit the key, and never because of the key itself.
-/

namespace Passkey

/-! ### Keys in certificates -/

namespace X509.Certificate

variable {key : PublicKey}

theorem built_of_ecKey {parameters : Option Der.Element} {octets : Bytes}
    (h : ecKey parameters octets = .ok key) : key.Built := by
  unfold ecKey at h
  split at h
  · cases h
  · split at h
    · cases h
    · exact .ofOctets (mapError_eq_ok.1 h)

theorem built_of_publicKey {c : Certificate} (h : c.publicKey = .ok key) : key.Built := by
  simp only [publicKey] at h
  split at h
  · exact built_of_ecKey h
  · split at h
    · exact CoseKey.built_of_ofRsaDer (mapError_eq_ok.1 h)
    · obtain ⟨-, h⟩ := require_eq_ok.1 h
      exact .ofEd25519 (mapError_eq_ok.1 h)

end X509.Certificate

/-! ### Keys in public areas -/

namespace Attestation

namespace TpmReader

variable {α β : Type}

/-- Whatever the reader takes off an input has this property. -/
def Yields (r : TpmReader α) (p : α → Prop) : Prop :=
  ∀ input a rest, r.run input = .ok (a, rest) → p a

variable {p : β → Prop}

theorem yields_pure {b : β} (h : p b) : Yields (pure b) p := by
  intro input a rest ha
  cases ha
  exact h

theorem yields_throw (e : StatementDefect) : Yields (throw e) p := by
  intro input a rest ha
  cases ha

/-- A reader may rely on what the one before it yields. -/
theorem Yields.bind {r : TpmReader α} {q : α → Prop} {f : α → TpmReader β} (hr : r.Yields q)
    (hf : ∀ a, q a → Yields (f a) p) : Yields (r >>= f) p := by
  intro input b rest hb
  rw [StateT.run_bind] at hb
  obtain ⟨⟨a, middle⟩, ha, hb⟩ := bind_eq_ok.1 hb
  exact hf a (hr input a middle ha) middle b rest hb

/-- Often the last reader of a sequence decides alone. -/
theorem yields_bind {r : TpmReader α} {f : α → TpmReader β} (hf : ∀ a, Yields (f a) p) :
    Yields (r >>= f) p :=
  Yields.bind (q := fun _ => True) (fun _ _ _ _ => trivial) fun a _ => hf a

end TpmReader

open TpmReader

theorem yields_readRsaKey : readRsaKey.Yields PublicKey.Built := by
  unfold readRsaKey
  refine yields_bind fun _ => yields_bind fun _ => yields_bind fun _ => yields_bind fun e =>
    yields_bind fun n => ?_
  dsimp only
  split
  · next key hkey => exact yields_pure (.ofRsa hkey)
  · exact yields_throw _

theorem yields_readEccKey : readEccKey.Yields PublicKey.Built := by
  unfold readEccKey
  refine yields_bind fun _ => yields_bind fun _ => yields_bind fun _ => yields_bind fun curve =>
    yields_bind fun _ => yields_bind fun x => yields_bind fun y => ?_
  split
  · next key hkey => exact yields_pure (.ofOctets hkey)
  · exact yields_throw _

theorem yields_readTpmKey (type : Nat) : (readTpmKey type).Yields PublicKey.Built := by
  unfold readTpmKey
  split
  · exact yields_readRsaKey
  · split
    · exact yields_readEccKey
    · exact yields_throw _

theorem yields_readPublicArea : readPublicArea.Yields fun area => area.key.Built := by
  unfold readPublicArea
  refine yields_bind fun type => yields_bind fun nameAlgorithm => yields_bind fun _ =>
    yields_bind fun _ => (yields_readTpmKey type).bind fun key hkey => ?_
  exact yields_bind fun _ => yields_pure hkey

theorem PublicArea.built_of_decode {bs : Bytes} {area : PublicArea}
    (h : PublicArea.decode bs = .ok area) : area.key.Built := by
  obtain ⟨⟨found, rest⟩, hread, rfl⟩ := map_eq_ok.1 h
  exact yields_readPublicArea bs found rest hread

end Attestation

/-! ### Checking with a key that was received -/

namespace PublicKey

variable {key : PublicKey}

/-- The ways in which a key is received: the octets of a point, two numbers, DER, an encoded point
of the Edwards curve, the map that authenticators send, alone or at the front of other bytes, a
certificate, and the public area of a TPM. -/
inductive Received : PublicKey → Prop where
  | octets {curve : Curve} {octets : Bytes} {key : PublicKey} (h : ofOctets curve octets = .ok key) :
    Received key
  | rsa {n e : Bytes} {key : PublicKey} (h : ofRsa n e = .ok key) : Received key
  | rsaDer {der : Bytes} {key : PublicKey} (h : ofRsaDer der = .ok key) : Received key
  | ed25519 {octets : Bytes} {key : PublicKey} (h : ofEd25519 octets = .ok key) : Received key
  | decoded {bs : Bytes} {k : CoseKey} (h : CoseKey.decode bs = .ok k) : Received k.key
  | front {bs : Bytes} {k : CoseKey} {consumed : Nat}
    (h : CoseKey.decodePrefix bs = .ok (k, consumed)) : Received k.key
  | certificate {c : X509.Certificate} {key : PublicKey} (h : c.publicKey = .ok key) : Received key
  | publicArea {bs : Bytes} {area : Attestation.PublicArea}
    (h : Attestation.PublicArea.decode bs = .ok area) : Received area.key

theorem Received.built (h : key.Received) : key.Built := by
  cases h with
  | octets h => exact .ofOctets h
  | rsa h => exact .ofRsa h
  | rsaDer h => exact CoseKey.built_of_ofRsaDer h
  | ed25519 h => exact .ofEd25519 h
  | decoded h => exact (CoseKey.built_of_decode h).key
  | front h => exact (CoseKey.built_of_decode (CoseKey.decode_take_of_decodePrefix h)).key
  | certificate h => exact X509.Certificate.built_of_publicKey h
  | publicArea h => exact Attestation.PublicArea.built_of_decode h

/-- The key of a new credential was received. -/
theorem Received.of_attested {bs : Bytes} {data : AuthenticatorData}
    {credential : AttestedCredential} (h : AuthenticatorData.decode bs = .ok data)
    (hattested : data.attested = some credential) : credential.publicKey.key.Received := by
  obtain ⟨-, -, -, hkey⟩ := AuthenticatorData.key_of_decode h hattested
  exact .decoded hkey

theorem verify_ne_invalidKey (h : key.Usable) (algorithm : CoseAlgorithm)
    (message signature : Bytes) : key.verify algorithm message signature ≠ .error .invalidKey := by
  intro herror
  cases verify_eq_error_iff.1 herror with
  | invalid hfits hkey => exact hkey (usable_iff_genuine.1 h)

/-- Where the algorithm names the digest only, a check is one of a signature by the point of the key,
or it fails because the algorithm is not for such keys. -/
theorem verifyAnyCurve_cases (key : PublicKey) (algorithm : CoseAlgorithm)
    (message signature : Bytes) :
    (∃ curve x y, ∃ hash : Hash, key = .ec2 curve x y ∧
      key.verifyAnyCurve algorithm message signature =
        verifyEcdsaDigest curve x y (hash.digest message) signature) ∨
      ∃ e, e ≠ SignatureError.invalidKey ∧
        key.verifyAnyCurve algorithm message signature = .error e := by
  cases key with
  | ec2 curve x y =>
    cases algorithm with
    | es256 => exact Or.inl ⟨curve, x, y, .sha256, rfl, rfl⟩
    | es384 => exact Or.inl ⟨curve, x, y, .sha384, rfl, rfl⟩
    | es512 => exact Or.inl ⟨curve, x, y, .sha512, rfl, rfl⟩
    | _ => exact Or.inr ⟨_, by simp, rfl⟩
  | rsa n e => cases algorithm <;> exact Or.inr ⟨_, by simp, rfl⟩
  | ed25519 x => cases algorithm <;> exact Or.inr ⟨_, by simp, rfl⟩

theorem verifyAnyCurve_ne_invalidKey (h : key.Usable) (algorithm : CoseAlgorithm)
    (message signature : Bytes) :
    key.verifyAnyCurve algorithm message signature ≠ .error .invalidKey := by
  rcases key.verifyAnyCurve_cases algorithm message signature with
    ⟨curve, x, y, hash, rfl, hcheck⟩ | ⟨e, he, hcheck⟩
  · obtain ⟨good, hgood⟩ := verifyEcdsaDigest_of_usable h (hash.digest message) signature
    simp [hcheck, hgood]
  · simp [hcheck, he]

/-- However a key was received, no check of a signature with it fails because of the key, neither
where the algorithm names the curve nor where it names the digest only. -/
theorem received_key_never_invalid (key : PublicKey) (h : key.Received) (algorithm : CoseAlgorithm)
    (message signature : Bytes) :
    key.verify algorithm message signature ≠ .error .invalidKey ∧
      key.verifyAnyCurve algorithm message signature ≠ .error .invalidKey := by
  have husable : key.Usable := h.built.usable
  constructor
  · exact verify_ne_invalidKey husable algorithm message signature
  · exact verifyAnyCurve_ne_invalidKey husable algorithm message signature

/-- The base point of P-256 by its first coordinate and the parity of the second. -/
def compressedBase : Bytes :=
  0x03 :: Curve.p256.coordinate 0x6b17d1f2e12c4247f8bce6e563a440f277037d812deb33a0f4a13945d898c296

/-- The key at the base point of P-256. -/
def baseKey : PublicKey :=
  .ec2 .p256
    (Curve.p256.coordinate 0x6b17d1f2e12c4247f8bce6e563a440f277037d812deb33a0f4a13945d898c296)
    (Curve.p256.coordinate 0x4fe342e2fe1a7f9b8ee7eb4a7c0f9e162bce33576b315ececbb6406837bf51f5)

/-- The public area of a short RSA key that leaves the exponent at its default. -/
def defaultExponentArea : Bytes :=
  [0x00, 0x01, 0x00, 0x0b, 0x00, 0x00, 0x00, 0x00, 0x00, 0x00, 0x00, 0x10, 0x00, 0x10, 0x08, 0x00,
    0x00, 0x00, 0x00, 0x00, 0x00, 0x04, 0x00, 0x01, 0x00, 0x03]

/-- Neither does one whose second coordinate is a root that had to be found, nor one whose exponent
was not sent. -/
theorem compressed_and_default_keys_never_invalid :
    (ofOctets .p256 compressedBase = .ok baseKey ∧
      ∀ algorithm message signature,
        baseKey.verify algorithm message signature ≠ .error .invalidKey ∧
          baseKey.verifyAnyCurve algorithm message signature ≠ .error .invalidKey) ∧
    Attestation.PublicArea.decode defaultExponentArea =
        .ok ⟨0x000b, .rsa [0x01, 0x00, 0x03] [0x01, 0x00, 0x01]⟩ ∧
      ∀ algorithm message signature,
        (rsa [0x01, 0x00, 0x03] [0x01, 0x00, 0x01]).verify algorithm message signature
            ≠ .error .invalidKey ∧
          (rsa [0x01, 0x00, 0x03] [0x01, 0x00, 0x01]).verifyAnyCurve algorithm message signature
            ≠ .error .invalidKey := by
  have hbase : ofOctets .p256 compressedBase = .ok baseKey := by decide +kernel
  have harea : Attestation.PublicArea.decode defaultExponentArea =
      .ok ⟨0x000b, .rsa [0x01, 0x00, 0x03] [0x01, 0x00, 0x01]⟩ := by decide +kernel
  refine ⟨⟨hbase, ?_⟩, harea, ?_⟩
  · exact received_key_never_invalid baseKey (.octets hbase)
  · exact received_key_never_invalid _ (.publicArea harea)

end PublicKey

end Passkey
