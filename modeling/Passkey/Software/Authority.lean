import Passkey.Attestation.AndroidKey
import Passkey.Digest.Sha1
import Passkey.Software.SigningKey
import Passkey.X509.NameText
import Passkey.X509.Writing

/-!
# A certificate authority in software

Issues the certificates that attestations are made with: roots, authorities below them, and leaves
with the extensions that attestation formats look at. Keys are drawn from seeds. Nothing is issued
where a name cannot be read or a validity cannot be written.
-/

namespace Passkey

open X509

/-- What a certificate entitles its subject to. -/
inductive CertificateProfile where
  | root
  | intermediate (pathLength : Option UInt8)
  | endEntity
  deriving DecidableEq, Repr

/-- The seconds from the first to the last of a validity, since 1970. -/
structure Validity where
  notBefore : Nat
  notAfter : Nat
  deriving DecidableEq, Repr

/-- The seconds of a year. -/
def secondsPerYear : Nat := 365 * 24 * 60 * 60

/-- A year from a moment on. -/
def Validity.yearFrom (now : Nat) : Validity := ⟨now, now + secondsPerYear⟩

namespace CertificateProfile

/-- Identifier of the extension that identifies the subject's key. -/
def subjectKeyId : Oid := .ofArcs [2, 5, 29, 14]

/-- Identifier of the extension that identifies the issuer's key. -/
def authorityKeyId : Oid := .ofArcs [2, 5, 29, 35]

/-- Identifier of the extension that says what the key may be used for. -/
def keyUsageId : Oid := .ofArcs [2, 5, 29, 15]

/-- The basic constraints of a profile. -/
def constraints : CertificateProfile → BasicConstraints
  | .root => ⟨true, none⟩
  | .intermediate pathLength => ⟨true, pathLength.map UInt8.toNat⟩
  | .endEntity => ⟨false, none⟩

/-- What the key may be used for: signing certificates and revocations, or signing and committing
to messages. -/
def keyUsage : CertificateProfile → Der.BitString
  | .root | .intermediate _ => ⟨1, [0x06]⟩
  | .endEntity => ⟨6, [0xc0]⟩

/-- The extensions that every certificate of a profile has. -/
def extensions (p : CertificateProfile) (subject issuer : SigningKey) : List Extension :=
  let keyId := sha1 subject.octets
  let issuerId := Der.sequence [Der.tlv (Der.Tag.contextPrimitive 0) (sha1 issuer.octets)]
  ⟨subjectKeyId, false, Der.octetString keyId⟩
    :: (if p = .root then [] else [⟨authorityKeyId, false, issuerId⟩])
    ++ [⟨basicConstraintsId, true, p.constraints.write⟩, ⟨keyUsageId, true, p.keyUsage.write⟩]

end CertificateProfile

/-- The algorithm that certificates are signed with. -/
def certificateAlgorithm : AlgorithmId := ⟨.ofArcs [1, 2, 840, 10045, 4, 3, 2], none⟩

/-- The public key of a key in software. -/
def SigningKey.info (k : SigningKey) : PublicKeyInfo where
  algorithm := ⟨Certificate.ecPublicKeyId,
    some ⟨Der.Tag.objectIdentifier, (Oid.ofArcs [1, 2, 840, 10045, 3, 1, 7]).octets⟩⟩
  key := ⟨0, k.octets⟩

/-- What is needed to issue a certificate. -/
structure CertificateRequest where
  profile : CertificateProfile
  serial : Bytes
  validity : Validity
  issuer : Name
  subject : Name
  subjectKey : SigningKey
  /-- Extensions after those of the profile. -/
  extensions : List Extension

/-- The octets of the certificate that is asked for, signed by the issuer's key. -/
def CertificateRequest.issue? (r : CertificateRequest) (issuerKey : SigningKey) : Option Bytes := do
  let signed ← SignedPart.write? {
    version := .v3
    serial := r.serial
    issuer := r.issuer
    notBefore := r.validity.notBefore
    notAfter := r.validity.notAfter
    subject := r.subject
    keyInfo := r.subjectKey.info
    extensions := r.profile.extensions r.subjectKey issuerKey ++ r.extensions } certificateAlgorithm
  let signature ← issuerKey.sign? signed
  return writeCertificate signed certificateAlgorithm signature

/-- A leaf to be issued. -/
structure LeafRequest where
  key : SigningKey
  /-- The text of a name, or nothing for the name without levels. -/
  subject : String
  serial : UInt8
  validity : Option Validity
  aaguid : Option Aaguid
  keyDescription : Option Bytes
  extendedKeyUsage : List Oid

/-- The leaf that holds this key and has all else at its default. -/
def LeafRequest.holding (key : SigningKey) : LeafRequest where
  key
  subject := ""
  serial := 1
  validity := none
  aaguid := none
  keyDescription := none
  extendedKeyUsage := []

/-- The extensions that a leaf is given beside those of its profile. -/
def LeafRequest.extensions (l : LeafRequest) : List Extension :=
  (l.aaguid.map fun a => ⟨aaguidId, false, Der.octetString a.bytes⟩).toList
    ++ (l.keyDescription.map fun d => ⟨Attestation.keyDescriptionId, false, d⟩).toList
    ++ if l.extendedKeyUsage.isEmpty then []
      else [⟨extendedKeyUsageId, false, Der.sequence (l.extendedKeyUsage.map Oid.write)⟩]

/-- An authority: whoever has a key and a certificate for it. -/
structure CertificateAuthority where
  key : SigningKey
  name : Name
  certificate : Bytes

namespace CertificateAuthority

/-- The serial number that goes with a seed. -/
def seedSerial (seed : UInt64) : Bytes := 0x01 :: Bytes.ofNat 8 seed.toNat

/-- The name that consists of a common name. -/
def commonName? (name : String) : Option Name := Name.ofText? ("CN=" ++ name)

/-- A root, which issues its own certificate. -/
def root? (seed : UInt64) (name : String) (now : Nat) : Option CertificateAuthority := do
  let key ← SigningKey.ofSeed? seed
  let name ← commonName? name
  let certificate ← CertificateRequest.issue?
    ⟨.root, seedSerial seed, .yearFrom now, name, name, key, []⟩ key
  return ⟨key, name, certificate⟩

/-- Issues a certificate to another authority, or to an end entity that has the key to act as
one. -/
def issueAuthority? (issuer : CertificateAuthority) (profile : CertificateProfile) (seed : UInt64)
    (name : String) (now : Nat) : Option CertificateAuthority := do
  let key ← SigningKey.ofSeed? seed
  let name ← commonName? name
  let certificate ← CertificateRequest.issue?
    ⟨profile, seedSerial seed, .yearFrom now, issuer.name, name, key, []⟩ issuer.key
  return ⟨key, name, certificate⟩

/-- Issues a leaf. -/
def issueLeaf? (issuer : CertificateAuthority) (leaf : LeafRequest) (now : Nat) : Option Bytes := do
  let subject ← if leaf.subject.isEmpty then some ⟨[]⟩ else Name.ofText? leaf.subject
  let validity := leaf.validity.getD (.yearFrom now)
  CertificateRequest.issue?
    ⟨.endEntity, [0x10, leaf.serial], validity, issuer.name, subject, leaf.key, leaf.extensions⟩
    issuer.key

end CertificateAuthority

end Passkey
