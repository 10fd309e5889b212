import Passkey.Attestation.Statement

/-!
# The TPM format

A statement of two structures: a public area, which describes the credential's key, and a
certification of that area by a key of the TPM. Numbers are big-endian and byte strings come after
their length in two octets.
-/

namespace Passkey.Attestation

/-- A reader of one of the structures: takes octets off the front or fails. -/
abbrev TpmReader := StateT Bytes (Except StatementDefect)

namespace TpmReader

/-- The next `n` octets. -/
def octets (s : TpmStructure) (n : Nat) : TpmReader Bytes := fun input =>
  match input.split? n with
  | some (head, rest) => .ok (head, rest)
  | none => .error (.truncated s)

/-- The number in the next `n` octets. -/
def number (s : TpmStructure) (n : Nat) : TpmReader Nat := do return Bytes.toNat (← octets s n)

/-- A byte string after its length. -/
def sized (s : TpmStructure) : TpmReader Bytes := do octets s (← number s 2)

/-- The identifier that stands for no algorithm. -/
def nullAlgorithm : Nat := 0x0010

/-- An algorithm's identifier and, unless it stands for none, `details` octets about it. -/
def scheme (s : TpmStructure) (details : Nat) : TpmReader Unit := do
  if (← number s 2) ≠ nullAlgorithm then
    discard (octets s details)

/-- Nothing may be left. -/
def finish (s : TpmStructure) : TpmReader Unit := fun input =>
  match input with
  | [] => .ok ((), [])
  | _ :: _ => .error (.overlong s)

end TpmReader

open TpmReader

/-- A public area, as far as it is looked at. -/
structure PublicArea where
  /-- Identifier of the hash function in the area's name. -/
  nameAlgorithm : Nat
  key : PublicKey
  deriving DecidableEq, Repr

/-- Octets about a symmetric algorithm: key size and mode. -/
def symmetricDetails : Nat := 4

/-- Octets about a signing or derivation scheme: its hash function. -/
def schemeDetails : Nat := 2

/-- The exponent where the area gives none. -/
def defaultExponent : Nat := 65537

/-- The curve with this identifier. -/
def tpmCurve (id : Nat) : Except StatementDefect Curve :=
  if id = 3 then .ok .p256 else if id = 4 then .ok .p384 else if id = 5 then .ok .p521
  else .error (.tpmCurve id)

/-- The RSA key of an area: key size, exponent and modulus. -/
def readRsaKey : TpmReader PublicKey := do
  scheme .pubArea symmetricDetails
  scheme .pubArea schemeDetails
  let _ ← number .pubArea 2
  let e ← number .pubArea 4
  let n ← sized .pubArea
  let exponent := if e = 0 then defaultExponent else e
  match PublicKey.ofRsa n (Bytes.ofNat 4 exponent) with
  | .ok key => return key
  | .error _ => throw .tpmRsaKey

/-- The key of an area on a prime curve: curve, derivation scheme and coordinates. -/
def readEccKey : TpmReader PublicKey := do
  scheme .pubArea symmetricDetails
  scheme .pubArea schemeDetails
  let curve ← tpmCurve (← number .pubArea 2)
  scheme .pubArea schemeDetails
  let x ← sized .pubArea
  let y ← sized .pubArea
  match PublicKey.ofOctets curve (0x04 :: x ++ y) with
  | .ok key => return key
  | .error _ => throw .tpmPoint

/-- The key of an area of this type. -/
def readTpmKey (type : Nat) : TpmReader PublicKey :=
  if type = 0x0001 then readRsaKey
  else if type = 0x0023 then readEccKey
  else throw (.tpmKeyType type)

/-- A public area: type, name algorithm, attributes, policy, and key. -/
def readPublicArea : TpmReader PublicArea := do
  let type ← number .pubArea 2
  let nameAlgorithm ← number .pubArea 2
  let _ ← octets .pubArea 4
  let _ ← sized .pubArea
  let key ← readTpmKey type
  finish .pubArea
  return ⟨nameAlgorithm, key⟩

/-- Reads a public area that spans all of the bytes. -/
def PublicArea.decode (bs : Bytes) : Except StatementDefect PublicArea :=
  (readPublicArea.run bs).map (·.1)

/-- A certification, as far as it is looked at. -/
structure CertifyInfo where
  magic : Nat
  type : Nat
  extraData : Bytes
  /-- The name of the area that is certified. -/
  name : Bytes
  deriving DecidableEq, Repr

/-- A certification: magic, type, signer, extra data, clock, firmware, name, and qualified name. -/
def readCertifyInfo : TpmReader CertifyInfo := do
  let magic ← number .certInfo 4
  let type ← number .certInfo 2
  let _ ← sized .certInfo
  let extraData ← sized .certInfo
  let _ ← octets .certInfo 17
  let _ ← octets .certInfo 8
  let name ← sized .certInfo
  let _ ← sized .certInfo
  finish .certInfo
  return ⟨magic, type, extraData, name⟩

/-- Reads a certification that spans all of the bytes. -/
def CertifyInfo.decode (bs : Bytes) : Except StatementDefect CertifyInfo :=
  (readCertifyInfo.run bs).map (·.1)

/-- What a certification made by a TPM starts with. -/
def generatedMagic : Nat := 0xff544347

/-- The type of certifications of a key. -/
def certifyType : Nat := 0x8017

/-- The hash function with this identifier. -/
def tpmHash? (id : Nat) : Option Hash :=
  if id = 0x000b then some .sha256
  else if id = 0x000c then some .sha384
  else if id = 0x000d then some .sha512
  else none

/-- The name of a public area: the algorithm's identifier and the digest. -/
def areaName (algorithm : Nat) (area : Bytes) : Except StatementDefect Bytes :=
  match tpmHash? algorithm with
  | some hash => .ok (Bytes.ofNat 2 algorithm ++ hash.digest area)
  | none => .error (.tpmNameAlgorithm algorithm)

/-- Requires that a certification is about this area and this message. -/
def requireCertified (info : CertifyInfo) (algorithm : CoseAlgorithm) (message : Bytes)
    (nameAlgorithm : Nat) (area : Bytes) : Except StatementDefect Unit := do
  if info.magic ≠ generatedMagic then throw .tpmMagic
  if info.type ≠ certifyType then throw .tpmAttestationType
  match algorithm.hash? with
  | none => throw (.noDigest algorithm)
  | some hash =>
    if info.extraData ≠ hash.digest message then throw .tpmExtraData
    if info.name ≠ (← areaName nameAlgorithm area) then throw .tpmName

/-- The purpose of certificates of attestation keys. -/
def attestationKeyPurpose : Oid := .ofArcs [2, 23, 133, 8, 3]

/-- Requires that a certificate is one of an attestation key. -/
def requireAttestationKey (leaf : X509.Certificate) : Except AttestationError Unit := do
  if !leaf.hasEmptySubject then throw (.requirement .emptySubject)
  if !(← leaf.extendedKeyUsage.mapError .certificate).contains attestationKeyPurpose then
    throw (.requirement .purpose)

/-- Verifies a TPM statement. -/
def verifyTpm (s : AttestationStatement) (context : AttestationContext) :
    Except AttestationError StatementVerdict := do
  if s.text? "ver" ≠ some "2.0" then throw (.statement .tpmVersion)
  let algorithm ← s.algorithm
  let signature ← s.signature
  let trustPath ← s.certificates
  let certInfo ← AttestationStatement.require "certInfo" (s.bytes? "certInfo")
  let pubArea ← AttestationStatement.require "pubArea" (s.bytes? "pubArea")
  let area ← (PublicArea.decode pubArea).mapError .statement
  let credential ← context.credential
  if area.key ≠ credential.publicKey.key then throw .keyMismatch
  let info ← (CertifyInfo.decode certInfo).mapError .statement
  (requireCertified info algorithm context.message area.nameAlgorithm pubArea).mapError .statement
  let leaf ← leafOf trustPath
  leaf.requireSigned algorithm certInfo signature
  leaf.requireLeaf context
  requireAttestationKey leaf
  return StatementVerdict.basic trustPath

end Passkey.Attestation
