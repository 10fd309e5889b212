import Passkey.X509.Certificate

/-!
# Writing certificates

The octets of the signed part of a certificate and of a whole one. Times are written in the short
type, so years after 2049 cannot be written.
-/

namespace Passkey

/-- The element that holds a string of bits. -/
def Der.BitString.write (b : Der.BitString) : Bytes :=
  Der.tlv Der.Tag.bitString (UInt8.ofNat b.unused :: b.octets)

namespace X509

/-- The octets of an algorithm and its parameters. -/
def AlgorithmId.write (a : AlgorithmId) : Bytes :=
  Der.sequence [a.algorithm.write, (a.parameters.map Der.Element.write).getD []]

/-- The octets of a public key. -/
def PublicKeyInfo.write (k : PublicKeyInfo) : Bytes :=
  Der.sequence [k.algorithm.write, k.key.write]

/-- The octets of an extension. That it is not critical goes without saying. -/
def Extension.write (e : Extension) : Bytes :=
  Der.sequence [e.id.write, if e.critical then Der.boolean true else [], Der.octetString e.value]

/-- The number of a version. -/
def Version.number : Version → UInt8
  | .v1 => 0
  | .v2 => 1
  | .v3 => 2

/-- The octets of a time. -/
def writeTime? (seconds : Nat) : Option Bytes := (CalendarTime.ofSeconds seconds).writeUtc?

/-- The octets of a signed part, where the signature will be of this algorithm. -/
def SignedPart.write? (p : SignedPart) (algorithm : AlgorithmId) : Option Bytes := do
  let version := Der.tlv (Der.Tag.context 0) (Der.unsigned [p.version.number])
  let validity := Der.sequence [← writeTime? p.notBefore, ← writeTime? p.notAfter]
  let extensions := Der.tlv (Der.Tag.context 3) (Der.sequence (p.extensions.map Extension.write))
  return Der.sequence
    [version, Der.tlv Der.Tag.integer p.serial, algorithm.write, p.issuer.write, validity,
      p.subject.write, p.keyInfo.write, extensions]

/-- The octets of a certificate with this signed part. -/
def writeCertificate (signed : Bytes) (algorithm : AlgorithmId) (signature : Bytes) : Bytes :=
  Der.sequence [signed, algorithm.write, Der.BitString.write ⟨0, signature⟩]

/-- The octets of basic constraints. -/
def BasicConstraints.write (b : BasicConstraints) : Bytes :=
  Der.sequence
    [if b.isCa then Der.boolean true else [],
      (b.pathLength.map fun n => Der.unsigned (Bytes.ofNat 2 n)).getD []]

end X509

end Passkey
