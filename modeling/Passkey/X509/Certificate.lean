import Passkey.Asn1.Time
import Passkey.Authenticator.Data
import Passkey.Text.Quoted
import Passkey.X509.Name

/-!
# Certificates

A certificate keeps the octets it was read from and, apart from its parts, the octets of the part
that is signed, so that a signature is always checked over what was received. Extensions stay
octets until they are asked for.
-/

namespace Passkey.X509

/-- The version of a certificate's form. -/
inductive Version where
  | v1
  | v2
  | v3
  deriving DecidableEq, Repr

/-- An algorithm and its parameters. -/
structure AlgorithmId where
  algorithm : Oid
  parameters : Option Der.Element
  deriving DecidableEq, Repr

/-- A public key in the form of its algorithm. -/
structure PublicKeyInfo where
  algorithm : AlgorithmId
  key : Der.BitString
  deriving DecidableEq, Repr

/-- An extension. -/
structure Extension where
  id : Oid
  critical : Bool
  value : Bytes
  deriving DecidableEq, Repr

/-- The part of a certificate that is signed. -/
structure SignedPart where
  version : Version
  /-- The octets of the serial number. -/
  serial : Bytes
  issuer : Name
  /-- The first second of validity, since 1970. -/
  notBefore : Nat
  /-- The last second of validity, since 1970. -/
  notAfter : Nat
  subject : Name
  keyInfo : PublicKeyInfo
  extensions : List Extension
  deriving DecidableEq, Repr

/-- A certificate. -/
structure Certificate where
  /-- The octets that it was read from. -/
  der : Bytes
  /-- The octets of its signed part. -/
  signedOctets : Bytes
  content : SignedPart
  signatureAlgorithm : AlgorithmId
  signature : Der.BitString
  deriving DecidableEq, Repr

/-- What is wrong with a certificate or with a part of it that was asked for. -/
inductive CertificateDefect where
  /-- The certificate or an extension is not of its type. -/
  | unreadable
  | aaguidSize
  | noNamedCurve
  | unsupportedCurve (id : Oid)
  | unsupportedKeyAlgorithm (id : Oid)
  | key (defect : KeyDefect)
  deriving DecidableEq, Repr

/-- The wording of a defect. -/
def CertificateDefect.message : CertificateDefect → String
  | .unreadable => withheld
  | .aaguidSize => "AAGUID extension is not 16 bytes"
  | .noNamedCurve => "EC key without a named curve"
  | .unsupportedCurve id => s!"unsupported curve {id.toString}"
  | .unsupportedKeyAlgorithm id => s!"unsupported key algorithm {id.toString}"
  | .key defect => (KeyError.malformed defect).message

/-- The longest serial number in octets, with room for a sign. -/
def maxSerialOctets : Nat := 21

/-! ### Reading -/

/-- The algorithm in an element. -/
def AlgorithmId.ofElement? (e : Der.Element) : Option AlgorithmId := do
  match ← e.sequence? with
  | [algorithm] => return ⟨← algorithm.oid?, none⟩
  | [algorithm, parameters] => return ⟨← algorithm.oid?, some parameters⟩
  | _ => none

/-- The public key in an element. -/
def PublicKeyInfo.ofElement? (e : Der.Element) : Option PublicKeyInfo := do
  match ← e.sequence? with
  | [algorithm, key] => return ⟨← AlgorithmId.ofElement? algorithm, ← key.bitString?⟩
  | _ => none

/-- The extension in an element. It is not critical unless it says so. -/
def Extension.ofElement? (e : Der.Element) : Option Extension := do
  match ← e.sequence? with
  | [id, value] => return ⟨← id.oid?, false, ← value.octetString?⟩
  | [id, critical, value] => return ⟨← id.oid?, ← critical.boolean?, ← value.octetString?⟩
  | _ => none

/-- The version in the element inside the first tag. -/
def Version.ofContent? (content : Bytes) : Option Version := do
  match ← (← Der.element? content).natural? with
  | 0 => some .v1
  | 1 => some .v2
  | 2 => some .v3
  | _ => none

/-- The number of a context-specific tag, whether or not it is around other elements. -/
def contextNumber? (tag : UInt8) : Option Nat :=
  if tag &&& 0xc0 = 0x80 then some (tag &&& 0x1f).toNat else none

/-- Looks for an optional member with this context-specific number at the front of the members.
Members with lower numbers are passed over; the member found is taken off. -/
def takeContext (number : Nat) : List Der.Element → Option Der.Element × List Der.Element
  | [] => (none, [])
  | e :: rest =>
    match contextNumber? e.tag with
    | none => (none, e :: rest)
    | some n =>
      if n < number then takeContext number rest
      else if n = number then (some e, rest)
      else (none, e :: rest)

/-- The version at the front of the members; the first if there is none. -/
def takeVersion? (members : List Der.Element) : Option (Version × List Der.Element) :=
  match takeContext 0 members with
  | (none, rest) => some (.v1, rest)
  | (some e, rest) =>
    if e.tag = Der.Tag.context 0 then (Version.ofContent? e.content).map (·, rest) else none

/-- Passes over an identifier that is a bit string in a context-specific tag. -/
def skipUniqueId? (number : UInt8) (members : List Der.Element) : Option (List Der.Element) :=
  match takeContext number.toNat members with
  | (none, rest) => some rest
  | (some e, rest) =>
    if e.tag = Der.Tag.contextPrimitive number ∧ (Der.BitString.ofContent? e.content).isSome then
      some rest
    else none

/-- The extensions that end the members. -/
def extensions? (members : List Der.Element) : Option (List Extension) :=
  match takeContext 3 members with
  | (none, []) => some []
  | (some e, []) =>
    if e.tag = Der.Tag.context 3 then do
      (← (← Der.element? e.content).sequence?).mapM Extension.ofElement?
    else none
  | _ => none

/-- The two ends of a validity. -/
def validity? (e : Der.Element) : Option (Nat × Nat) := do
  match ← e.sequence? with
  | [notBefore, notAfter] => return (← notBefore.seconds?, ← notAfter.seconds?)
  | _ => none

/-- A serial number of bounded length. -/
def serial? (e : Der.Element) : Option Bytes := do
  let octets ← e.integer?
  if octets.length ≤ maxSerialOctets then some octets else none

/-- The signed part in an element. -/
def SignedPart.ofElement? (e : Der.Element) : Option SignedPart := do
  let (version, members) ← takeVersion? (← e.sequence?)
  match members with
  | serial :: algorithm :: issuer :: validity :: subject :: key :: rest =>
    let _ ← AlgorithmId.ofElement? algorithm
    let (notBefore, notAfter) ← validity? validity
    let extensions ← skipUniqueId? 1 rest >>= skipUniqueId? 2 >>= extensions?
    return {
      version
      serial := ← serial? serial
      issuer := ← Name.ofElement? issuer
      notBefore
      notAfter
      subject := ← Name.ofElement? subject
      keyInfo := ← PublicKeyInfo.ofElement? key
      extensions }
  | _ => none

namespace Certificate

/-- The certificate that the octets spell: the signed part, the algorithm of the signature, and the
signature. -/
def ofDer? (der : Bytes) : Option Certificate := do
  let content ← (← Der.element? der).content? Der.Tag.sequence
  let ⟨signed, rest, _⟩ ← Der.readElement? content
  match ← Der.elements? rest with
  | [algorithm, signature] =>
    return {
      der
      signedOctets := content.take (content.length - rest.length)
      content := ← SignedPart.ofElement? signed
      signatureAlgorithm := ← AlgorithmId.ofElement? algorithm
      signature := ← signature.bitString? }
  | _ => none

/-- Reads a certificate. -/
def decode (der : Bytes) : Except CertificateDefect Certificate :=
  match ofDer? der with
  | some c => .ok c
  | none => .error .unreadable

/-- Whether the certificate is of version 3. -/
def isV3 (c : Certificate) : Bool := c.content.version = .v3

/-- The subject as text. -/
def subject (c : Certificate) : String := c.content.subject.text

/-- The issuer as text. -/
def issuer (c : Certificate) : String := c.content.issuer.text

/-- The certificate as it is shown in diagnostics. -/
def describe (c : Certificate) : String :=
  "Certificate \x7b subject: " ++ Text.quoted c.subject ++ ", issuer: " ++ Text.quoted c.issuer
    ++ " \x7d"

/-- Whether the subject has no levels at all. -/
def hasEmptySubject (c : Certificate) : Bool := c.content.subject.levels.isEmpty

/-- Whether some attribute of the subject shows as this common name. -/
def hasCommonName (c : Certificate) (name : String) : Bool :=
  c.content.subject.levels.flatten.any fun a => a.text == "CN=" ++ name

/-- The value of the first extension with this identifier. -/
def extension? (c : Certificate) (id : Oid) : Option Bytes :=
  (c.content.extensions.find? (·.id = id)).map (·.value)

/-- Whether the certificate is valid at a moment. Both ends of the validity belong to it. -/
def isValidAt (c : Certificate) (now : Instant) : Bool :=
  (Instant.ofSeconds c.content.notBefore).le now && now.le (Instant.ofSeconds c.content.notAfter)

end Certificate

/-! ### Extensions -/

/-- Identifier of the basic constraints. -/
def basicConstraintsId : Oid := .ofArcs [2, 5, 29, 19]

/-- Identifier of the extended key usage. -/
def extendedKeyUsageId : Oid := .ofArcs [2, 5, 29, 37]

/-- Identifier of the extension that names an authenticator model. -/
def aaguidId : Oid := .ofArcs [1, 3, 6, 1, 4, 1, 45724, 1, 1, 4]

/-- Whether a subject may issue certificates, and over how many levels below the next. -/
structure BasicConstraints where
  isCa : Bool
  pathLength : Option Nat
  deriving DecidableEq, Repr

/-- A path length: a number of one octet. -/
def pathLength? (e : Der.Element) : Option Nat := do
  let n ← e.natural?
  if n < 256 then some n else none

/-- Reads basic constraints. A subject may not issue certificates unless they say so. -/
def BasicConstraints.ofDer? (der : Bytes) : Option BasicConstraints := do
  match ← (← Der.element? der).sequence? with
  | [] => return ⟨false, none⟩
  | [a] =>
    if a.tag = Der.Tag.boolean then return ⟨← a.boolean?, none⟩
    else return ⟨false, some (← pathLength? a)⟩
  | [a, b] => return ⟨← a.boolean?, some (← pathLength? b)⟩
  | _ => none

namespace Certificate

/-- An extension that must be readable if it is there. -/
def readExtension {α : Type} (c : Certificate) (id : Oid) (read : Bytes → Option α) :
    Except CertificateDefect (Option α) :=
  match c.extension? id with
  | none => .ok none
  | some value =>
    match read value with
    | none => .error .unreadable
    | some a => .ok (some a)

/-- The basic constraints. -/
def basicConstraints (c : Certificate) : Except CertificateDefect (Option BasicConstraints) :=
  c.readExtension basicConstraintsId BasicConstraints.ofDer?

/-- Whether the subject may issue certificates. -/
def isCa (c : Certificate) : Except CertificateDefect Bool :=
  c.basicConstraints.map fun constraints => constraints.any (·.isCa)

/-- How many authorities may stand between a certificate that the subject issues and the end of
the path. -/
def pathLength (c : Certificate) : Except CertificateDefect (Option Nat) :=
  c.basicConstraints.map fun constraints => constraints.bind (·.pathLength)

/-- The purposes for which the key may be used. -/
def extendedKeyUsage (c : Certificate) : Except CertificateDefect (List Oid) :=
  let read (value : Bytes) : Option (List Oid) := do
    (← (← Der.element? value).sequence?).mapM Der.Element.oid?
  (c.readExtension extendedKeyUsageId read).map (·.getD [])

/-- The authenticator model that the certificate is for. -/
def aaguid (c : Certificate) : Except CertificateDefect (Option Aaguid) := do
  let read (value : Bytes) : Option Bytes := Der.element? value >>= Der.Element.octetString?
  match ← c.readExtension aaguidId read with
  | none => return none
  | some octets =>
    match Aaguid.ofBytes? octets with
    | none => throw .aaguidSize
    | some a => return some a

/-! ### The subject's key -/

/-- Identifier of keys on prime curves. -/
def ecPublicKeyId : Oid := .ofArcs [1, 2, 840, 10045, 2, 1]

/-- Identifier of RSA keys. -/
def rsaEncryptionId : Oid := .ofArcs [1, 2, 840, 113549, 1, 1, 1]

/-- Identifier of Ed25519, for keys and for signatures. -/
def ed25519Id : Oid := .ofArcs [1, 3, 101, 112]

/-- The identifiers of the supported curves. -/
def curveIds : List (Oid × Curve) :=
  [(.ofArcs [1, 2, 840, 10045, 3, 1, 7], .p256), (.ofArcs [1, 3, 132, 0, 34], .p384),
    (.ofArcs [1, 3, 132, 0, 35], .p521)]

/-- A key on a prime curve, which the parameters name. -/
def ecKey (parameters : Option Der.Element) (octets : Bytes) :
    Except CertificateDefect PublicKey :=
  match parameters >>= Der.Element.oid? with
  | none => .error .noNamedCurve
  | some id =>
    match curveIds.find? (·.1 = id) with
    | none => .error (.unsupportedCurve id)
    | some (_, curve) => (PublicKey.ofOctets curve octets).mapError .key

/-- The subject's key. -/
def publicKey (c : Certificate) : Except CertificateDefect PublicKey :=
  let info := c.content.keyInfo
  let id := info.algorithm.algorithm
  if id = ecPublicKeyId then ecKey info.algorithm.parameters info.key.octets
  else if id = rsaEncryptionId then (PublicKey.ofRsaDer info.key.octets).mapError .key
  else if id = ed25519Id then (PublicKey.ofEd25519 info.key.octets).mapError .key
  else .error (.unsupportedKeyAlgorithm id)

end Certificate

end Passkey.X509
