import Passkey.Cose.Verify
import Passkey.X509.Certificate

/-!
# Who issued a certificate

A certificate is issued by another if that one's subject is named as the issuer and its key
verifies the signature over the octets that were received. Whether it may issue certificates is a
question of its own.
-/

namespace Passkey.X509

/-- The signature algorithms of certificates. Those of ECDSA name the digest only; the curve is
the key's. -/
def signatureAlgorithms : List (Oid × CoseAlgorithm) :=
  [(.ofArcs [1, 2, 840, 10045, 4, 3, 2], .es256), (.ofArcs [1, 2, 840, 10045, 4, 3, 3], .es384),
    (.ofArcs [1, 2, 840, 10045, 4, 3, 4], .es512),
    (.ofArcs [1, 2, 840, 113549, 1, 1, 11], .rs256),
    (.ofArcs [1, 2, 840, 113549, 1, 1, 12], .rs384),
    (.ofArcs [1, 2, 840, 113549, 1, 1, 13], .rs512), (Certificate.ed25519Id, .edDsa)]

/-- The algorithm with this identifier. -/
def signatureAlgorithm? (id : Oid) : Option CoseAlgorithm :=
  (signatureAlgorithms.find? (·.1 = id)).map (·.2)

/-- Checks a certificate's signature. -/
def verifySigned (key : PublicKey) (algorithm : CoseAlgorithm) (signed signature : Bytes) :
    Except SignatureError Bool :=
  match algorithm with
  | .es256 | .es384 | .es512 => key.verifyAnyCurve algorithm signed signature
  | _ => key.verify algorithm signed signature

namespace Certificate

/-- Whether the issuer's key verifies the signature of this certificate. -/
def isSignedBy (c issuer : Certificate) : Bool :=
  match signatureAlgorithm? c.signatureAlgorithm.algorithm, issuer.publicKey with
  | some algorithm, .ok key =>
    c.signature.unused == 0
      && (verifySigned key algorithm c.signedOctets c.signature.octets).toOption == some true
  | _, _ => false

/-- Whether the issuer is named as the issuer of this certificate and signed it. -/
def isIssuedBy (c issuer : Certificate) : Bool :=
  c.content.issuer = issuer.content.subject && c.isSignedBy issuer

end Certificate

end Passkey.X509
