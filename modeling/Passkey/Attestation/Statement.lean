import Passkey.Attestation.Error
import Passkey.Authenticator.AttestationObject
import Passkey.X509.Issuance

/-!
# What the statement formats share

The members that several formats have, the message that most of them sign, and the two checks that
most of them make of the leaf certificate.
-/

namespace Passkey

open X509 (Certificate)

/-- How an authenticator vouches for a new credential. -/
inductive AttestationType where
  /-- Not at all. -/
  | none
  /-- By the credential's own key. -/
  | self
  /-- By a certificate chain. -/
  | basic
  /-- In a way that is not understood. -/
  | uncertain
  deriving DecidableEq, Repr

/-- What a statement by itself establishes. Only a statement of the basic type has certificates,
the leaf first. -/
structure StatementVerdict where
  type : AttestationType
  trustPath : List Certificate
  deriving DecidableEq, Repr

namespace StatementVerdict

/-- Nothing is attested. -/
def none : StatementVerdict := ⟨.none, []⟩

/-- Nothing can be said. -/
def uncertain : StatementVerdict := ⟨.uncertain, []⟩

/-- The credential's key vouches for itself. -/
def selfAttested : StatementVerdict := ⟨.self, []⟩

/-- Certificates vouch for the authenticator. -/
def basic (trustPath : List Certificate) : StatementVerdict := ⟨.basic, trustPath⟩

end StatementVerdict

/-- What a statement is checked against. -/
structure AttestationContext where
  data : AuthenticatorData
  /-- The hash of the client data that was sent along. -/
  clientDataHash : Bytes
  deriving Repr

namespace AttestationContext

/-- The message that most formats sign. -/
def message (c : AttestationContext) : Bytes := c.data.bytes ++ c.clientDataHash

/-- The new credential. -/
def credential (c : AttestationContext) : Except AttestationError AttestedCredential :=
  match c.data.attested with
  | some credential => .ok credential
  | none => .error (.statement (.missing "attested credential data"))

end AttestationContext

namespace AttestationStatement

/-- A member that must be there. -/
def require {α : Type} (field : String) : Option α → Except AttestationError α
  | some a => .ok a
  | none => .error (.statement (.missing field))

/-- The stated signature algorithm. -/
def algorithm (s : AttestationStatement) : Except AttestationError CoseAlgorithm := do
  let id ← require "alg" (s.integer? "alg")
  match CoseAlgorithm.ofId? id with
  | some algorithm => return algorithm
  | none => throw (.statement .algorithmOutOfRange)

/-- The signature. -/
def signature (s : AttestationStatement) : Except AttestationError Bytes :=
  require "sig" (s.bytes? "sig")

/-- A certificate in an array. -/
def certificateOf : Cbor.Value → Except AttestationError Certificate
  | .bytes der => (Certificate.decode der).mapError .certificate
  | _ => .error (.statement .certificateNotBytes)

/-- The certificates, if the statement has any member of their name. -/
def certificates? (s : AttestationStatement) :
    Except AttestationError (Option (List Certificate)) :=
  match s.get? "x5c" with
  | none => .ok none
  | some (.array []) => .error (.statement .noCertificates)
  | some (.array items) => (items.mapM certificateOf).map some
  | some _ => .error (.statement .certificatesNotAnArray)

/-- The certificates, which must be there. -/
def certificates (s : AttestationStatement) : Except AttestationError (List Certificate) :=
  s.certificates? >>= require "x5c"

end AttestationStatement

namespace X509.Certificate

/-- The leaf's key, as a part of an attestation. -/
def attestationKey (leaf : Certificate) : Except AttestationError PublicKey :=
  leaf.publicKey.mapError .certificate

/-- Requires that the leaf's key verifies a signature. -/
def requireSigned (leaf : Certificate) (algorithm : CoseAlgorithm) (message signature : Bytes) :
    Except AttestationError Unit := do
  let key ← leaf.attestationKey
  if ← (key.verify algorithm message signature).mapError .signature then return ()
  else throw .signatureInvalid

/-- Requires that the leaf is of version 3 and no authority, and is for the authenticator's model
if it is for one. -/
def requireLeaf (leaf : Certificate) (context : AttestationContext) :
    Except AttestationError Unit := do
  if !leaf.isV3 then throw (.requirement .version3)
  if ← leaf.isCa.mapError .certificate then throw (.requirement .notAnAuthority)
  match ← leaf.aaguid.mapError .certificate with
  | none => return ()
  | some aaguid =>
    let credential ← context.credential
    if aaguid = credential.aaguid then return () else throw (.requirement .sameAaguid)

end X509.Certificate

/-- The first certificate of a list that has one. -/
def leafOf (trustPath : List Certificate) : Except AttestationError Certificate :=
  match trustPath with
  | leaf :: _ => .ok leaf
  | [] => .error (.statement .noCertificates)

end Passkey
