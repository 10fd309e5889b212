import Passkey.Attestation.Statement
import Passkey.Json.Reader
import Passkey.Json.Record
import Passkey.Text.Base64

/-!
# The SafetyNet format

A signed token in three parts with points between them: header, payload and signature. The header
brings the certificates, the payload a nonce over the authenticator data and the client data. What
is signed is the text up to the last point, as it was received.
-/

namespace Passkey.Attestation

/-- The host to which the leaf must be issued. -/
def attestationHost : String := "attest.android.com"

/-- A token: its text as it was received, and the parts of it. -/
structure Token where
  text : String
  header : String
  payload : String
  signature : String
  deriving DecidableEq, Repr

/-- Cuts a token at its points, of which there must be two. -/
def Token.ofText? (text : String) : Option Token :=
  match text.toList.splitOn '.' with
  | [header, payload, signature] =>
    some ⟨text, String.ofList header, String.ofList payload, String.ofList signature⟩
  | _ => none

/-- How many of these characters are signed: those up to the last point, all if there is none. -/
def signedLength (text : List Char) : Nat :=
  match text.reverse.findIdx? (· == '.') with
  | some fromEnd => text.length - fromEnd - 1
  | none => text.length

/-- What is signed, cut from the text that was received and not put together from the parts. -/
def Token.signed (t : Token) : Bytes :=
  Utf8.encode (String.ofList (t.text.toList.take (signedLength t.text.toList)))

/-- The header of a token. -/
structure TokenHeader where
  algorithm : String
  certificates : List String
  deriving DecidableEq, Repr

/-- The header in a JSON value. -/
def TokenHeader.ofJson? (j : Json) : Option TokenHeader := do
  let r ← j.record? ["alg", "x5c"]
  return ⟨← r.required? "alg" Json.text?, ← r.required? "x5c" (Json.list? Json.text?)⟩

/-- The payload of a token, as far as it is looked at. -/
structure TokenPayload where
  nonce : String
  profileMatches : Bool
  deriving DecidableEq, Repr

/-- The payload in a JSON value. -/
def TokenPayload.ofJson? (j : Json) : Option TokenPayload := do
  let r ← j.record? ["nonce", "ctsProfileMatch"]
  return ⟨← r.required? "nonce" Json.text?, ← r.required? "ctsProfileMatch" Json.bool?⟩

/-- Reads a part of a token that holds JSON. -/
def readSegment {α : Type} (read : Json → Option α) (segment : String) :
    Except AttestationError α :=
  match Base64.decodeUrl? segment with
  | none => .error (.statement .segmentNotBase64)
  | some bytes =>
    match Json.read? bytes >>= read with
    | none => .error (.statement .segmentUnreadable)
    | some a => .ok a

/-- A certificate in a header. -/
def tokenCertificate (text : String) : Except AttestationError X509.Certificate :=
  match Base64.decodeStandard? text with
  | none => .error (.statement .certificateNotBase64)
  | some der => (X509.Certificate.decode der).mapError .certificate

/-- The token in a statement, which must name the version of the service that made it. -/
def tokenOf (s : AttestationStatement) : Except AttestationError Token := do
  if ((s.text? "ver").getD "").isEmpty then throw (.statement (.missing "ver"))
  let response ← AttestationStatement.require "response" (s.bytes? "response")
  match Utf8.decode? response with
  | none => throw (.statement .responseNotText)
  | some text =>
    match Token.ofText? text with
    | none => throw (.statement .responseNotCompact)
    | some token => return token

/-- Requires that the payload is about this message and vouches for the device. -/
def requirePayload (payload : TokenPayload) (message : Bytes) : Except AttestationError Unit := do
  if payload.nonce ≠ Base64.encodeStandard (sha256 message) then
    throw (.statement .nonceMismatch)
  if !payload.profileMatches then throw (.statement .profileMismatch)

/-- Verifies a SafetyNet statement. -/
def verifySafetyNet (s : AttestationStatement) (context : AttestationContext) :
    Except AttestationError StatementVerdict := do
  let token ← tokenOf s
  let header ← readSegment TokenHeader.ofJson? token.header
  if header.algorithm ≠ "RS256" then throw (.statement (.tokenAlgorithm header.algorithm))
  let trustPath ← header.certificates.mapM tokenCertificate
  let leaf ← leafOf trustPath
  match Base64.decodeUrl? token.signature with
  | none => throw (.statement .tokenSignatureNotBase64)
  | some signature =>
    leaf.requireSigned .rs256 token.signed signature
    if !leaf.hasCommonName attestationHost then throw (.requirement (.host attestationHost))
    leaf.requireLeaf context
    requirePayload (← readSegment TokenPayload.ofJson? token.payload) context.message
    return StatementVerdict.basic trustPath

end Passkey.Attestation
