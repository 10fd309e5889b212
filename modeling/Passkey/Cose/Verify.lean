import Passkey.Cose.Key
import Passkey.Signature.Ecdsa
import Passkey.Signature.Ed25519

/-!
# Checking signatures

A check has three outcomes: the signature is good, it is not (also when its bytes are no signature
at all), or the check cannot be made because the algorithm is not supported, does not fit the key,
or the key is not usable. Only the algorithm and the key decide whether it can be made.
-/

namespace Passkey

/-- Why a signature cannot be checked. -/
inductive SignatureError where
  | unsupportedAlgorithm (algorithm : CoseAlgorithm)
  | algorithmKeyMismatch (algorithm : CoseAlgorithm) (keyType : String)
  | invalidKey
  deriving DecidableEq, Repr

/-- The wording of an error. -/
def SignatureError.message : SignatureError → String
  | .unsupportedAlgorithm algorithm => s!"unsupported signature algorithm {algorithm.name}"
  | .algorithmKeyMismatch algorithm keyType =>
    s!"algorithm {algorithm.name} cannot be used with a {keyType} key"
  | .invalidKey => "invalid public key"

namespace PublicKey

/-- The point behind two coordinates. -/
def point (curve : Curve) (x y : Bytes) : Except SignatureError (Nat × Nat) :=
  match curve.ofOctets? (0x04 :: x ++ y) with
  | some p => .ok p
  | none => .error .invalidKey

/-- The numbers behind an RSA key. -/
def rsaKey (n e : Bytes) : Except SignatureError Rsa.Key :=
  let key : Rsa.Key := ⟨Bytes.toNat n, Bytes.toNat e⟩
  if key.defect?.isSome then .error .invalidKey else .ok key

/-- An ECDSA signature over a message by the key at these coordinates, with the hash function that
goes with the curve. -/
def verifyEcdsa (curve : Curve) (x y message signature : Bytes) : Except SignatureError Bool := do
  let (px, py) ← point curve x y
  return Ecdsa.verifyMessage curve px py message signature

/-- An ECDSA signature over a digest by the key at these coordinates. -/
def verifyEcdsaDigest (curve : Curve) (x y digest signature : Bytes) :
    Except SignatureError Bool := do
  let (px, py) ← point curve x y
  return Ecdsa.verifyDigest curve px py digest signature

/-- An RSA signature with the deterministic padding. -/
def verifyRsa (hash : Hash) (n e message signature : Bytes) : Except SignatureError Bool := do
  let key ← rsaKey n e
  return Rsa.verifyPkcs1 key hash message signature

/-- Checks a signature over a message. Each ECDSA algorithm goes with one curve. -/
def verify (key : PublicKey) (algorithm : CoseAlgorithm) (message signature : Bytes) :
    Except SignatureError Bool :=
  match algorithm, key with
  | .es256, .ec2 .p256 x y => verifyEcdsa .p256 x y message signature
  | .es384, .ec2 .p384 x y => verifyEcdsa .p384 x y message signature
  | .es512, .ec2 .p521 x y => verifyEcdsa .p521 x y message signature
  | .edDsa, .ed25519 x =>
    match Edwards.decode? x with
    | some p => .ok (Ed25519.verify x p message signature)
    | none => .error .invalidKey
  | .rs256, .rsa n e => verifyRsa .sha256 n e message signature
  | .rs384, .rsa n e => verifyRsa .sha384 n e message signature
  | .rs512, .rsa n e => verifyRsa .sha512 n e message signature
  | .ps256, .rsa n e => do
    let key ← rsaKey n e
    return Rsa.verifyPss key .sha256 message signature
  | .unsupported _, _ => .error (.unsupportedAlgorithm algorithm)
  | _, key => .error (.algorithmKeyMismatch algorithm key.keyType)

/-- Checks an ECDSA signature over a message where the algorithm names the digest only, as in
certificates. The digest is made first and checked on the curve of the key, whichever that is. -/
def verifyAnyCurve (key : PublicKey) (algorithm : CoseAlgorithm) (message signature : Bytes) :
    Except SignatureError Bool :=
  let check (digest : Bytes) : Except SignatureError Bool :=
    match key with
    | .ec2 curve x y => verifyEcdsaDigest curve x y digest signature
    | _ => .error (.algorithmKeyMismatch algorithm key.keyType)
  match algorithm with
  | .es256 | .es384 | .es512 => check ((algorithm.digest? message).getD [])
  | _ => .error (.unsupportedAlgorithm algorithm)

end PublicKey

/-- Checks a signature with the algorithm that the key is for. -/
def CoseKey.verify (k : CoseKey) (message signature : Bytes) : Except SignatureError Bool :=
  k.key.verify k.algorithm message signature

end Passkey
