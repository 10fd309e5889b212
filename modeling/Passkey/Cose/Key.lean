import Passkey.Cbor.Reader
import Passkey.Cose.Algorithm
import Passkey.Curve.Edwards
import Passkey.Curve.Nist
import Passkey.Signature.Rsa
import Passkey.Text.Withheld

/-!
# Credential public keys

A key is kept as the octets that travel: two coordinates, a modulus and an exponent, or an encoded
point. The checked constructors refuse points off their curve and unusable RSA keys. `CoseKey` adds
the algorithm that the key is for, and reads and writes the map form in which authenticators send
it.
-/

namespace Passkey

/-- A public key by its octets. -/
inductive PublicKey where
  /-- A point of a prime curve by its coordinates. -/
  | ec2 (curve : Curve) (x y : Bytes)
  /-- A modulus and an exponent. -/
  | rsa (n e : Bytes)
  /-- An encoded point of the Edwards curve. -/
  | ed25519 (x : Bytes)
  deriving DecidableEq, Repr

/-- What is wrong with the encoding of a key. -/
inductive KeyDefect where
  | item (defect : Cbor.Defect)
  /-- The DER form of an RSA key was refused. -/
  | rsaDer
  | notAMap
  | missing (field : String)
  | notAnInteger (field : String)
  | notAByteString (field : String)
  | algorithmOutOfRange
  | coordinateSizes (expected x y : Nat)
  | notOnCurve
  | zeroRsa
  | unusableRsa (defect : Rsa.Defect)
  | ed25519Size
  | ed25519Point
  deriving DecidableEq, Repr

/-- A well-formed key of a kind that is not supported. -/
inductive UnsupportedKey where
  | keyType (kty : Int)
  | ec2Curve (id : Int)
  | okpCurve (id : Int)
  deriving DecidableEq, Repr

/-- Why a key could not be read. -/
inductive KeyError where
  | malformed (defect : KeyDefect)
  | unsupported (kind : UnsupportedKey)
  deriving DecidableEq, Repr

/-- The wording of a defect of a data item. -/
def Cbor.Defect.message : Cbor.Defect → String
  | .unreadable => withheld
  | .trailing count => s!"{count} trailing bytes"

/-- The wording of a defect. -/
def KeyDefect.message : KeyDefect → String
  | .item defect => defect.message
  | .rsaDer => withheld
  | .notAMap => "COSE_Key is not a map"
  | .missing field => s!"missing {field}"
  | .notAnInteger field => s!"{field} is not an integer"
  | .notAByteString field => s!"{field} is not a byte string"
  | .algorithmOutOfRange => "alg out of range"
  | .coordinateSizes expected x y => s!"coordinates must be {expected} bytes, got {x} and {y}"
  | .notOnCurve => "point is not on the curve"
  | .zeroRsa => "RSA modulus and exponent must be non-zero"
  | .unusableRsa defect => s!"unusable RSA key: {defect.message}"
  | .ed25519Size => "Ed25519 key must be 32 bytes"
  | .ed25519Point => "invalid Ed25519 point"

/-- The wording of an unsupported kind. -/
def UnsupportedKey.message : UnsupportedKey → String
  | .keyType kty => s!"kty {kty}"
  | .ec2Curve id => s!"EC2 curve {id}"
  | .okpCurve id => s!"OKP curve {id}"

/-- The wording of an error. -/
def KeyError.message : KeyError → String
  | .malformed defect => s!"malformed COSE key: {defect.message}"
  | .unsupported kind => s!"unsupported COSE key type: {kind.message}"

/-- The registered identifier of a curve. -/
def Curve.id : Curve → Int
  | .p256 => 1
  | .p384 => 2
  | .p521 => 3

/-- The curve with this identifier. -/
def Curve.ofId? (id : Int) : Option Curve :=
  if id = 1 then some .p256 else if id = 2 then some .p384 else if id = 3 then some .p521 else none

/-- The usual name of a curve. -/
def Curve.name : Curve → String
  | .p256 => "P-256"
  | .p384 => "P-384"
  | .p521 => "P-521"

namespace PublicKey

/-- The kind of key, for messages. -/
def keyType : PublicKey → String
  | .ec2 curve _ _ => s!"EC2 {curve.name}"
  | .rsa _ _ => "RSA"
  | .ed25519 _ => "OKP Ed25519"

/-- The key at a point given in any octet form. -/
def ofOctets (curve : Curve) (octets : Bytes) : Except KeyDefect PublicKey :=
  match curve.ofOctets? octets with
  | some (x, y) => .ok (.ec2 curve (curve.coordinate x) (curve.coordinate y))
  | none => .error .notOnCurve

/-- The RSA key of two big-endian numbers, which are kept without leading zeros. -/
def ofRsa (n e : Bytes) : Except KeyDefect PublicKey :=
  let n := Bytes.trim n
  let e := Bytes.trim e
  if n = [] ∨ e = [] then .error .zeroRsa
  else
    match (Rsa.Key.mk (Bytes.toNat n) (Bytes.toNat e)).defect? with
    | some defect => .error (.unusableRsa defect)
    | none => .ok (.rsa n e)

/-- The RSA key in a DER sequence of modulus and exponent. -/
def ofRsaDer (der : Bytes) : Except KeyDefect PublicKey :=
  match Rsa.Key.ofDer? der with
  | none => .error .rsaDer
  | some key =>
    if key.defect?.isSome then .error .rsaDer
    else
      let octets (n : Nat) := Bytes.ofNat (n.log2 / 8 + 1) n
      ofRsa (octets key.n) (octets key.e)

/-- The Ed25519 key with this encoding. -/
def ofEd25519 (octets : Bytes) : Except KeyDefect PublicKey :=
  if octets.length ≠ 32 then .error .ed25519Size
  else if (Edwards.decode? octets).isNone then .error .ed25519Point
  else .ok (.ed25519 octets)

end PublicKey

/-- A public key together with the algorithm that it is used with. -/
structure CoseKey where
  algorithm : CoseAlgorithm
  key : PublicKey
  deriving DecidableEq, Repr

namespace CoseKey

/-- The integer under a label. -/
def integer (entries : Cbor.Entries) (label : Int) (field : String) : Except KeyDefect Int :=
  match entries.atInt? label with
  | none => .error (.missing field)
  | some value =>
    match value.int? with
    | none => .error (.notAnInteger field)
    | some n => .ok n

/-- The byte string under a label. -/
def byteString (entries : Cbor.Entries) (label : Int) (field : String) : Except KeyDefect Bytes :=
  match entries.atInt? label with
  | none => .error (.missing field)
  | some value =>
    match value.bytes? with
    | none => .error (.notAByteString field)
    | some bs => .ok bs

/-- A defect makes the key malformed. -/
def refuse {α : Type} (result : Except KeyDefect α) : Except KeyError α :=
  result.mapError .malformed

/-- A key on a prime curve: identifier and both coordinates at full size. -/
def ofEc2 (entries : Cbor.Entries) : Except KeyError PublicKey := do
  let id ← refuse (integer entries (-1) "crv")
  match Curve.ofId? id with
  | none => .error (.unsupported (.ec2Curve id))
  | some curve =>
    let x ← refuse (byteString entries (-2) "x")
    let y ← refuse (byteString entries (-3) "y")
    if x.length ≠ curve.coordinateSize ∨ y.length ≠ curve.coordinateSize then
      .error (.malformed (.coordinateSizes curve.coordinateSize x.length y.length))
    else refuse (PublicKey.ofOctets curve (0x04 :: x ++ y))

/-- An RSA key: modulus and exponent. -/
def ofRsa (entries : Cbor.Entries) : Except KeyError PublicKey := do
  let n ← refuse (byteString entries (-1) "n")
  let e ← refuse (byteString entries (-2) "e")
  refuse (PublicKey.ofRsa n e)

/-- An octet key pair: identifier and encoded point. -/
def ofOkp (entries : Cbor.Entries) : Except KeyError PublicKey := do
  let id ← refuse (integer entries (-1) "crv")
  if id = 6 then
    let x ← refuse (byteString entries (-2) "x")
    refuse (PublicKey.ofEd25519 x)
  else .error (.unsupported (.okpCurve id))

/-- The key that a data item describes. -/
def ofValue (value : Cbor.Value) : Except KeyError CoseKey :=
  match value with
  | .map entries => do
    let kty ← refuse (integer entries 1 "kty")
    let alg ← refuse (integer entries 3 "alg")
    match CoseAlgorithm.ofId? alg with
    | none => .error (.malformed .algorithmOutOfRange)
    | some algorithm =>
      let key ←
        if kty = 2 then ofEc2 entries
        else if kty = 3 then ofRsa entries
        else if kty = 1 then ofOkp entries
        else .error (.unsupported (.keyType kty))
      return ⟨algorithm, key⟩
  | _ => .error (.malformed .notAMap)

/-- The key that spans all of the bytes. -/
def decode (bs : Bytes) : Except KeyError CoseKey :=
  match Cbor.decode bs with
  | .error defect => .error (.malformed (.item defect))
  | .ok value => ofValue value

/-- The key at the front of the bytes and how many of them it takes. -/
def decodePrefix (bs : Bytes) : Except KeyError (CoseKey × Nat) :=
  match Cbor.decodePrefix? bs with
  | none => .error (.malformed (.item .unreadable))
  | some (value, consumed) => (ofValue value).map (·, consumed)

/-- The map form of a key on a prime curve. -/
def ec2Value (algorithm curve : Int) (x y : Bytes) : Cbor.Value :=
  .map
    [(.int 1, .int 2), (.int 3, .int algorithm), (.int (-1), .int curve), (.int (-2), .bytes x),
      (.int (-3), .bytes y)]

/-- The map form of an RSA key. -/
def rsaValue (algorithm : Int) (n e : Bytes) : Cbor.Value :=
  .map [(.int 1, .int 3), (.int 3, .int algorithm), (.int (-1), .bytes n), (.int (-2), .bytes e)]

/-- The map form of an octet key pair. -/
def okpValue (algorithm curve : Int) (x : Bytes) : Cbor.Value :=
  .map
    [(.int 1, .int 1), (.int 3, .int algorithm), (.int (-1), .int curve), (.int (-2), .bytes x)]

/-- The map form of a key: kind, algorithm, then the parts of the key. -/
def toValue (k : CoseKey) : Cbor.Value :=
  match k.key with
  | .ec2 curve x y => ec2Value k.algorithm.id curve.id x y
  | .rsa n e => rsaValue k.algorithm.id n e
  | .ed25519 x => okpValue k.algorithm.id 6 x

/-- The bytes of the map form. -/
def encode (k : CoseKey) : Bytes := k.toValue.write

end CoseKey

end Passkey
