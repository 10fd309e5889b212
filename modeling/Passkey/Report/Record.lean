import Passkey.Cose.Verify
import Passkey.Authenticator.AttestationObject
import Passkey.Report.Error

/-!
# Reports of keys and authenticator records

What a key, a data item or an authenticator's record holds, part by part.
-/

namespace Passkey.Report

/-- The parts of a public key. -/
def publicKey (key : PublicKey) : Json :=
  let parts := match key with
    | .ec2 curve x y =>
      [("kty", str "EC2"), ("crv_id", .ofInt curve.id),
        ("coordinate_len", num curve.coordinateSize), ("x", hex x), ("y", hex y)]
    | .rsa n e => [("kty", str "RSA"), ("n", hex n), ("e", hex e)]
    | .ed25519 x => [("kty", str "OKP"), ("crv_id", num 6), ("x", hex x)]
  obj (parts ++ [("key_type", str key.keyType)])

/-- The parts of a key with its algorithm, and its bytes. -/
def coseKeyMembers (k : CoseKey) : List (String × Json) :=
  [("alg", .ofInt k.algorithm.id), ("alg_name", str k.algorithm.name), ("key", publicKey k.key),
    ("encoded", hex k.encode)]

/-- The flags by their short names. -/
def flags (f : AuthenticatorFlags) : Json :=
  obj [("bits", num f.bits.toNat), ("up", .bool f.userPresent), ("uv", .bool f.userVerified),
    ("be", .bool f.backupEligible), ("bs", .bool f.backedUp), ("at", .bool f.attested),
    ("ed", .bool f.extensions)]

mutual

/-- A data item by its type. Integers are texts and floats are bits, so that none is rounded. -/
def cbor : Cbor.Value → Json
  | .int n => obj [("int", str (toString n))]
  | .bytes bs => obj [("bytes", hex bs)]
  | .text s => obj [("text", str s)]
  | .float bits => obj [("float", hex (Bytes.ofNat 8 bits.toNat))]
  | .bool b => obj [("bool", .bool b)]
  | .null => obj [("null", .bool true)]
  | .tag n v => obj [("tag", str (toString n)), ("value", cbor v)]
  | .array items => obj [("array", .array (cborItems items))]
  | .map entries => obj [("map", .array (cborEntries entries))]

/-- Data items in order. -/
def cborItems : List Cbor.Value → List Json
  | [] => []
  | v :: rest => cbor v :: cborItems rest

/-- Entries in order. -/
def cborEntries : List (Cbor.Value × Cbor.Value) → List Json
  | [] => []
  | e :: rest => cborEntry e :: cborEntries rest

/-- A key and its value. -/
def cborEntry : Cbor.Value × Cbor.Value → Json
  | (k, v) => .array [cbor k, cbor v]

end

/-- A new credential. -/
def attested (c : AttestedCredential) : Json :=
  obj [("aaguid", str c.aaguid.toString), ("credential_id", hex c.credentialId),
    ("key", obj (coseKeyMembers c.publicKey)), ("key_bytes", hex c.publicKeyBytes)]

/-- An authenticator's record. -/
def authData (d : AuthenticatorData) : Json :=
  obj [("bytes", hex d.bytes), ("rp_id_hash", hex d.rpIdHash), ("flags", flags d.flags),
    ("counter", num d.counter.toNat), ("attested", opt attested d.attested),
    ("extensions", opt (fun e => cbor (.map e)) d.extensions)]

/-- A member of a statement under each of the types that it may be asked for. -/
def member (s : AttestationStatement) (name : String) : Json :=
  obj [("get", opt cbor (s.get? name)), ("bytes", opt hex (s.bytes? name)),
    ("integer", opt (fun n => str (toString n)) (s.integer? name)),
    ("text", opt str (s.text? name)), ("array", opt (fun a => num a.length) (s.array? name))]

end Passkey.Report
