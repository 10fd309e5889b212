import Passkey.Cose.Key
import Passkey.Digest.Hash

/-!
# Authenticator data

The record that an authenticator signs: a fixed header, then a new credential if the flags announce
one, then extension outputs if the flags announce them, then nothing. The bytes it was read from
are kept, because signatures are made over them.
-/

namespace Passkey

/-- The flags of a record. -/
structure AuthenticatorFlags where
  bits : UInt8
  deriving DecidableEq, Repr

namespace AuthenticatorFlags

/-- Whether the bits of a mask are set. -/
def has (f : AuthenticatorFlags) (mask : UInt8) : Bool := f.bits &&& mask != 0

def userPresentMask : UInt8 := 0x01
def userVerifiedMask : UInt8 := 0x04
def backupEligibleMask : UInt8 := 0x08
def backedUpMask : UInt8 := 0x10
def attestedMask : UInt8 := 0x40
def extensionsMask : UInt8 := 0x80

/-- The user was present. -/
def userPresent (f : AuthenticatorFlags) : Bool := f.has userPresentMask

/-- The user was verified. -/
def userVerified (f : AuthenticatorFlags) : Bool := f.has userVerifiedMask

/-- The credential may be backed up. -/
def backupEligible (f : AuthenticatorFlags) : Bool := f.has backupEligibleMask

/-- The credential is backed up. -/
def backedUp (f : AuthenticatorFlags) : Bool := f.has backedUpMask

/-- A new credential follows the header. -/
def attested (f : AuthenticatorFlags) : Bool := f.has attestedMask

/-- Extension outputs end the record. -/
def extensions (f : AuthenticatorFlags) : Bool := f.has extensionsMask

end AuthenticatorFlags

/-- The identifier of an authenticator model. -/
structure Aaguid where
  bytes : Bytes
  size : bytes.length = 16
  deriving DecidableEq, Repr

namespace Aaguid

/-- The identifier of authenticators that do not name their model. -/
def zero : Aaguid := ⟨List.replicate 16 0, rfl⟩

/-- The identifier with these bytes. -/
def ofBytes? (bs : Bytes) : Option Aaguid :=
  if h : bs.length = 16 then some ⟨bs, h⟩ else none

/-- Hexadecimal digits in groups of eight, four, four, four and twelve. -/
protected def toString (a : Aaguid) : String :=
  let part (i n : Nat) := Bytes.toHex ((a.bytes.drop i).take n)
  "-".intercalate [part 0 4, part 4 2, part 6 2, part 8 2, part 10 6]

/-- The identifier as it is shown in diagnostics. -/
def describe (a : Aaguid) : String := s!"Aaguid({a.toString})"

end Aaguid

/-- The new credential in a registration's record. -/
structure AttestedCredential where
  aaguid : Aaguid
  credentialId : Bytes
  publicKey : CoseKey
  /-- The key exactly as the authenticator wrote it. -/
  publicKeyBytes : Bytes
  deriving DecidableEq, Repr

/-- A record. -/
structure AuthenticatorData where
  /-- The bytes that it was read from. -/
  bytes : Bytes
  rpIdHash : Bytes
  flags : AuthenticatorFlags
  counter : UInt32
  attested : Option AttestedCredential
  extensions : Option Cbor.Entries
  deriving Repr

/-- What is wrong with a record. -/
inductive DataDefect where
  | tooShort (length : Nat)
  | credentialTruncated
  | idTooLong (length : Nat)
  | idOverruns (length : Nat)
  | key (defect : KeyDefect)
  | extensionsUnreadable
  | extensionsNotAMap
  | trailing (count : Nat)
  deriving DecidableEq, Repr

/-- What is wrong with an attestation object. -/
inductive ObjectDefect where
  | item (defect : Cbor.Defect)
  | notAMap
  | missing (field : String)
  | formatNotText
  | dataNotBytes
  | statementNotMap
  deriving DecidableEq, Repr

/-- Why something that an authenticator wrote could not be read. -/
inductive DecodeError where
  | attestationObject (defect : ObjectDefect)
  | authenticatorData (defect : DataDefect)
  | key (error : KeyError)
  deriving DecidableEq, Repr

namespace AuthenticatorData

/-- Bytes in the fixed header. -/
def headerSize : Nat := 37

/-- The longest credential identifier. -/
def maxIdLength : Nat := 1023

end AuthenticatorData

/-- The wording of a defect. -/
def DataDefect.message : DataDefect → String
  | .tooShort length => s!"expected at least {AuthenticatorData.headerSize} bytes, got {length}"
  | .credentialTruncated => "attested credential data is truncated"
  | .idTooLong length =>
    s!"credential ID length {length} exceeds {AuthenticatorData.maxIdLength}"
  | .idOverruns length => s!"credential ID length {length} overruns the buffer"
  | .key defect => s!"credential public key: {defect.message}"
  | .extensionsUnreadable => s!"extensions: {withheld}"
  | .extensionsNotAMap => "extensions are not a CBOR map"
  | .trailing count => s!"{count} trailing bytes"

/-- The wording of a defect. -/
def ObjectDefect.message : ObjectDefect → String
  | .item defect => defect.message
  | .notAMap => "not a CBOR map"
  | .missing field => s!"missing {field}"
  | .formatNotText => "fmt is not a text string"
  | .dataNotBytes => "authData is not a byte string"
  | .statementNotMap => "attStmt is not a map"

/-- The wording of an error. -/
def DecodeError.message : DecodeError → String
  | .attestationObject defect => s!"malformed attestation object: {defect.message}"
  | .authenticatorData defect => s!"malformed authenticator data: {defect.message}"
  | .key error => error.message

namespace AuthenticatorData

/-- A malformed key makes the record malformed; an unsupported one is reported as such. -/
def keyError : KeyError → DecodeError
  | .malformed defect => .authenticatorData (.key defect)
  | .unsupported kind => .key (.unsupported kind)

/-- The credential at the front of the bytes after the header, and the rest. -/
def readAttested (bs : Bytes) : Except DecodeError (AttestedCredential × Bytes) :=
  if h : bs.length < 18 then .error (.authenticatorData .credentialTruncated)
  else
    let idLength := Bytes.toNat ((bs.drop 16).take 2)
    let body := bs.drop 18
    if idLength > maxIdLength then .error (.authenticatorData (.idTooLong idLength))
    else if body.length < idLength then .error (.authenticatorData (.idOverruns idLength))
    else
      let keyAndRest := body.drop idLength
      match CoseKey.decodePrefix keyAndRest with
      | .error e => .error (keyError e)
      | .ok (key, consumed) =>
        .ok (⟨⟨bs.take 16, by simp; omega⟩, body.take idLength, key, keyAndRest.take consumed⟩,
          keyAndRest.drop consumed)

/-- The extension outputs at the front of the bytes, and the rest. -/
def readExtensions (bs : Bytes) : Except DecodeError (Cbor.Entries × Bytes) :=
  match Cbor.decodePrefix? bs with
  | none => .error (.authenticatorData .extensionsUnreadable)
  | some (.map entries, consumed) => .ok (entries, bs.drop consumed)
  | some _ => .error (.authenticatorData .extensionsNotAMap)

/-- A part that is there only if announced. -/
def optionally {α : Type} (announced : Bool) (read : Bytes → Except DecodeError (α × Bytes))
    (bs : Bytes) : Except DecodeError (Option α × Bytes) :=
  if announced then (read bs).map fun (a, rest) => (some a, rest) else .ok (none, bs)

/-- Reads a record that spans all of the bytes. -/
def decode (bs : Bytes) : Except DecodeError AuthenticatorData :=
  if bs.length < headerSize then .error (.authenticatorData (.tooShort bs.length))
  else do
    let flags : AuthenticatorFlags := ⟨(bs.drop 32).headD 0⟩
    let (attested, rest) ← optionally flags.attested readAttested (bs.drop headerSize)
    let (extensions, rest) ← optionally flags.extensions readExtensions rest
    if rest ≠ [] then .error (.authenticatorData (.trailing rest.length))
    else
      return {
        bytes := bs
        rpIdHash := bs.take 32
        flags
        counter := UInt32.ofNat (Bytes.toNat ((bs.drop 33).take 4))
        attested
        extensions }

/-- A credential as it is laid out after the header. -/
def writeAttested (aaguid credentialId publicKey : Bytes) : Bytes :=
  aaguid ++ Bytes.ofNat 2 credentialId.length ++ credentialId ++ publicKey

/-- Lays out a record. The flags are taken as they are, so that a record may announce a part that
it lacks; `attested` and `extensions` are the bytes of the optional parts. -/
def write (rpId : String) (flags : UInt8) (counter : UInt32) (attested extensions : Bytes) :
    Bytes :=
  sha256 (Utf8.encode rpId) ++ flags :: Bytes.ofNat 4 counter.toNat ++ attested ++ extensions

end AuthenticatorData

end Passkey
