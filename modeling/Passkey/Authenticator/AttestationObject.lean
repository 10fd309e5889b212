import Passkey.Authenticator.Data

/-!
# Attestation objects

What an authenticator returns for a new credential: its data, and a statement about where it comes
from in one of several formats. Look-ups in a statement give nothing for a member of another type.
-/

namespace Passkey

/-- A statement in some format: a map whose known members have text keys. -/
structure AttestationStatement where
  entries : Cbor.Entries
  deriving Repr

namespace AttestationStatement

/-- The member with this name. -/
def get? (s : AttestationStatement) (name : String) : Option Cbor.Value := s.entries.atText? name

/-- The member, if it is a byte string. -/
def bytes? (s : AttestationStatement) (name : String) : Option Bytes :=
  s.get? name >>= Cbor.Value.bytes?

/-- The member, if it is an integer. -/
def integer? (s : AttestationStatement) (name : String) : Option Int :=
  s.get? name >>= Cbor.Value.int?

/-- The member, if it is a text. -/
def text? (s : AttestationStatement) (name : String) : Option String :=
  s.get? name >>= Cbor.Value.text?

/-- The member, if it is an array. -/
def array? (s : AttestationStatement) (name : String) : Option (List Cbor.Value) :=
  s.get? name >>= Cbor.Value.array?

end AttestationStatement

/-- An attestation object. -/
structure AttestationObject where
  format : String
  data : AuthenticatorData
  statement : AttestationStatement
  deriving Repr

namespace AttestationObject

/-- The format identifier among the members of an object. -/
def formatOf (entries : Cbor.Entries) : Except DecodeError String :=
  match entries.atText? "fmt" with
  | none => .error (.attestationObject (.missing "fmt"))
  | some (.text format) => .ok format
  | some _ => .error (.attestationObject .formatNotText)

/-- The authenticator data among the members of an object. -/
def dataOf (entries : Cbor.Entries) : Except DecodeError AuthenticatorData :=
  match entries.atText? "authData" with
  | none => .error (.attestationObject (.missing "authData"))
  | some (.bytes bs) => AuthenticatorData.decode bs
  | some _ => .error (.attestationObject .dataNotBytes)

/-- The statement among the members of an object. -/
def statementOf (entries : Cbor.Entries) : Except DecodeError AttestationStatement :=
  match entries.atText? "attStmt" with
  | none => .error (.attestationObject (.missing "attStmt"))
  | some (.map statement) => .ok ⟨statement⟩
  | some _ => .error (.attestationObject .statementNotMap)

/-- Reads an object that spans all of the bytes. -/
def decode (bs : Bytes) : Except DecodeError AttestationObject :=
  match Cbor.decode bs with
  | .error defect => .error (.attestationObject (.item defect))
  | .ok (.map entries) => do
    let format ← formatOf entries
    let data ← dataOf entries
    let statement ← statementOf entries
    return ⟨format, data, statement⟩
  | .ok _ => .error (.attestationObject .notAMap)

/-- The bytes of an object with this format, authenticator data and statement. -/
def write (format : String) (data : Bytes) (statement : Cbor.Entries) : Bytes :=
  (Cbor.Value.map
    [(.text "fmt", .text format), (.text "attStmt", .map statement),
      (.text "authData", .bytes data)]).write

end AttestationObject

end Passkey
