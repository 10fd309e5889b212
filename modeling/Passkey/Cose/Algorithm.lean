import Passkey.Digest.Hash

/-!
# Signature algorithms

The registered identifiers of the algorithms that credentials use. An identifier of any other
algorithm is kept, so that it can be reported and written back (`id_ofId`).
-/

namespace Passkey

/-- A signature algorithm by its registered identifier. -/
inductive CoseAlgorithm where
  | es256
  | es384
  | es512
  | edDsa
  | rs256
  | rs384
  | rs512
  | ps256
  | unsupported (id : Int)
  deriving DecidableEq, Repr

namespace CoseAlgorithm

/-- The registered identifier. -/
def id : CoseAlgorithm → Int
  | .es256 => -7
  | .es384 => -35
  | .es512 => -36
  | .edDsa => -8
  | .rs256 => -257
  | .rs384 => -258
  | .rs512 => -259
  | .ps256 => -37
  | .unsupported id => id

/-- The algorithm with this identifier. -/
def ofId (id : Int) : CoseAlgorithm :=
  if id = -7 then .es256
  else if id = -35 then .es384
  else if id = -36 then .es512
  else if id = -8 then .edDsa
  else if id = -257 then .rs256
  else if id = -258 then .rs384
  else if id = -259 then .rs512
  else if id = -37 then .ps256
  else .unsupported id

/-- The range of identifiers: signed numbers of 64 bits. -/
def inRange (id : Int) : Bool := -0x8000000000000000 ≤ id && id < 0x8000000000000000

/-- The algorithm with this identifier, if it is in range. -/
def ofId? (id : Int) : Option CoseAlgorithm := if inRange id then some (ofId id) else none

/-- Whether the algorithm is one of the named ones. -/
def isSupported : CoseAlgorithm → Bool
  | .unsupported _ => false
  | _ => true

/-- The usual name. -/
def name : CoseAlgorithm → String
  | .es256 => "ES256"
  | .es384 => "ES384"
  | .es512 => "ES512"
  | .edDsa => "EdDSA"
  | .rs256 => "RS256"
  | .rs384 => "RS384"
  | .rs512 => "RS512"
  | .ps256 => "PS256"
  | .unsupported id => s!"COSE({id})"

/-- The hash function whose digest is signed, where there is one outside the algorithm. -/
def hash? : CoseAlgorithm → Option Hash
  | .es256 | .rs256 | .ps256 => some .sha256
  | .es384 | .rs384 => some .sha384
  | .es512 | .rs512 => some .sha512
  | .edDsa | .unsupported _ => none

/-- The digest of a message that is signed. -/
def digest? (algorithm : CoseAlgorithm) (message : Bytes) : Option Bytes :=
  algorithm.hash?.map (·.digest message)

@[simp] theorem id_ofId (id : Int) : (ofId id).id = id := by
  unfold ofId
  repeat' split
  all_goals simp_all [CoseAlgorithm.id]

end CoseAlgorithm

end Passkey
