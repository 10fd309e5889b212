import Passkey.Cose.Algorithm
import Passkey.Json.Record
import Passkey.Text.Base64

/-!
# Scalars on the wire

Bytes travel in JSON as base64 that is safe in addresses, algorithms by their identifiers, and the
members of an enumeration by their names.
-/

namespace Passkey.Wire

/-- Bytes as they travel. -/
def ofBytes (bs : Bytes) : Json := .ofText (Base64.encodeUrl bs)

/-- Reads bytes. Padding is optional. -/
def bytes? (j : Json) : Option Bytes := j.text? >>= Base64.decodeUrl?

/-- Bytes as they are shown in diagnostics. -/
def describeBytes (bs : Bytes) : String := s!"ByteArray({Base64.encodeUrl bs})"

/-- An algorithm as it travels. -/
def ofAlgorithm (a : CoseAlgorithm) : Json := .ofInt a.id

/-- Reads an algorithm, whose identifier has 64 bits. -/
def algorithm? (j : Json) : Option CoseAlgorithm :=
  (j.intIn? (-0x8000000000000000) 0x7fffffffffffffff).map CoseAlgorithm.ofId

/-- A number of 64 bits as it travels. -/
def ofWord (n : UInt64) : Json := .ofInt n.toNat

/-- Reads a number of 64 bits. -/
def word? (j : Json) : Option UInt64 := j.word64?.map UInt64.ofNat

/-- An enumeration whose members travel by name. -/
class Named (α : Type) where
  name : α → String
  members : List α

/-- A member of an enumeration as it travels. -/
def ofNamed {α : Type} [Named α] (a : α) : Json := .ofText (Named.name a)

/-- Reads a member of an enumeration. -/
def named? {α : Type} [Named α] (j : Json) : Option α := j.choice? Named.name Named.members

/-- The type that every credential has. -/
def credentialType : String := "public-key"

/-- Reads the type of a credential. -/
def credentialType? (j : Json) : Option Unit := j.choice? (fun _ => credentialType) [()]

end Passkey.Wire
