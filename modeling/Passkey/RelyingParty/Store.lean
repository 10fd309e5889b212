import Passkey.Attestation.Roots
import Passkey.RelyingParty.Ceremony
import Passkey.Table

/-!
# A repository in memory

Credentials under their identifiers, no two under the same. The counter of one is replaced only if
it is still what the caller takes it to be.
-/

namespace Passkey

/-- A repository. -/
structure CredentialStore where
  entries : List (Bytes × RegisteredCredential)
  distinct : (entries.map (·.1)).Nodup
  deriving Repr

namespace CredentialStore

/-- The repository without credentials. -/
def empty : CredentialStore := ⟨[], .nil⟩

/-- The credential under an identifier. -/
def get? (s : CredentialStore) (id : Bytes) : Option RegisteredCredential :=
  Table.get? s.entries id

/-- Whether a credential is under an identifier. -/
def contains (s : CredentialStore) (id : Bytes) : Bool := (s.get? id).isSome

/-- How many credentials there are. -/
def size (s : CredentialStore) : Nat := s.entries.length

/-- Puts a credential under its identifier, in place of the one that is there. -/
def insert (s : CredentialStore) (c : RegisteredCredential) : CredentialStore :=
  ⟨Table.alter c.credentialId (fun _ => c) s.entries, Table.nodup_alter s.distinct⟩

/-- Replaces the counter of the credential under an identifier. -/
def setCounter (s : CredentialStore) (id : Bytes) (new : UInt32) : CredentialStore :=
  match s.get? id with
  | some c =>
    ⟨Table.alter id (fun _ => { c with signatureCount := new }) s.entries,
      Table.nodup_alter s.distinct⟩
  | none => s

/-- Whether the credential under an identifier has this counter. -/
def hasCounter (s : CredentialStore) (id : Bytes) (expected : UInt32) : Bool :=
  (s.get? id).any (·.signatureCount = expected)

/-- Replaces the counter of a credential if it is the expected one. -/
def updateCounter (s : CredentialStore) (id : Bytes) (expected new : UInt32) :
    Bool × CredentialStore :=
  if s.hasCounter id expected then (true, s.setCounter id new) else (false, s)

/-- The surroundings that consist of a repository and, perhaps, a resolver of roots. The repository
never fails. -/
def surroundings (resolver : Option TrustRootResolver) : Surroundings CredentialStore
  | s, .lookup id => (.ok (s.get? id), s)
  | s, .isRegistered id => (.ok (s.contains id), s)
  | s, .updateCounter id expected new =>
    let (updated, s) := s.updateCounter id expected new
    (.ok updated, s)
  | s, .trustRoots aaguid format => (resolver.map fun resolve => resolve aaguid format, s)

end CredentialStore

end Passkey
