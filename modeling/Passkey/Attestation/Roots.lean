import Passkey.Attestation.Format
import Passkey.Table
import Passkey.X509.Certificate

/-!
# Trusted roots

Which roots a chain may lead to depends on the authenticator's model and on the format. A resolver
answers that, or gives the reason why it cannot; `StaticTrustRoots` is one that always can, with a
table of roots by model and another by format.
-/

namespace Passkey

/-- Looks up the roots for a model, where one is reported, and a format. -/
abbrev TrustRootResolver :=
  Option Aaguid → AttestationFormat → Except String (List X509.Certificate)

/-- Lists of roots under keys, no two under the same. -/
structure RootTable (κ : Type) where
  entries : List (κ × List X509.Certificate)
  distinct : (entries.map (·.1)).Nodup
  deriving Repr

namespace RootTable

variable {κ : Type} [DecidableEq κ]

/-- The table without keys. -/
def empty : RootTable κ := ⟨[], .nil⟩

/-- Puts a root at the end of the list under a key. A key that has no list gets one. -/
def push (t : RootTable κ) (key : κ) (root : X509.Certificate) : RootTable κ :=
  ⟨Table.alter key (fun roots => roots.getD [] ++ [root]) t.entries, Table.nodup_alter t.distinct⟩

/-- The roots under a key. -/
def under (t : RootTable κ) (key : κ) : List X509.Certificate :=
  (Table.get? t.entries key).getD []

end RootTable

/-- Roots registered for models and for formats. -/
structure StaticTrustRoots where
  byAaguid : RootTable Aaguid
  byFormat : RootTable AttestationFormat
  deriving Repr

namespace StaticTrustRoots

/-- No roots. -/
def empty : StaticTrustRoots := ⟨.empty, .empty⟩

/-- Trusts a root for the authenticators of a model. -/
def withAaguidRoot (r : StaticTrustRoots) (aaguid : Aaguid) (root : X509.Certificate) :
    StaticTrustRoots :=
  { r with byAaguid := r.byAaguid.push aaguid root }

/-- Trusts a root for every statement of a format. -/
def withFormatRoot (r : StaticTrustRoots) (format : AttestationFormat) (root : X509.Certificate) :
    StaticTrustRoots :=
  { r with byFormat := r.byFormat.push format root }

/-- The roots of the model, then those of the format. -/
def roots (r : StaticTrustRoots) (aaguid : Option Aaguid) (format : AttestationFormat) :
    List X509.Certificate :=
  (match aaguid with
    | some a => r.byAaguid.under a
    | none => []) ++ r.byFormat.under format

/-- The resolver that looks roots up here. -/
def resolver (r : StaticTrustRoots) : TrustRootResolver := fun aaguid format =>
  .ok (r.roots aaguid format)

end StaticTrustRoots

end Passkey
