import Passkey.RelyingParty.Assertion
import Passkey.RelyingParty.Store
import Passkey.Report.Record

/-!
# Reports of ceremonies

The results of ceremonies, the calls that they made, and what is stored.
-/

namespace Passkey

/-- The name of a type. -/
def AttestationType.name : AttestationType → String
  | .none => "None"
  | .self => "SelfAttestation"
  | .basic => "Basic"
  | .uncertain => "Uncertain"

/-- The types. -/
def AttestationType.all : List AttestationType := [.none, .self, .basic, .uncertain]

namespace Report

/-- A verdict on an attestation. -/
def verdict (v : AttestationVerdict) : Json :=
  obj [("format", str v.format.name), ("type", str v.type.name),
    ("trust_path", arr (fun c => str c.subject) v.trustPath),
    ("trustworthy", .bool v.trustworthy), ("warnings", arr (fun w => str w.message) v.warnings)]

/-- A credential. -/
def credential (c : RegisteredCredential) : Json :=
  obj [("credential_id", hex c.credentialId), ("user_handle", hex c.userHandle),
    ("alg", .ofInt c.publicKey.algorithm.id), ("public_key", publicKey c.publicKey.key),
    ("public_key_bytes", hex c.publicKeyBytes), ("signature_count", num c.signatureCount.toNat),
    ("aaguid", str c.aaguid.toString)]

/-- The result of a registration. -/
def registration (r : RegistrationResult) : Json :=
  obj [("credential", credential r.credential), ("attestation", verdict r.attestation),
    ("user_verified", .bool r.userVerified), ("backup_eligible", .bool r.backupEligible),
    ("backed_up", .bool r.backedUp), ("warnings", arr (fun w => str w.message) r.warnings)]

/-- The result of an authentication. -/
def assertion (r : AssertionResult) : Json :=
  obj [("credential_id", hex r.credentialId), ("user_handle", hex r.userHandle),
    ("signature_count", num r.signatureCount.toNat),
    ("signature_counter_valid", .bool r.counterValid), ("user_verified", .bool r.userVerified),
    ("backup_eligible", .bool r.backupEligible), ("backed_up", .bool r.backedUp),
    ("warnings", arr (fun w => str w.message) r.warnings)]

/-- The call that a question makes to the repository, if it makes one. -/
def call? : Query → Option Json
  | .lookup id => some (.array [str "lookup", hex id])
  | .isRegistered id => some (.array [str "exists_anywhere", hex id])
  | .updateCounter id expected new =>
    some (.array [str "update_counter", hex id, num expected.toNat, num new.toNat])
  | .trustRoots _ _ => none

/-- The counters of all credentials that are stored. -/
def counters (s : CredentialStore) : Json :=
  obj (s.entries.map fun (id, c) => (id.toHex, num c.signatureCount.toNat))

end Report

end Passkey
