import Passkey.Attestation.AndroidKey
import Passkey.Attestation.Format
import Passkey.Attestation.Packed
import Passkey.Attestation.SafetyNet
import Passkey.Attestation.Tpm
import Passkey.Attestation.U2f

/-!
# Verifying a statement

Each format has its own procedure. An empty attestation and one of an unknown format never fail;
what they are worth is for the caller to decide.
-/

namespace Passkey.Attestation

/-- What a statement in this format establishes about the credential it was sent with. -/
def verifyStatement (format : AttestationFormat) (s : AttestationStatement)
    (context : AttestationContext) : Except AttestationError StatementVerdict :=
  match format with
  | .none => .ok StatementVerdict.none
  | .packed => verifyPacked s context
  | .fidoU2f => verifyU2f s context
  | .androidKey => verifyAndroidKey s context
  | .androidSafetyNet => verifySafetyNet s context
  | .tpm => verifyTpm s context
  | .unknown _ => .ok StatementVerdict.uncertain

end Passkey.Attestation
