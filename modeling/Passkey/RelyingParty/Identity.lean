import Passkey.RelyingParty.Error

/-!
# Relying parties and users
-/

namespace Passkey

/-- A relying party. -/
structure RelyingPartyIdentity where
  /-- The domain to which its credentials are scoped. -/
  id : String
  name : String
  deriving DecidableEq, Repr

/-- A user account. Its handle is neither empty nor too long. -/
structure UserIdentity where
  id : Bytes
  name : String
  displayName : String
  id_ne_nil : id ≠ []
  length_id_le : id.length ≤ maxUserHandleLength
  deriving DecidableEq, Repr

/-- Bytes in a handle that is drawn at random. -/
def generatedHandleLength : Nat := 32

/-- The user with this handle. -/
def UserIdentity.ofHandle (id : Bytes) (name displayName : String) :
    Except OptionsError UserIdentity :=
  if hn : id = [] then .error .emptyUserHandle
  else if hl : id.length ≤ maxUserHandleLength then .ok ⟨id, name, displayName, hn, hl⟩
  else .error (.userHandleTooLong id.length)

end Passkey
