import Passkey.RelyingParty.Error
import Passkey.RelyingParty.OriginSet

/-!
# Client data

What the client collected about a ceremony and its authenticator signed, and the checks of it
against what the relying party expects.
-/

namespace Passkey

/-- The kinds of ceremony. -/
inductive CeremonyType where
  | create
  | get
  deriving DecidableEq, Repr

/-- The type that client data of a ceremony names. -/
def CeremonyType.name : CeremonyType → String
  | .create => "webauthn.create"
  | .get => "webauthn.get"

/-- Whether the connection had a token binding. -/
inductive TokenBindingStatus where
  | present
  | supported
  | notSupported
  deriving DecidableEq, Repr

/-- The token binding of the connection. -/
structure TokenBinding where
  status : TokenBindingStatus
  id : Option String
  deriving DecidableEq, Repr

/-- What to do about a token binding that is not expected. -/
inductive TokenBindingPolicy where
  | reject
  | ignore
  deriving DecidableEq, Repr

/-- Client data. -/
structure ClientData where
  type : String
  challenge : Bytes
  origin : String
  crossOrigin : Option Bool
  topOrigin : Option String
  tokenBinding : Option TokenBinding
  deriving DecidableEq, Repr

/-- What client data should say. -/
structure ExpectedClientData where
  type : CeremonyType
  challenge : Bytes
  origins : OriginSet
  tokenBindingId : Option String
  tokenBindingPolicy : TokenBindingPolicy
  deriving DecidableEq, Repr

/-- The token binding, if the connection used it. -/
def ClientData.presentBinding? (d : ClientData) : Option TokenBinding :=
  d.tokenBinding.filter (·.status = .present)

/-- Whether a token binding fits. One that is expected must be used; one that is not expected may
be used only if the policy ignores it. -/
def tokenBindingFits (expected : Option String) (policy : TokenBindingPolicy) :
    Option TokenBinding → Bool
  | none => expected.isNone
  | some binding =>
    match expected with
    | some id => binding.id = some id
    | none => policy = .ignore

/-- Checks client data. -/
def ClientData.check (d : ClientData) (e : ExpectedClientData) : Except CeremonyError Unit :=
  if d.type ≠ e.type.name then .error (.typeMismatch e.type.name d.type)
  else if d.challenge ≠ e.challenge then .error .challengeMismatch
  else if !e.origins.contains d.origin then .error (.originMismatch d.origin)
  else if !tokenBindingFits e.tokenBindingId e.tokenBindingPolicy d.presentBinding? then
    .error .tokenBindingMismatch
  else .ok ()

end Passkey
