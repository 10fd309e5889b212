import Passkey.Json.Reader
import Passkey.RelyingParty.ClientData
import Passkey.Wire.Scalar

/-!
# Client data on the wire
-/

namespace Passkey

open Wire Json

instance : Named TokenBindingStatus where
  name
    | .present => "present"
    | .supported => "supported"
    | .notSupported => "not-supported"
  members := [.present, .supported, .notSupported]

instance : Named TokenBindingPolicy where
  name
    | .reject => "reject"
    | .ignore => "ignore"
  members := [.reject, .ignore]

namespace TokenBinding

def toJson (b : TokenBinding) : Json :=
  ofMembers [("status", some (ofNamed b.status)), ("id", b.id.map ofText)]

def ofJson? (j : Json) : Option TokenBinding := do
  let r ← j.record? ["status", "id"]
  return ⟨← r.required? "status" named?, ← r.optional? "id" text?⟩

end TokenBinding

namespace ClientData

/-- The members of client data, in their declared order. -/
def memberNames : List String :=
  ["type", "challenge", "origin", "crossOrigin", "topOrigin", "tokenBinding"]

def toJson (d : ClientData) : Json :=
  ofMembers
    [("type", some (ofText d.type)), ("challenge", some (ofBytes d.challenge)),
      ("origin", some (ofText d.origin)), ("crossOrigin", d.crossOrigin.map .bool),
      ("topOrigin", d.topOrigin.map ofText),
      ("tokenBinding", d.tokenBinding.map TokenBinding.toJson)]

def ofJson? (j : Json) : Option ClientData := do
  let r ← j.record? memberNames
  return {
    type := ← r.required? "type" text?
    challenge := ← r.required? "challenge" bytes?
    origin := ← r.required? "origin" text?
    crossOrigin := ← r.optional? "crossOrigin" bool?
    topOrigin := ← r.optional? "topOrigin" text?
    tokenBinding := ← r.optional? "tokenBinding" TokenBinding.ofJson? }

/-- Reads client data from its JSON text. What is wrong with a text is not repeated in the error. -/
def decode (text : Bytes) : Except CeremonyError ClientData :=
  match Json.read? text >>= ofJson? with
  | some d => .ok d
  | none => .error (.malformedClientData withheld)

end ClientData

end Passkey
