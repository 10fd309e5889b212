import Passkey.RelyingParty.Config
import Passkey.Wire.ClientData
import Passkey.Wire.Options

/-!
# Configurations on the wire
-/

namespace Passkey

open Wire Json

instance : Named CounterPolicy where
  name
    | .reject => "reject"
    | .flagAndAccept => "flag-and-accept"
  members := [.reject, .flagAndAccept]

instance : Named UnknownAttestationPolicy where
  name
    | .acceptUncertain => "accept-uncertain"
    | .reject => "reject"
  members := [.acceptUncertain, .reject]

namespace RelyingPartyConfig

/-- The members of a configuration, in their declared order. -/
def memberNames : List String :=
  ["identity", "origins", "challenge_length", "preferred_algorithms", "timeout", "attestation",
    "token_binding_policy", "counter_policy", "unknown_attestation", "allow_untrusted_attestation"]

/-- The JSON form. A timeout that is not set is written as null. -/
def toJson (c : RelyingPartyConfig) : Json :=
  ofMembers
    [("identity", some c.identity.toJson), ("origins", some (ofList ofText c.origins.toList)),
      ("challenge_length", some (ofWord c.challengeLength)),
      ("preferred_algorithms", some (ofList ofAlgorithm c.preferredAlgorithms)),
      ("timeout", some ((c.timeout.map ofWord).getD .null)),
      ("attestation", some (ofNamed c.attestation)),
      ("token_binding_policy", some (ofNamed c.tokenBindingPolicy)),
      ("counter_policy", some (ofNamed c.counterPolicy)),
      ("unknown_attestation", some (ofNamed c.unknownAttestation)),
      ("allow_untrusted_attestation", some (.bool c.allowUntrustedAttestation))]

def ofJson? (j : Json) : Option RelyingPartyConfig := do
  let r ← j.record? memberNames
  let identity ← r.required? "identity" RelyingPartyIdentity.ofJson?
  let origins ← r.required? "origins" (list? text?)
  let default := ofOrigins identity origins
  return {
    identity
    origins := default.origins
    challengeLength := ← r.withDefault? "challenge_length" default.challengeLength word?
    preferredAlgorithms :=
      ← r.withDefault? "preferred_algorithms" default.preferredAlgorithms (list? algorithm?)
    timeout := ← r.optional? "timeout" word?
    attestation := ← r.withDefault? "attestation" default.attestation named?
    tokenBindingPolicy := ← r.withDefault? "token_binding_policy" default.tokenBindingPolicy named?
    counterPolicy := ← r.withDefault? "counter_policy" default.counterPolicy named?
    unknownAttestation := ← r.withDefault? "unknown_attestation" default.unknownAttestation named?
    allowUntrustedAttestation :=
      ← r.withDefault? "allow_untrusted_attestation" default.allowUntrustedAttestation bool? }

end RelyingPartyConfig

end Passkey
