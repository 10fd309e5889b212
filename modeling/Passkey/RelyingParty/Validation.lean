import Passkey.RelyingParty.Config
import Passkey.Url.Location

/-!
# Valid configurations

A relying party can be set up only if responses from each of its origins are protected on the way
and come from its own domain, and if its challenges are long enough.
-/

namespace Passkey

/-- What is wrong with an origin as such. -/
inductive OriginDefect where
  | unreadable (error : Url.UrlError)
  | noHost
  | notSecure
  deriving DecidableEq, Repr

/-- The wording of a defect. -/
def OriginDefect.message : OriginDefect → String
  | .unreadable error => error.message
  | .noHost => "no host"
  | .notSecure => "scheme must be https"

/-- Why a configuration is not valid. -/
inductive ConfigError where
  | noOrigins
  | invalidOrigin (origin : String) (defect : OriginDefect)
  | originOutsideRpId (origin rpId : String)
  | challengeTooShort (length : Nat)
  deriving DecidableEq, Repr

/-- The wording of an error. -/
def ConfigError.message : ConfigError → String
  | .noOrigins => "at least one origin must be configured"
  | .invalidOrigin origin defect => s!"invalid origin {origin}: {defect.message}"
  | .originOutsideRpId origin rpId => s!"origin {origin} is not within RP ID {rpId}"
  | .challengeTooShort length => (OptionsError.challengeTooShort length).message

/-- Whether what is sent to this scheme and host is protected. The own machine needs no
protection. -/
def isSecure (scheme host : String) : Bool :=
  scheme = "https" || (scheme = "http" && host = "localhost")

/-- Whether a host is the domain of a relying party or lies below it. -/
def isWithin (rpId host : String) : Bool :=
  host = rpId || List.isSuffixOf ('.' :: rpId.toList) host.toList

namespace RelyingPartyConfig

/-- Checks one origin. -/
def validateOrigin (rpId origin : String) : Except ConfigError Unit :=
  match Url.Location.ofText? origin with
  | .error e => .error (.invalidOrigin origin (.unreadable e))
  | .ok location =>
    match location.host with
    | none => .error (.invalidOrigin origin .noHost)
    | some host =>
      if !isSecure location.scheme host.text then .error (.invalidOrigin origin .notSecure)
      else if !isWithin rpId host.text then .error (.originOutsideRpId origin rpId)
      else .ok ()

/-- Checks origins in order. -/
def validateOrigins (rpId : String) : List String → Except ConfigError Unit
  | [] => .ok ()
  | origin :: rest =>
    match validateOrigin rpId origin with
    | .error e => .error e
    | .ok () => validateOrigins rpId rest

/-- Checks a configuration. -/
def validate (c : RelyingPartyConfig) : Except ConfigError Unit :=
  if c.origins.isEmpty then .error .noOrigins
  else
    match validateOrigins c.identity.id c.origins.toList with
    | .error e => .error e
    | .ok () =>
      if c.challengeLength.toNat < minChallengeLength then
        .error (.challengeTooShort c.challengeLength.toNat)
      else .ok ()

end RelyingPartyConfig

/-- A relying party: a configuration that has been checked. -/
structure RelyingParty where
  config : RelyingPartyConfig
  isValid : config.validate = .ok ()

/-- Sets a relying party up. -/
def RelyingParty.ofConfig (config : RelyingPartyConfig) : Except ConfigError RelyingParty :=
  match h : config.validate with
  | .ok () => .ok ⟨config, h⟩
  | .error e => .error e

end Passkey
