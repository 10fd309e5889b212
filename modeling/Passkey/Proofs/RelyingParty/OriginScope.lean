import Passkey.Proofs.RelyingParty.AssertionAcceptance
import Passkey.Proofs.RelyingParty.RegistrationAcceptance
import Passkey.RelyingParty.Validation

/-!
# Origins stay within the domain

The origins of a relying party are judged once, when it is set up: each must be read as a location
whose scheme protects what is sent, and whose host is the domain or lies below it. A ceremony only
looks for the origin among these, letter by letter. Together the two checks keep every accepted
response within the domain, however its origin is spelled.
-/

namespace Passkey

/-- An origin that a relying party with this domain may accept. -/
def OriginInScope (rpId origin : String) : Prop :=
  ∃ location host, Url.Location.ofText? origin = .ok location ∧ location.host = some host ∧
    (location.scheme = "https" ∨ location.scheme = "http" ∧ host.text = "localhost") ∧
    (host.text = rpId ∨ ∃ front, host.text = front ++ "." ++ rpId)

/-! ### What the checks of a configuration establish -/

theorem isSecure_iff {scheme host : String} :
    isSecure scheme host = true ↔ scheme = "https" ∨ scheme = "http" ∧ host = "localhost" := by
  simp [isSecure]

/-- A label boundary lies before the domain: the host ends in a dot and the domain. -/
theorem isWithin_iff {rpId host : String} :
    isWithin rpId host = true ↔ host = rpId ∨ ∃ front, host = front ++ "." ++ rpId := by
  have hsuffix : '.' :: rpId.toList <:+ host.toList ↔ ∃ front, host = front ++ "." ++ rpId := by
    constructor
    · rintro ⟨front, hfront⟩
      refine ⟨String.ofList front, ?_⟩
      rw [← String.toList_inj, ← hfront]
      simp
    · rintro ⟨front, rfl⟩
      exact ⟨front.toList, by simp⟩
  simp [isWithin, hsuffix]

namespace RelyingPartyConfig

theorem validateOrigin_eq_ok {rpId origin : String} :
    validateOrigin rpId origin = .ok () ↔ OriginInScope rpId origin := by
  unfold validateOrigin OriginInScope
  cases Url.Location.ofText? origin with
  | error e => simp
  | ok location =>
    obtain ⟨scheme, _ | host⟩ := location
    · simp
    · simp only [refuse_eq_ok, Bool.not_eq_true', Bool.not_eq_false, isSecure_iff, isWithin_iff,
        and_true]
      simp

theorem validateOrigins_eq_ok {rpId : String} {origins : List String} :
    validateOrigins rpId origins = .ok () ↔ ∀ origin ∈ origins, OriginInScope rpId origin := by
  induction origins with
  | nil => simp [validateOrigins]
  | cons origin rest ih =>
    rw [validateOrigins, List.forall_mem_cons, ← validateOrigin_eq_ok, ← ih]
    cases validateOrigin rpId origin <;> simp

theorem validate_eq_ok {c : RelyingPartyConfig} :
    c.validate = .ok () ↔
      c.origins.toList ≠ [] ∧ (∀ origin ∈ c.origins.toList, OriginInScope c.identity.id origin) ∧
        16 ≤ c.challengeLength.toNat := by
  rw [validate, refuse_eq_ok, ← validateOrigins_eq_ok, OriginSet.isEmpty, List.isEmpty_iff]
  refine and_congr_right fun _ => ?_
  cases validateOrigins c.identity.id c.origins.toList with
  | error e => simp
  | ok =>
    simp only [refuse_eq_ok, Nat.not_lt, and_true, true_and]
    rfl

end RelyingPartyConfig

theorem RelyingParty.config_of_ofConfig {config : RelyingPartyConfig} {party : RelyingParty}
    (h : RelyingParty.ofConfig config = .ok party) : party.config = config := by
  unfold RelyingParty.ofConfig at h
  split at h
  · cases h
    rfl
  · cases h

theorem ClientData.Answers.originInScope {d : ClientData} {type : String} {challenge : Bytes}
    {party : RelyingParty} {tokenBindingId : Option String}
    (h : d.Answers type challenge party.config tokenBindingId) :
    OriginInScope party.config.identity.id d.origin :=
  (RelyingPartyConfig.validate_eq_ok.1 party.isValid).2.1 d.origin h.origin_mem

/-! ### Accepted responses -/

/-- Whatever a relying party accepts carries an origin within its domain, under any surroundings,
options and responses. And a configuration is valid exactly if it has an origin, all of its origins
are within the domain, and its challenges have sixteen bytes at least. -/
theorem accepted_origin_in_scope :
    (∀ (config : RelyingPartyConfig) (party : RelyingParty),
      RelyingParty.ofConfig config = .ok party →
      ∀ (σ : Type) (surroundings : Surroundings σ) (s : σ) (tokenBindingId : Option String),
        (∀ (options : CreationOptions) (response : CreatedCredential) (now : Instant)
          (result : RegistrationResult),
          ((finishRegistration party.config options response tokenBindingId now).run surroundings
            s).result = .ok result →
          ∃ d, ClientData.decode response.response.clientData = .ok d ∧
            OriginInScope config.identity.id d.origin) ∧
        (∀ (options : RequestOptions) (response : AssertedCredential) (result : AssertionResult),
          ((finishAssertion party.config options response tokenBindingId).run surroundings
            s).result = .ok result →
          ∃ d, ClientData.decode response.response.clientData = .ok d ∧
            OriginInScope config.identity.id d.origin)) ∧
    ∀ config : RelyingPartyConfig, config.validate = .ok () ↔
      config.origins.toList ≠ [] ∧
        (∀ origin ∈ config.origins.toList, OriginInScope config.identity.id origin) ∧
        16 ≤ config.challengeLength.toNat := by
  refine ⟨?_, fun config => RelyingPartyConfig.validate_eq_ok⟩
  intro config party hparty σ surroundings s tokenBindingId
  obtain rfl := RelyingParty.config_of_ofConfig hparty
  constructor
  · intro options response now result h
    obtain ⟨d, _, _, _, _, hp, -⟩ := Registration.accepted h
    exact ⟨d, hp.clientData_read, hp.clientData_answers.originInScope⟩
  · intro options response result h
    rcases Assertion.run_cases surroundings s party.config options response tokenBindingId with
      ⟨e, he⟩ | ⟨e, he⟩ | ⟨d, _, _, -, hp⟩
    · rw [he] at h
      cases h
    · rw [he] at h
      cases h
    · exact ⟨d, hp.clientData_read, hp.clientData_answers.originInScope⟩

end Passkey
