import Passkey.Proofs.Fallible
import Passkey.RelyingParty.Assertion

/-!
# What the shared checks establish

Both ceremonies check the identifier, the client data, the scope and the presence of the user. Each
check succeeds exactly if the response has a property that can be stated without the check. The
properties of client data are gathered in `ClientData.Answers`.
-/

namespace Passkey

theorem checkId_eq_ok {id : String} {rawId : Bytes} :
    checkId id rawId = .ok () ↔ Base64.decodeUrl? id = some rawId := by
  simp only [checkId, require_eq_ok, and_true]

theorem checkRpIdHash_eq_ok {data : AuthenticatorData} {rpId : String} :
    checkRpIdHash data rpId = .ok () ↔ data.rpIdHash = sha256 (Utf8.encode rpId) := by
  simp only [checkRpIdHash, require_eq_ok, and_true]

theorem checkUser_eq_ok {flags : AuthenticatorFlags} {verification : UserVerification} :
    checkUser flags verification = .ok () ↔
      flags.userPresent = true ∧ (verification = .required → flags.userVerified = true) := by
  simp only [checkUser, refuse_eq_ok, and_true]
  simp

/-! ### Client data -/

/-- Client data that answers a challenge. A token binding that is expected is in use under the
expected identifier; where none is expected, one may be in use only if that is to be ignored. -/
structure ClientData.Answers (d : ClientData) (type : String) (challenge : Bytes)
    (config : RelyingPartyConfig) (tokenBindingId : Option String) : Prop where
  type_eq : d.type = type
  challenge_eq : d.challenge = challenge
  origin_mem : d.origin ∈ config.origins.toList
  binding_used : ∀ id, tokenBindingId = some id →
    ∃ b, d.tokenBinding = some b ∧ b.status = .present ∧ b.id = some id
  binding_ignored : tokenBindingId = none →
    (∃ b, d.tokenBinding = some b ∧ b.status = .present) → config.tokenBindingPolicy = .ignore

theorem ClientData.presentBinding?_eq_some {d : ClientData} {b : TokenBinding} :
    d.presentBinding? = some b ↔ d.tokenBinding = some b ∧ b.status = .present := by
  simp [ClientData.presentBinding?, Option.filter_eq_some_iff]

theorem tokenBindingFits_iff {d : ClientData} {expected : Option String}
    {policy : TokenBindingPolicy} :
    tokenBindingFits expected policy d.presentBinding? = true ↔
      (∀ id, expected = some id →
        ∃ b, d.tokenBinding = some b ∧ b.status = .present ∧ b.id = some id) ∧
      (expected = none →
        (∃ b, d.tokenBinding = some b ∧ b.status = .present) → policy = .ignore) := by
  simp only [← and_assoc, ← ClientData.presentBinding?_eq_some]
  cases d.presentBinding? with
  | none => cases expected <;> simp [tokenBindingFits]
  | some b => cases expected <;> simp [tokenBindingFits]

theorem ClientData.check_eq_ok {d : ClientData} {type : CeremonyType} {challenge : Bytes}
    {config : RelyingPartyConfig} {tokenBindingId : Option String} :
    d.check ⟨type, challenge, config.origins, tokenBindingId, config.tokenBindingPolicy⟩ = .ok () ↔
      d.Answers type.name challenge config tokenBindingId := by
  simp only [ClientData.check, refuse_eq_ok, and_true, ne_eq, Decidable.not_not, Bool.not_eq_true',
    Bool.not_eq_false, tokenBindingFits_iff, OriginSet.contains, List.contains_iff_mem]
  constructor
  · rintro ⟨ht, hc, ho, hu, hi⟩
    exact ⟨ht, hc, ho, hu, hi⟩
  · intro h
    exact ⟨h.type_eq, h.challenge_eq, h.origin_mem, h.binding_used, h.binding_ignored⟩

/-! ### Authenticator data -/

theorem AuthenticatorData.bytes_of_decode {bs : Bytes} {data : AuthenticatorData}
    (h : AuthenticatorData.decode bs = .ok data) : data.bytes = bs := by
  simp only [AuthenticatorData.decode, refuse_eq_ok, bind_eq_ok, pure_eq_ok] at h
  obtain ⟨-, _, -, _, -, -, rfl⟩ := h
  rfl

end Passkey
