import Mathlib.Logic.Basic
import Passkey.Proofs.FirstFailure
import Passkey.Proofs.RelyingParty.Checks
import Passkey.RelyingParty.Ceremony

/-!
# Which error the shared checks end in

The checks that both ceremonies make, each with the condition under which it fails and the error that
it then gives. The conditions are about what was received and what is expected of it. What a check is
about must be there for it to fail, and nothing is assumed of the other checks.
-/

namespace Passkey

variable {α β σ : Type}

/-- The checks of client data. -/
inductive ClientDataCheck where
  | type
  | challenge
  | origin
  | tokenBinding
  deriving DecidableEq, Repr

/-- When a check of client data fails, and with which error. -/
def ClientData.Fails (d : ClientData) (type : String) (challenge : Bytes)
    (config : RelyingPartyConfig) (tokenBindingId : Option String) :
    ClientDataCheck → CeremonyError → Prop
  | .type, e => d.type ≠ type ∧ e = .typeMismatch type d.type
  | .challenge, e => d.challenge ≠ challenge ∧ e = .challengeMismatch
  | .origin, e => d.origin ∉ config.origins.toList ∧ e = .originMismatch d.origin
  | .tokenBinding, e =>
    -- One that is expected is not in use, or one is in use that is not expected.
    ((∃ id, tokenBindingId = some id ∧
        ¬ ∃ b, d.tokenBinding = some b ∧ b.status = .present ∧ b.id = some id) ∨
      (tokenBindingId = none ∧ (∃ b, d.tokenBinding = some b ∧ b.status = .present) ∧
        config.tokenBindingPolicy = .reject)) ∧
    e = .tokenBindingMismatch

/-- The checks of the scope of a record and of the user's presence. -/
inductive RecordCheck where
  | rpIdHash
  | userPresent
  | userVerified
  deriving DecidableEq, Repr

/-- When a check of a record fails, and with which error. -/
def AuthenticatorData.Fails (data : AuthenticatorData) (rpId : String)
    (verification : UserVerification) : RecordCheck → CeremonyError → Prop
  | .rpIdHash, e => data.rpIdHash ≠ sha256 (Utf8.encode rpId) ∧ e = .rpIdHashMismatch
  | .userPresent, e => data.flags.userPresent = false ∧ e = .userPresenceRequired
  | .userVerified, e =>
    (verification = .required ∧ data.flags.userVerified = false) ∧ e = .userVerificationRequired

theorem not_tokenBindingFits_iff {d : ClientData} {expected : Option String}
    {policy : TokenBindingPolicy} :
    (!tokenBindingFits expected policy d.presentBinding?) = true ↔
      (∃ id, expected = some id ∧
        ¬ ∃ b, d.tokenBinding = some b ∧ b.status = .present ∧ b.id = some id) ∨
      (expected = none ∧ (∃ b, d.tokenBinding = some b ∧ b.status = .present) ∧
        policy = .reject) := by
  have hpolicy : policy = .reject ↔ ¬ policy = .ignore := by cases policy <;> simp
  rw [Bool.not_eq_true', ← Bool.not_eq_true, tokenBindingFits_iff, hpolicy]
  simp only [not_and_or, not_forall, exists_prop]

theorem ClientData.decidedBy_check (d : ClientData) (type : CeremonyType) (challenge : Bytes)
    (config : RelyingPartyConfig) (tokenBindingId : Option String) :
    DecidedBy (d.Fails type.name challenge config tokenBindingId)
      [.type, .challenge, .origin, .tokenBinding]
      (d.check ⟨type, challenge, config.origins, tokenBindingId, config.tokenBindingPolicy⟩) := by
  have horigin : d.origin ∉ config.origins.toList ↔ (!config.origins.contains d.origin) = true := by
    simp [OriginSet.contains]
  refine decidedBy_refuse (fun e => Iff.rfl) ?_
  refine decidedBy_refuse (fun e => Iff.rfl) ?_
  refine decidedBy_refuse (fun e => and_congr_left' horigin) ?_
  refine decidedBy_refuse (fun e => and_congr_left' not_tokenBindingFits_iff.symm) ?_
  exact decidedBy_ok ()

theorem decidedBy_checkRpIdHash (data : AuthenticatorData) (rpId : String)
    (verification : UserVerification) :
    DecidedBy (data.Fails rpId verification) [.rpIdHash] (checkRpIdHash data rpId) :=
  decidedBy_require (fun _ => Iff.rfl) (decidedBy_ok ())

theorem decidedBy_checkUser (data : AuthenticatorData) (rpId : String)
    (verification : UserVerification) :
    DecidedBy (data.Fails rpId verification) [.userPresent, .userVerified]
      (checkUser data.flags verification) := by
  refine decidedBy_refuse (fun e => and_congr_left' ?_) <|
    decidedBy_refuse (fun e => and_congr_left' ?_) (decidedBy_ok ())
  · simp
  · simp

/-- What is asked about anything that was read is asked about what was read. -/
theorem exists_ok_and {ε : Type} {x : Except ε α} {a : α} {p : α → Prop} (h : x = .ok a) :
    (∃ b, x = .ok b ∧ p b) ↔ p a := by
  simp [h]

/-- The result of a check and then of a ceremony is that of a chain of two steps. -/
theorem Ceremony.result_attempt (surroundings : Surroundings σ) (s : σ)
    (x : Except CeremonyError β) (next : β → Ceremony α) :
    ((Ceremony.attempt x next).run surroundings s).result =
      x >>= fun b => ((next b).run surroundings s).result := by
  cases x <;> rfl

end Passkey
