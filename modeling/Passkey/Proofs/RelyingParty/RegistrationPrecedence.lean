import Passkey.Proofs.RelyingParty.AssertionPrecedence
import Passkey.Proofs.RelyingParty.RegistrationAcceptance

/-!
# Which error a registration ends in

The checks of a registration, in the order of `RegistrationCheck.all`, with the conditions under which
they fail. It ends in the error of the first check that fails. With that, what is said of both
ceremonies is complete: the first failure decides, and without one the ceremony is accepted.
-/

namespace Passkey

variable {α σ : Type}

/-- The checks of a registration. -/
inductive RegistrationCheck where
  | id
  | clientDataJson
  | attestationObject
  | clientData (check : ClientDataCheck)
  | record (check : RecordCheck)
  | attested
  | credentialId
  | algorithm
  | format
  | statement
  | roots
  | trust
  | repository
  | unused
  deriving DecidableEq, Repr

/-- The checks in order. -/
def RegistrationCheck.all : List RegistrationCheck :=
  [.id, .clientDataJson, .attestationObject, .clientData .type, .clientData .challenge,
    .clientData .origin, .clientData .tokenBinding, .record .rpIdHash, .record .userPresent,
    .record .userVerified, .attested, .credentialId, .algorithm, .format, .statement, .roots, .trust,
    .repository, .unused]

theorem RegistrationCheck.mem_all (check : RegistrationCheck) : check ∈ all := by
  rcases check with _ | _ | _ | (_ | _ | _ | _) | (_ | _ | _) | _ | _ | _ | _ | _ | _ | _ | _ | _ <;>
    decide

namespace Registration

variable (surroundings : Surroundings σ) (s : σ) (config : RelyingPartyConfig)
  (options : CreationOptions) (response : CreatedCredential) (tokenBindingId : Option String)
  (now : Instant)

/-- A response attests a credential, with this object and this verdict on its statement. -/
structure Attests (response : CreatedCredential) (object : AttestationObject)
    (attested : AttestedCredential) (verdict : StatementVerdict) : Prop where
  object_read : AttestationObject.decode response.response.attestationObject = .ok object
  credential_attested : object.data.attested = some attested
  statement_verified : Attestation.verifyStatement (.ofName object.format) object.statement
    ⟨object.data, sha256 response.response.clientData⟩ = .ok verdict

/-- The trust in an attestation, with the resolver as it answers. -/
def trust (object : AttestationObject) (attested : AttestedCredential)
    (verdict : StatementVerdict) : Except AttestationError AttestationVerdict :=
  evaluateTrust verdict (.ofName object.format) (modelOf attested)
    (surroundings.resolver s (modelOf attested) (.ofName object.format)) now

/-- The answer to whether the credential is registered, after the trust was evaluated. -/
def registered (object : AttestationObject) (attested : AttestedCredential)
    (verdict : StatementVerdict) : Except String Bool :=
  (surroundings (surroundings.afterTrust s verdict (modelOf attested) (.ofName object.format))
    (.isRegistered attested.credentialId)).1

/-- When a check of a registration fails, and with which error. -/
def Fails : RegistrationCheck → CeremonyError → Prop
  | .id, e => Base64.decodeUrl? response.id ≠ some response.rawId ∧ e = .idMismatch
  | .clientDataJson, e => ClientData.decode response.response.clientData = .error e
  | .attestationObject, e => ∃ defect,
    AttestationObject.decode response.response.attestationObject = .error defect ∧
      e = .decode defect
  | .clientData check, e => ∃ d, ClientData.decode response.response.clientData = .ok d ∧
    d.Fails "webauthn.create" options.challenge config tokenBindingId check e
  | .record check, e =>
    ∃ object, AttestationObject.decode response.response.attestationObject = .ok object ∧
      object.data.Fails options.rp.id options.userVerification check e
  | .attested, e =>
    ∃ object, AttestationObject.decode response.response.attestationObject = .ok object ∧
      object.data.attested = none ∧ e = .missingAttestedCredential
  | .credentialId, e =>
    ∃ object, AttestationObject.decode response.response.attestationObject = .ok object ∧
      ∃ attested, object.data.attested = some attested ∧
        attested.credentialId ≠ response.rawId ∧ e = .credentialIdMismatch
  | .algorithm, e =>
    ∃ object, AttestationObject.decode response.response.attestationObject = .ok object ∧
      ∃ attested, object.data.attested = some attested ∧
        attested.publicKey.algorithm ∉ options.algorithms ∧
        e = .unrequestedAlgorithm attested.publicKey.algorithm
  | .format, e =>
    ∃ object, AttestationObject.decode response.response.attestationObject = .ok object ∧
      ((∀ format ∈ AttestationFormat.known, format.name ≠ object.format) ∧
        config.unknownAttestation = .reject) ∧ e = .unsupportedFormat object.format
  | .statement, e =>
    ∃ object, AttestationObject.decode response.response.attestationObject = .ok object ∧
      ∃ reason, Attestation.verifyStatement (.ofName object.format) object.statement
        ⟨object.data, sha256 response.response.clientData⟩ = .error reason ∧ e = .attestation reason
  | .roots, e => ∃ object attested verdict, Attests response object attested verdict ∧
    verdict.type = .basic ∧ ∃ reason, (surroundings s
      (.trustRoots (modelOf attested) (.ofName object.format))).1 = some (.error reason) ∧
      e = .attestation (.trustResolution reason)
  | .trust, e => ∃ object attested verdict, Attests response object attested verdict ∧
    ∃ attestation, trust surroundings s now object attested verdict = .ok attestation ∧
      (attestation.trustworthy = false ∧ config.allowUntrustedAttestation = false) ∧
      e = .untrustedAttestation
  | .repository, e => ∃ object attested verdict, Attests response object attested verdict ∧
    ∃ reason, registered surroundings s object attested verdict = .error reason ∧
      e = .repository reason
  | .unused, e => ∃ object attested verdict, Attests response object attested verdict ∧
    registered surroundings s object attested verdict = .ok true ∧ e = .alreadyRegistered

variable {surroundings s config options response tokenBindingId now}

section Read

variable {d : ClientData} {object : AttestationObject}

theorem decidedBy_checkClientData
    (hclient : ClientData.decode response.response.clientData = .ok d) :
    DecidedBy (Fails surroundings s config options response tokenBindingId now)
      [.clientData .type, .clientData .challenge, .clientData .origin, .clientData .tokenBinding]
      (d.check ⟨.create, options.challenge, config.origins, tokenBindingId,
        config.tokenBindingPolicy⟩) :=
  (d.decidedBy_check .create options.challenge config tokenBindingId).rename
    RegistrationCheck.clientData fun _ _ => exists_ok_and hclient

theorem decidedBy_checkScope
    (hobject : AttestationObject.decode response.response.attestationObject = .ok object) :
    DecidedBy (Fails surroundings s config options response tokenBindingId now)
      [.record .rpIdHash] (checkRpIdHash object.data options.rp.id) :=
  (decidedBy_checkRpIdHash object.data options.rp.id options.userVerification).rename
    RegistrationCheck.record fun _ _ => exists_ok_and hobject

theorem decidedBy_checkPresence
    (hobject : AttestationObject.decode response.response.attestationObject = .ok object) :
    DecidedBy (Fails surroundings s config options response tokenBindingId now)
      [.record .userPresent, .record .userVerified]
      (checkUser object.data.flags options.userVerification) :=
  (decidedBy_checkUser object.data options.rp.id options.userVerification).rename
    RegistrationCheck.record fun _ _ => exists_ok_and hobject

theorem decidedBy_newCredential
    (hobject : AttestationObject.decode response.response.attestationObject = .ok object) :
    DecidedBy (Fails surroundings s config options response tokenBindingId now)
      [.attested, .credentialId, .algorithm] (newCredential options response.rawId object.data) := by
  unfold newCredential
  split
  · next hnone =>
    exact decidedBy_error fun e => (exists_ok_and hobject).trans (by simp [hnone])
  · next attested hattested =>
    refine DecidedBy.skip (decidedBy_refuse (fun e => (exists_ok_and hobject).trans ?_) <|
      decidedBy_refuse (fun e => (exists_ok_and hobject).trans ?_) (decidedBy_ok _)) fun e => ?_
    · simp [hattested]
    · simp [hattested]
    · exact (exists_ok_and hobject).not.2 (by simp [hattested])

theorem decidedBy_acceptedFormat
    (hobject : AttestationObject.decode response.response.attestationObject = .ok object) :
    DecidedBy (Fails surroundings s config options response tokenBindingId now) [.format]
      (acceptedFormat config.unknownAttestation object.format) := by
  refine decidedBy_refuse (fun e => (exists_ok_and hobject).trans (and_congr_left' ?_))
    (decidedBy_ok _)
  rw [Bool.not_eq_true', ← Bool.not_eq_true, isKnown_ofName]
  simp

theorem decidedBy_verifyStatement
    (hobject : AttestationObject.decode response.response.attestationObject = .ok object) :
    DecidedBy (Fails surroundings s config options response tokenBindingId now) [.statement]
      ((Attestation.verifyStatement (.ofName object.format) object.statement
        ⟨object.data, sha256 response.response.clientData⟩).mapError
          CeremonyError.attestation) :=
  decidedBy_step fun _ => (exists_ok_and hobject).trans mapError_eq_error.symm

end Read

/-- The checks that need no one else. -/
theorem decidedBy_check :
    DecidedBy (Fails surroundings s config options response tokenBindingId now)
      [.id, .clientDataJson, .attestationObject, .clientData .type, .clientData .challenge,
        .clientData .origin, .clientData .tokenBinding, .record .rpIdHash, .record .userPresent,
        .record .userVerified, .attested, .credentialId, .algorithm, .format, .statement]
      (check config options response tokenBindingId) := by
  refine DecidedBy.next (decidedBy_require (fun _ => Iff.rfl) (decidedBy_ok ())) fun _ _ => ?_
  refine DecidedBy.next (decidedBy_step fun _ => Iff.rfl) fun d hclient => ?_
  refine DecidedBy.next (decidedBy_step fun _ => mapError_eq_error.symm) fun object hobject => ?_
  rw [mapError_eq_ok] at hobject
  refine (decidedBy_checkClientData hclient).bind fun _ _ => ?_
  refine (decidedBy_checkScope hobject).next fun _ _ => ?_
  refine (decidedBy_checkPresence hobject).bind fun _ _ => ?_
  refine (decidedBy_newCredential hobject).bind fun attested _ => ?_
  refine (decidedBy_acceptedFormat hobject).next fun format hformat => ?_
  obtain ⟨-, rfl⟩ := acceptedFormat_eq_ok.1 hformat
  refine (decidedBy_verifyStatement hobject).next fun verdict _ => ?_
  exact decidedBy_ok _

section Attested

variable {object : AttestationObject} {attested : AttestedCredential} {verdict : StatementVerdict}

/-- A question about any attestation of a response is one about the attestation that it carries. -/
theorem exists_attests_and
    {p : AttestationObject → AttestedCredential → StatementVerdict → Prop}
    (h : Attests response object attested verdict) :
    (∃ object attested verdict, Attests response object attested verdict ∧
      p object attested verdict) ↔ p object attested verdict := by
  constructor
  · rintro ⟨object', attested', verdict', h', hp⟩
    cases h.object_read.symm.trans h'.object_read
    cases h.credential_attested.symm.trans h'.credential_attested
    cases h.statement_verified.symm.trans h'.statement_verified
    exact hp
  · exact fun hp => ⟨object, attested, verdict, h, hp⟩

theorem attests_of_passes {clientData : ClientData}
    (h : Passes config options response tokenBindingId clientData object attested verdict) :
    Attests response object attested verdict :=
  ⟨h.object_read, h.credential_attested, h.statement_verified⟩

/-- The trust cannot be evaluated exactly if roots are needed and their look-up fails. -/
theorem trust_eq_error {e : AttestationError} :
    trust surroundings s now object attested verdict = .error e ↔
      verdict.type = .basic ∧ ∃ reason, (surroundings s
        (.trustRoots (modelOf attested) (.ofName object.format))).1 = some (.error reason) ∧
        e = .trustResolution reason := by
  unfold trust evaluateTrust Surroundings.resolver StatementVerdict.needsRoots
  match (surroundings s (.trustRoots (modelOf attested) (.ofName object.format))).1 with
  | none => simp
  | some (.ok roots) => by_cases hbasic : verdict.type = .basic <;> simp [hbasic]
  | some (.error reason) => by_cases hbasic : verdict.type = .basic <;> simp [hbasic, eq_comm]

/-- The check of the look-up of roots. -/
theorem decidedBy_trust (h : Attests response object attested verdict) :
    DecidedBy (Fails surroundings s config options response tokenBindingId now) [.roots]
      ((trust surroundings s now object attested verdict).mapError CeremonyError.attestation) := by
  refine decidedBy_step fun e => (exists_attests_and h).trans ?_
  simp only [mapError_eq_error, trust_eq_error]
  constructor
  · rintro ⟨hbasic, reason, hanswer, rfl⟩
    exact ⟨_, ⟨hbasic, reason, hanswer, rfl⟩, rfl⟩
  · rintro ⟨_, ⟨hbasic, reason, hanswer, rfl⟩, rfl⟩
    exact ⟨hbasic, reason, hanswer, rfl⟩

/-- The checks of the trust that was found and of the repository. -/
theorem decidedBy_register {c : Checked} {attestation : AttestationVerdict}
    (hformat : c.format = .ofName object.format)
    (h : Attests response object c.attested c.verdict)
    (htrust : trust surroundings s now object c.attested c.verdict = .ok attestation) :
    DecidedBy (Fails surroundings s config options response tokenBindingId now)
      [.trust, .repository, .unused]
      ((c.register config options.user attestation).run surroundings
        (surroundings.afterTrust s c.verdict c.model c.format)).result := by
  have hrepository (e : CeremonyError) :
      Fails surroundings s config options response tokenBindingId now .repository e ↔
        ∃ reason, registered surroundings s object c.attested c.verdict = .error reason ∧
          e = .repository reason :=
    exists_attests_and h
  have hunused (e : CeremonyError) :
      Fails surroundings s config options response tokenBindingId now .unused e ↔
        registered surroundings s object c.attested c.verdict = .ok true ∧
          e = .alreadyRegistered :=
    exists_attests_and h
  have hafter : surroundings.afterTrust s c.verdict c.model c.format =
      surroundings.afterTrust s c.verdict (modelOf c.attested) (.ofName object.format) := by
    rw [hformat]
    rfl
  rw [hafter, Checked.register, apply_ite (fun ceremony : Ceremony RegistrationResult =>
    (ceremony.run surroundings _).result)]
  refine decidedBy_refuse (fun e => (exists_attests_and h).trans ?_) ?_
  · simp [htrust]
  · rw [Ceremony.run_ask]
    match hanswer : (surroundings (surroundings.afterTrust s c.verdict (modelOf c.attested)
      (.ofName object.format)) (.isRegistered c.attested.credentialId)).1 with
    | .error reason =>
      exact decidedBy_error fun e => by simp [hrepository, registered, hanswer]
    | .ok true =>
      refine DecidedBy.skip (decidedBy_error fun e => ?_) fun e => ?_
      · simp [hunused, registered, hanswer]
      · simp [hrepository, registered, hanswer]
    | .ok false =>
      refine DecidedBy.skip (DecidedBy.skip (decidedBy_ok _) fun e => ?_) fun e => ?_
      · simp [hunused, registered, hanswer]
      · simp [hrepository, registered, hanswer]

end Attested

/-- The result of a registration once the response was checked, as a chain of two steps. -/
theorem result_evaluate {object : AttestationObject} {c : Checked}
    (hformat : c.format = .ofName object.format) (next : AttestationVerdict → Ceremony α) :
    ((evaluate c now next).run surroundings s).result =
      (trust surroundings s now object c.attested c.verdict).mapError CeremonyError.attestation >>=
        fun attestation => ((next attestation).run surroundings
          (surroundings.afterTrust s c.verdict c.model c.format)).result := by
  have htrust : trust surroundings s now object c.attested c.verdict =
      evaluateTrust c.verdict c.format c.model (surroundings.resolver s c.model c.format) now := by
    rw [trust, ← hformat]
    rfl
  rw [run_evaluate, htrust]
  cases evaluateTrust c.verdict c.format c.model (surroundings.resolver s c.model c.format) now with
  | error e => rfl
  | ok attestation => rfl

/-- A registration ends in the error of the first of all checks that fails. -/
theorem decidedBy_finishRegistration :
    DecidedBy (Fails surroundings s config options response tokenBindingId now)
      RegistrationCheck.all
      ((finishRegistration config options response tokenBindingId now).run surroundings s).result := by
  rw [finishRegistration, Ceremony.result_attempt]
  refine decidedBy_check.bind fun c hcheck => ?_
  obtain ⟨_, object, -, hformat, hpasses⟩ := check_eq_ok.1 hcheck
  have hattests := attests_of_passes hpasses
  rw [result_evaluate hformat]
  exact (decidedBy_trust hattests).next fun _ htrust =>
    decidedBy_register hformat hattests (mapError_eq_ok.1 htrust)

end Registration

/-- The first check that fails decides the error of a ceremony, whatever the later ones would say;
if none fails, the ceremony is accepted. -/
theorem first_failure_decides (surroundings : Surroundings σ) (s : σ) (config : RelyingPartyConfig)
    (tokenBindingId : Option String) :
    (∀ (options : RequestOptions) (response : AssertedCredential),
      let fails := Assertion.Fails surroundings s config options response tokenBindingId
      let result := ((finishAssertion config options response tokenBindingId).run
        surroundings s).result
      (∀ e, result = .error e ↔ FirstFails fails AssertionCheck.all e) ∧
        ((∃ accepted, result = .ok accepted) ↔ ∀ check e, ¬ fails check e)) ∧
    ∀ (options : CreationOptions) (response : CreatedCredential) (now : Instant),
      let fails := Registration.Fails surroundings s config options response tokenBindingId now
      let result := ((finishRegistration config options response tokenBindingId now).run
        surroundings s).result
      (∀ e, result = .error e ↔ FirstFails fails RegistrationCheck.all e) ∧
        ((∃ accepted, result = .ok accepted) ↔ ∀ check e, ¬ fails check e) := by
  constructor
  · intro options response fails result
    have hdecided : DecidedBy fails AssertionCheck.all result := Assertion.decidedBy_finishAssertion
    refine ⟨hdecided, hdecided.exists_ok_iff.trans ?_⟩
    simp only [AssertionCheck.mem_all, true_implies]
  · intro options response now fails result
    have hdecided : DecidedBy fails RegistrationCheck.all result :=
      Registration.decidedBy_finishRegistration
    refine ⟨hdecided, hdecided.exists_ok_iff.trans ?_⟩
    simp only [RegistrationCheck.mem_all, true_implies]

end Passkey
