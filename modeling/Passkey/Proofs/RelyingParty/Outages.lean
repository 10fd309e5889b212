import Passkey.Proofs.Attestation.Refusals
import Passkey.RelyingParty.Assertion
import Passkey.RelyingParty.Store

/-!
# Which failures are worth another try

A client is told to try again exactly if the repository, or whoever knows the roots, failed to answer
a question of the ceremony. Such a failure always ends a ceremony (`Ceremony.ReportsOutages`), and
every other error is about what the client sent, so it would come again. Of those the client is told
nothing but the group that they fall into.
-/

namespace Passkey

variable {α β σ : Type}

/-! ### Answers that are failures -/

/-- Whoever was asked has failed. That there is nobody to ask is no failure. -/
def Query.Failed : (query : Query) → query.Answer → Prop
  | .lookup _, answer => ∃ reason, answer = .error reason
  | .isRegistered _, answer => ∃ reason, answer = .error reason
  | .updateCounter _ _ _, answer => ∃ reason, answer = .error reason
  | .trustRoots _ _, answer => ∃ reason, answer = some (.error reason)

/-- An outcome for which trying again may help. -/
def Outcome.Retryable (outcome : Outcome α σ) : Prop :=
  ∃ e, outcome.result = .error e ∧ e.kind.isRetryable = true

/-- Trying again does not help. -/
def CeremonyError.Final (e : CeremonyError) : Prop := e.kind.isRetryable = false

open CeremonyError

namespace Ceremony

/-- Whatever the answers are, the first that is a failure ends the ceremony in an error that is
retryable, and without a failure it ends in none. -/
def ReportsOutages : Ceremony α → Prop
  | .done result => ErrsWith Final result
  | .ask query next => ∀ answer,
    (query.Failed answer ∧ ∃ e, next answer = .fail e ∧ e.kind.isRetryable = true) ∨
      (¬ query.Failed answer ∧ (next answer).ReportsOutages)

theorem reportsOutages_fail {e : CeremonyError} (h : e.Final) :
    (fail e : Ceremony α).ReportsOutages :=
  errsWith_error h

theorem reportsOutages_attempt {x : Except CeremonyError β} {next : β → Ceremony α}
    (hx : ErrsWith Final x) (hnext : ∀ b, (next b).ReportsOutages) :
    (attempt x next).ReportsOutages := by
  cases x with
  | error e => exact reportsOutages_fail (hx e rfl)
  | ok b => exact hnext b

/-- A run ends in a retryable error exactly if an answer in it was a failure. -/
theorem ReportsOutages.retryable_iff {c : Ceremony α} (h : c.ReportsOutages)
    (surroundings : Surroundings σ) (s : σ) :
    (c.run surroundings s).Retryable ↔
      ∃ x ∈ (c.run surroundings s).exchanges, x.1.Failed x.2 := by
  induction c generalizing s with
  | done result =>
    refine iff_of_false ?_ (by simp)
    rintro ⟨e, he, hretryable⟩
    rw [h e he] at hretryable
    contradiction
  | ask query next ih =>
    rw [run_ask]
    simp only [List.mem_cons, exists_eq_or_imp]
    rcases h (surroundings s query).1 with ⟨hfailed, e, hnext, hretryable⟩ | ⟨hfailed, hnext⟩
    · refine iff_of_true ⟨e, ?_, hretryable⟩ (Or.inl hfailed)
      simp only [hnext, run_fail]
    · simp only [hfailed, false_or]
      exact ih _ hnext _

end Ceremony

/-! ### The checks that need no one else -/

theorem DecodeError.final_kind (error : DecodeError) : error.kind.isRetryable = false := by
  unfold kind
  split <;> rfl

theorem CeremonyError.final_decode (error : DecodeError) : Final (.decode error) := error.final_kind

theorem CeremonyError.final_attestation (error : AttestationError) (h : error.Final) :
    Final (.attestation error) := h

theorem errsWith_checkId (id : String) (rawId : Bytes) : ErrsWith Final (checkId id rawId) :=
  errsWith_ite (errsWith_ok _) (errsWith_error rfl)

theorem ClientData.errsWith_decode (text : Bytes) : ErrsWith Final (decode text) := by
  unfold decode
  split
  · exact errsWith_ok _
  · exact errsWith_error rfl

theorem ClientData.errsWith_check (d : ClientData) (expected : ExpectedClientData) :
    ErrsWith Final (d.check expected) :=
  errsWith_refuse rfl <| errsWith_refuse rfl <| errsWith_refuse rfl <| errsWith_refuse rfl <|
    errsWith_ok _

theorem errsWith_checkRpIdHash (data : AuthenticatorData) (rpId : String) :
    ErrsWith Final (checkRpIdHash data rpId) :=
  errsWith_ite (errsWith_ok _) (errsWith_error rfl)

theorem errsWith_checkUser (flags : AuthenticatorFlags) (verification : UserVerification) :
    ErrsWith Final (checkUser flags verification) :=
  errsWith_refuse rfl <| errsWith_refuse rfl <| errsWith_ok _

/-! ### Registrations -/

namespace Registration

variable (config : RelyingPartyConfig) (options : CreationOptions) (response : CreatedCredential)
  (tokenBindingId : Option String)

theorem errsWith_newCredential (rawId : Bytes) (data : AuthenticatorData) :
    ErrsWith Final (newCredential options rawId data) := by
  unfold newCredential
  split
  · exact errsWith_error rfl
  · exact errsWith_refuse rfl <| errsWith_refuse rfl <| errsWith_ok _

theorem errsWith_acceptedFormat (policy : UnknownAttestationPolicy) (name : String) :
    ErrsWith Final (acceptedFormat policy name) :=
  errsWith_refuse rfl <| errsWith_ok _

theorem errsWith_check : ErrsWith Final (check config options response tokenBindingId) := by
  refine (errsWith_checkId response.id response.rawId).bind fun _ => ?_
  refine (ClientData.errsWith_decode response.response.clientData).bind fun clientData => ?_
  refine (errsWith_mapError final_decode).bind fun object => ?_
  refine (clientData.errsWith_check _).bind fun _ => ?_
  refine (errsWith_checkRpIdHash object.data options.rp.id).bind fun _ => ?_
  refine (errsWith_checkUser object.data.flags options.userVerification).bind fun _ => ?_
  refine (errsWith_newCredential options response.rawId object.data).bind fun attested => ?_
  refine (errsWith_acceptedFormat config.unknownAttestation object.format).bind fun format => ?_
  have hstatement := (Attestation.errsWith_verifyStatement object.statement
    ⟨object.data, sha256 response.response.clientData⟩ format).mapError final_attestation
  exact hstatement.bind fun _ => errsWith_ok _

theorem reportsOutages_evaluate (c : Checked) (now : Instant)
    {next : AttestationVerdict → Ceremony α} (hnext : ∀ attestation,
      (next attestation).ReportsOutages) : (evaluate c now next).ReportsOutages := by
  unfold evaluate
  split
  · rintro (_ | reason | roots)
    · exact Or.inr ⟨by simp [Query.Failed], hnext _⟩
    · exact Or.inl ⟨⟨reason, rfl⟩, _, rfl, rfl⟩
    · exact Or.inr ⟨by simp [Query.Failed], hnext _⟩
  · exact hnext _

theorem reportsOutages_register (c : Checked) (user : UserIdentity)
    (attestation : AttestationVerdict) :
    (c.register config user attestation).ReportsOutages := by
  unfold Checked.register
  split
  · exact Ceremony.reportsOutages_fail rfl
  · rintro (reason | _ | _)
    · exact Or.inl ⟨⟨reason, rfl⟩, _, rfl, rfl⟩
    · exact Or.inr ⟨by simp [Query.Failed], errsWith_ok _⟩
    · exact Or.inr ⟨by simp [Query.Failed], Ceremony.reportsOutages_fail rfl⟩

theorem reportsOutages_finishRegistration (now : Instant) :
    (finishRegistration config options response tokenBindingId now).ReportsOutages :=
  Ceremony.reportsOutages_attempt (errsWith_check config options response tokenBindingId) fun c =>
    reportsOutages_evaluate c now (reportsOutages_register config c options.user)

end Registration

/-! ### Authentications -/

namespace Assertion

variable (config : RelyingPartyConfig) (options : RequestOptions) (response : AssertedCredential)
  (tokenBindingId : Option String)

theorem errsWith_checkAllowed (id : Bytes) : ErrsWith Final (checkAllowed options id) :=
  errsWith_ite (errsWith_ok _) (errsWith_error rfl)

theorem errsWith_checkUserNamed : ErrsWith Final (checkUserNamed options response) :=
  errsWith_refuse rfl <| errsWith_ok _

theorem errsWith_read : ErrsWith Final (read options response) := by
  refine (errsWith_checkId response.id response.rawId).bind fun _ => ?_
  refine (ClientData.errsWith_decode response.response.clientData).bind fun clientData => ?_
  refine (errsWith_mapError final_decode).bind fun data => ?_
  refine (errsWith_checkAllowed options response.rawId).bind fun _ => ?_
  refine (errsWith_checkUserNamed options response).bind fun _ => ?_
  exact errsWith_ok _

theorem errsWith_checkOwner (stored : RegisteredCredential) :
    ErrsWith Final (checkOwner response stored) :=
  errsWith_refuse rfl <| errsWith_ok _

theorem errsWith_checkSignature (key : CoseKey) (message signature : Bytes) :
    ErrsWith Final (checkSignature key message signature) := by
  unfold checkSignature
  split
  · exact errsWith_error rfl
  · exact errsWith_error rfl
  · exact errsWith_ok _

theorem errsWith_checkCounter (policy : CounterPolicy) (stored received : UInt32) :
    ErrsWith Final (checkCounter policy stored received) := by
  refine errsWith_ite (errsWith_ok _) ?_
  cases policy with
  | reject => exact errsWith_error rfl
  | flagAndAccept => exact errsWith_ok _

theorem errsWith_check (r : Read) (stored : RegisteredCredential) :
    ErrsWith Final (check config options response tokenBindingId r stored) := by
  refine (errsWith_checkOwner response stored).bind fun _ => ?_
  refine (r.clientData.errsWith_check _).bind fun _ => ?_
  refine (errsWith_checkRpIdHash r.data _).bind fun _ => ?_
  refine (errsWith_checkUser r.data.flags _).bind fun _ => ?_
  refine (errsWith_checkSignature stored.publicKey _ _).bind fun _ => ?_
  refine (errsWith_checkCounter config.counterPolicy _ _).bind fun _ => ?_
  exact errsWith_ok _

theorem reportsOutages_advanceCounter (stored : RegisteredCredential) (result : AssertionResult) :
    (advanceCounter stored result).ReportsOutages := by
  unfold advanceCounter
  split
  · rintro (reason | _ | _)
    · exact Or.inl ⟨⟨reason, rfl⟩, _, rfl, rfl⟩
    · exact Or.inr ⟨by simp [Query.Failed], Ceremony.reportsOutages_fail rfl⟩
    · exact Or.inr ⟨by simp [Query.Failed], errsWith_ok _⟩
  · exact errsWith_ok _

theorem reportsOutages_finishAssertion :
    (finishAssertion config options response tokenBindingId).ReportsOutages := by
  refine Ceremony.reportsOutages_attempt (errsWith_read options response) fun r => ?_
  rintro (reason | _ | stored)
  · exact Or.inl ⟨⟨reason, rfl⟩, _, rfl, rfl⟩
  · exact Or.inr ⟨by simp [Query.Failed], Ceremony.reportsOutages_fail rfl⟩
  · exact Or.inr ⟨by simp [Query.Failed], Ceremony.reportsOutages_attempt
      (errsWith_check config options response tokenBindingId r stored)
      (reportsOutages_advanceCounter stored)⟩

end Assertion

/-! ### A repository in memory -/

/-- Surroundings that answer each question as some repository in memory does, with roots that are
fixed or with none. What is in the repository may change between the questions. -/
def Surroundings.InMemory (surroundings : Surroundings σ) : Prop :=
  ∃ roots : Option StaticTrustRoots, ∀ s query, ∃ store, (surroundings s query).1 =
    (CredentialStore.surroundings (roots.map StaticTrustRoots.resolver) store query).1

theorem CredentialStore.inMemory_surroundings (roots : Option StaticTrustRoots) :
    (surroundings (roots.map StaticTrustRoots.resolver)).InMemory :=
  ⟨roots, fun store _ => ⟨store, rfl⟩⟩

theorem CredentialStore.not_failed (roots : Option StaticTrustRoots) (store : CredentialStore)
    (query : Query) :
    ¬ query.Failed (surroundings (roots.map StaticTrustRoots.resolver) store query).1 := by
  cases query with
  | lookup id => simp [Query.Failed, surroundings]
  | isRegistered id => simp [Query.Failed, surroundings]
  | updateCounter id expected new => simp [Query.Failed, surroundings]
  | trustRoots aaguid format =>
    cases roots with
    | none => simp [Query.Failed, surroundings]
    | some roots => simp [Query.Failed, surroundings, StaticTrustRoots.resolver]

theorem Ceremony.not_failed_of_mem_exchanges {surroundings : Surroundings σ}
    (h : ∀ s, ∀ query : Query, ¬ query.Failed (surroundings s query).1) (c : Ceremony α) (s : σ) :
    ∀ x ∈ (c.run surroundings s).exchanges, ¬ x.1.Failed x.2 := by
  induction c generalizing s with
  | done result => simp
  | ask query next ih =>
    rw [run_ask]
    exact List.forall_mem_cons.2 ⟨h s query, ih _ _⟩

/-- No ceremony ends in a retryable error with a repository in memory. -/
theorem Ceremony.ReportsOutages.not_retryable {c : Ceremony α} (h : c.ReportsOutages)
    {surroundings : Surroundings σ} (hmemory : surroundings.InMemory) (s : σ) :
    ¬ (c.run surroundings s).Retryable := by
  obtain ⟨roots, hanswer⟩ := hmemory
  have hfailed (s : σ) (query : Query) : ¬ query.Failed (surroundings s query).1 := by
    obtain ⟨store, he⟩ := hanswer s query
    rw [he]
    exact CredentialStore.not_failed roots store query
  rw [h.retryable_iff]
  rintro ⟨x, hx, hfail⟩
  exact not_failed_of_mem_exchanges hfailed c s x hx hfail

/-! ### What the client is told -/

/-- The kinds of error of a ceremony that was carried out and failed. -/
def ErrorKind.verdicts : List ErrorKind := [.protocolMismatch, .cryptoFailure, .policyViolation]

theorem ServiceError.ofKind_eq_iff (k l : ErrorKind) :
    ofKind k = ofKind l ↔ (k = .malformedInput ∧ l = .malformedInput) ∨
      (k = .externalDependencyFailure ∧ l = .externalDependencyFailure) ∨
      (k ∈ ErrorKind.verdicts ∧ l ∈ ErrorKind.verdicts) := by
  cases k <;> cases l <;> simp [ofKind, ErrorKind.verdicts]

theorem ServiceError.status_ofKind_eq (k : ErrorKind) :
    (ofKind k).code.status = 503 ↔ k.isRetryable = true := by
  cases k <;> decide

/-- A ceremony ends in a retryable error exactly if a question to the repository or for the roots was
answered by a failure, which does not happen in memory. What the client is told depends on the kind
of the error only and tells apart no more than malformed requests, outages, and ceremonies that
failed; its status is 503 exactly if the error is retryable. -/
theorem retryable_iff_outage :
    (∀ (surroundings : Surroundings σ) (s : σ) (config : RelyingPartyConfig)
        (tokenBindingId : Option String),
      (∀ (options : RequestOptions) (response : AssertedCredential),
        let outcome := (finishAssertion config options response tokenBindingId).run surroundings s
        (outcome.Retryable ↔ ∃ x ∈ outcome.exchanges, x.1.Failed x.2) ∧
          (surroundings.InMemory → ¬ outcome.Retryable)) ∧
      ∀ (options : CreationOptions) (response : CreatedCredential) (now : Instant),
        let outcome :=
          (finishRegistration config options response tokenBindingId now).run surroundings s
        (outcome.Retryable ↔ ∃ x ∈ outcome.exchanges, x.1.Failed x.2) ∧
          (surroundings.InMemory → ¬ outcome.Retryable)) ∧
    (∀ roots : Option StaticTrustRoots,
      (CredentialStore.surroundings (roots.map StaticTrustRoots.resolver)).InMemory) ∧
    ∀ d e : CeremonyError,
      (ServiceError.ofCeremony d = ServiceError.ofCeremony e ↔
        (d.kind = .malformedInput ∧ e.kind = .malformedInput) ∨
        (d.kind = .externalDependencyFailure ∧ e.kind = .externalDependencyFailure) ∨
        (d.kind ∈ ErrorKind.verdicts ∧ e.kind ∈ ErrorKind.verdicts)) ∧
      ((ServiceError.ofCeremony e).code.status = 503 ↔ e.kind.isRetryable = true) := by
  refine ⟨fun surroundings s config tokenBindingId => ⟨fun options response => ?_,
    fun options response now => ?_⟩, CredentialStore.inMemory_surroundings, fun d e => ?_⟩
  · have hreports := Assertion.reportsOutages_finishAssertion config options response tokenBindingId
    exact ⟨hreports.retryable_iff surroundings s, fun hmemory => hreports.not_retryable hmemory s⟩
  · have hreports :=
      Registration.reportsOutages_finishRegistration config options response tokenBindingId now
    exact ⟨hreports.retryable_iff surroundings s, fun hmemory => hreports.not_retryable hmemory s⟩
  · exact ⟨ServiceError.ofKind_eq_iff d.kind e.kind, ServiceError.status_ofKind_eq e.kind⟩

end Passkey
