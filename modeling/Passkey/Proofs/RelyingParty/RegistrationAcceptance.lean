import Mathlib.Logic.Basic
import Passkey.Proofs.RelyingParty.Checks

/-!
# Which registrations are accepted

`Registration.Passes` lists what a response has to satisfy by itself. A registration is accepted
exactly if the response passes, the trust in its attestation can be evaluated and suits the policy,
and then the repository says that the credential is new.
-/

namespace Passkey

variable {σ : Type}

/-! ### Trust under surroundings -/

namespace Surroundings

/-- The resolver, if there is one, as it answers one look-up of roots in a state. -/
def resolver (surroundings : Surroundings σ) (s : σ) (aaguid : Option Aaguid)
    (format : AttestationFormat) : Option TrustRootResolver :=
  (surroundings s (.trustRoots aaguid format)).1.map fun roots _ _ => roots

/-- The surroundings after the trust in a verdict was evaluated, which may have taken a look-up. -/
def afterTrust (surroundings : Surroundings σ) (s : σ) (verdict : StatementVerdict)
    (aaguid : Option Aaguid) (format : AttestationFormat) : σ :=
  if verdict.needsRoots then (surroundings s (.trustRoots aaguid format)).2 else s

/-- The look-up that evaluating the trust in a verdict takes. -/
def trustExchanges (surroundings : Surroundings σ) (s : σ) (verdict : StatementVerdict)
    (aaguid : Option Aaguid) (format : AttestationFormat) : List Exchange :=
  if verdict.needsRoots then
    [⟨.trustRoots aaguid format, (surroundings s (.trustRoots aaguid format)).1⟩]
  else []

end Surroundings

namespace Registration

variable {config : RelyingPartyConfig} {options : CreationOptions} {response : CreatedCredential}
  {tokenBindingId : Option String} {clientData : ClientData} {object : AttestationObject}
  {attested : AttestedCredential} {verdict : StatementVerdict}

/-- What is required of a response, with the client data and the attestation object that it carries,
the new credential in the object, and the verdict on its statement. -/
structure Passes (config : RelyingPartyConfig) (options : CreationOptions)
    (response : CreatedCredential) (tokenBindingId : Option String) (clientData : ClientData)
    (object : AttestationObject) (attested : AttestedCredential) (verdict : StatementVerdict) :
    Prop where
  id_spells : Base64.decodeUrl? response.id = some response.rawId
  clientData_read : ClientData.decode response.response.clientData = .ok clientData
  clientData_answers : clientData.Answers "webauthn.create" options.challenge config tokenBindingId
  object_read : AttestationObject.decode response.response.attestationObject = .ok object
  scope : object.data.rpIdHash = sha256 (Utf8.encode options.rp.id)
  user_present : object.data.flags.userPresent = true
  user_verified : ∀ selection, options.selection = some selection →
    selection.userVerification = .required → object.data.flags.userVerified = true
  credential_attested : object.data.attested = some attested
  id_matches : attested.credentialId = response.rawId
  algorithm_offered : attested.publicKey.algorithm ∈ options.algorithms
  format_accepted : (∃ format ∈ AttestationFormat.known, format.name = object.format) ∨
    config.unknownAttestation = .acceptUncertain
  statement_verified : Attestation.verifyStatement (.ofName object.format) object.statement
    ⟨object.data, sha256 response.response.clientData⟩ = .ok verdict

/-- The model that an authenticator reports for a credential, if it reports one. -/
def modelOf (attested : AttestedCredential) : Option Aaguid :=
  if attested.aaguid = Aaguid.zero then none else some attested.aaguid

/-- The result of accepting a credential of a user with what is known about its attestation. -/
def resultOf (user : UserIdentity) (data : AuthenticatorData) (attested : AttestedCredential)
    (attestation : AttestationVerdict) : RegistrationResult where
  credential := {
    credentialId := attested.credentialId
    userHandle := user.id
    publicKey := attested.publicKey
    publicKeyBytes := attested.publicKeyBytes
    signatureCount := data.counter
    aaguid := attested.aaguid }
  attestation
  userVerified := data.flags.userVerified
  backupEligible := data.flags.backupEligible
  backedUp := data.flags.backedUp

/-! ### What the checks establish -/

theorem isKnown_of_mem_known : ∀ format ∈ AttestationFormat.known, format.isKnown = true := by
  decide

theorem isKnown_ofName {name : String} :
    (AttestationFormat.ofName name).isKnown = true ↔
      ∃ format ∈ AttestationFormat.known, format.name = name := by
  unfold AttestationFormat.ofName
  cases hf : AttestationFormat.known.find? (·.name = name) with
  | none =>
    have hn := List.find?_eq_none.1 hf
    simpa [AttestationFormat.isKnown] using hn
  | some format =>
    have hm := List.mem_of_find?_eq_some hf
    have he : format.name = name := by simpa using List.find?_some hf
    exact ⟨fun _ => ⟨format, hm, he⟩, fun _ => isKnown_of_mem_known format hm⟩

theorem acceptedFormat_eq_ok {policy : UnknownAttestationPolicy} {name : String}
    {format : AttestationFormat} :
    acceptedFormat policy name = .ok format ↔
      ((∃ format ∈ AttestationFormat.known, format.name = name) ∨ policy = .acceptUncertain) ∧
        format = .ofName name := by
  have hp : ¬ policy = .reject ↔ policy = .acceptUncertain := by cases policy <;> simp
  simp only [acceptedFormat, refuse_eq_ok, Bool.not_eq_true', not_and, Except.ok.injEq, hp,
    ← isKnown_ofName, eq_comm (a := AttestationFormat.ofName name)]
  cases (AttestationFormat.ofName name).isKnown <;> simp

theorem newCredential_eq_ok {rawId : Bytes} {data : AuthenticatorData} :
    newCredential options rawId data = .ok attested ↔
      data.attested = some attested ∧ attested.credentialId = rawId ∧
        attested.publicKey.algorithm ∈ options.algorithms := by
  unfold newCredential
  cases data.attested with
  | none => simp
  | some found =>
    simp only [refuse_eq_ok, Except.ok.injEq, Option.some.injEq, ne_eq, not_not,
      Bool.not_eq_true', Bool.not_eq_false, List.contains_iff_mem]
    constructor
    · rintro ⟨hid, ha, rfl⟩
      exact ⟨rfl, hid, ha⟩
    · rintro ⟨rfl, hid, ha⟩
      exact ⟨hid, ha, rfl⟩

theorem userVerification_eq_required :
    options.userVerification = .required ↔
      ∃ selection, options.selection = some selection ∧ selection.userVerification = .required := by
  unfold CreationOptions.userVerification
  cases options.selection <;> simp

theorem check_eq_ok {c : Checked} :
    check config options response tokenBindingId = .ok c ↔
      ∃ clientData object, c.data = object.data ∧ c.format = .ofName object.format ∧
        Passes config options response tokenBindingId clientData object c.attested c.verdict := by
  simp only [check, bind_eq_ok, exists_unit, pure_eq_ok, mapError_eq_ok, checkId_eq_ok,
    ClientData.check_eq_ok, checkRpIdHash_eq_ok, checkUser_eq_ok, newCredential_eq_ok,
    acceptedFormat_eq_ok, CeremonyType.name, userVerification_eq_required]
  constructor
  · rintro ⟨hid, clientData, hc, object, ho, han, hs, ⟨hp, hv⟩, attested, ⟨ha, hm, hal⟩, format,
      ⟨hf, rfl⟩, verdict, hver, rfl⟩
    exact ⟨clientData, object, rfl, rfl, hid, hc, han, ho, hs, hp, fun x hx hr => hv ⟨x, hx, hr⟩,
      ha, hm, hal, hf, hver⟩
  · rintro ⟨clientData, object, hd, hf, h⟩
    refine ⟨h.id_spells, clientData, h.clientData_read, object, h.object_read,
      h.clientData_answers, h.scope, ⟨h.user_present, fun ⟨x, hx, hr⟩ => h.user_verified x hx hr⟩,
      c.attested, ⟨h.credential_attested, h.id_matches, h.algorithm_offered⟩, _,
      ⟨h.format_accepted, rfl⟩, c.verdict, h.statement_verified, ?_⟩
    rw [← hd, ← hf]

/-! ### The course of a registration -/

/-- Evaluating the trust in a verdict comes down to evaluating it with the resolver as it answers at
that time. -/
theorem run_evaluate {α : Type} (surroundings : Surroundings σ) (s : σ) (c : Checked)
    (now : Instant) (next : AttestationVerdict → Ceremony α) :
    (evaluate c now next).run surroundings s =
      let after := surroundings.afterTrust s c.verdict c.model c.format
      let asked := surroundings.trustExchanges s c.verdict c.model c.format
      match evaluateTrust c.verdict c.format c.model
          (surroundings.resolver s c.model c.format) now with
      | .ok attestation =>
        let outcome := (next attestation).run surroundings after
        ⟨outcome.result, asked ++ outcome.exchanges, outcome.surroundings⟩
      | .error e => ⟨.error (.attestation e), asked, after⟩ := by
  unfold evaluate evaluateTrust Surroundings.afterTrust Surroundings.trustExchanges
    Surroundings.resolver
  by_cases hn : c.verdict.needsRoots = true
  · simp only [hn, if_true, Ceremony.run_ask]
    match (surroundings s (.trustRoots c.model c.format)).1 with
    | none => rfl
    | some (.ok roots) => rfl
    | some (.error reason) => rfl
  · simp only [hn]
    cases (surroundings s (.trustRoots c.model c.format)).1 with
    | none => rfl
    | some roots => rfl

theorem result_register_eq_ok (surroundings : Surroundings σ) (s : σ) (c : Checked)
    (user : UserIdentity) (attestation : AttestationVerdict) (result : RegistrationResult) :
    ((c.register config user attestation).run surroundings s).result = .ok result ↔
      (attestation.trustworthy = true ∨ config.allowUntrustedAttestation = true) ∧
        (surroundings s (.isRegistered c.attested.credentialId)).1 = .ok false ∧
        result = resultOf user c.data c.attested attestation := by
  unfold Checked.register
  have hrefused : (!attestation.trustworthy && !config.allowUntrustedAttestation) = true ↔
      ¬ (attestation.trustworthy = true ∨ config.allowUntrustedAttestation = true) := by
    simp [not_or]
  by_cases ht : attestation.trustworthy = true ∨ config.allowUntrustedAttestation = true
  · rw [if_neg fun hr => hrefused.1 hr ht, Ceremony.run_ask]
    match (surroundings s (.isRegistered c.attested.credentialId)).1 with
    | .error reason => simp
    | .ok true => simp
    | .ok false =>
      simp only [Ceremony.run_done, Except.ok.injEq, ht, true_and]
      exact eq_comm
  · rw [if_pos (hrefused.2 ht), Ceremony.run_fail]
    simp [ht]

/-- Registering fails, or asks whether the credential is new and is over after that. -/
theorem run_register (surroundings : Surroundings σ) (s : σ) (config : RelyingPartyConfig)
    (c : Checked) (user : UserIdentity) (attestation : AttestationVerdict) :
    let query := Query.isRegistered c.attested.credentialId
    (∃ e, (c.register config user attestation).run surroundings s = ⟨.error e, [], s⟩) ∨
      ∃ result, (c.register config user attestation).run surroundings s =
        ⟨result, [⟨query, (surroundings s query).1⟩], (surroundings s query).2⟩ := by
  intro query
  unfold Checked.register
  split
  · exact Or.inl ⟨_, rfl⟩
  · rw [Ceremony.run_ask]
    match (surroundings s (.isRegistered c.attested.credentialId)).1 with
    | .error reason => exact Or.inr ⟨_, rfl⟩
    | .ok true => exact Or.inr ⟨_, rfl⟩
    | .ok false => exact Or.inr ⟨_, rfl⟩

/-- A run fails without a question unless the response passes. It then asks for trusted roots if the
verdict takes them, and fails, or goes on to ask whether the credential is new. -/
theorem run_cases (surroundings : Surroundings σ) (s : σ) (config : RelyingPartyConfig)
    (options : CreationOptions) (response : CreatedCredential) (tokenBindingId : Option String)
    (now : Instant) :
    let outcome := (finishRegistration config options response tokenBindingId now).run surroundings s
    (∃ e, outcome = ⟨.error e, [], s⟩) ∨
      ∃ clientData object attested verdict,
        Passes config options response tokenBindingId clientData object attested verdict ∧
        let format := AttestationFormat.ofName object.format
        let asked := surroundings.trustExchanges s verdict (modelOf attested) format
        let after := surroundings.afterTrust s verdict (modelOf attested) format
        let query := Query.isRegistered attested.credentialId
        (∃ e, outcome = ⟨.error e, asked, after⟩) ∨
          ∃ result, outcome = ⟨result, asked ++ [⟨query, (surroundings after query).1⟩],
            (surroundings after query).2⟩ := by
  intro outcome
  simp only [outcome, finishRegistration]
  cases hc : check config options response tokenBindingId with
  | error e => exact Or.inl ⟨e, rfl⟩
  | ok c =>
    obtain ⟨clientData, object, -, hf, hp⟩ := check_eq_ok.1 hc
    refine Or.inr ⟨clientData, object, c.attested, c.verdict, hp, ?_⟩
    rw [Ceremony.attempt_ok, run_evaluate, ← hf]
    cases evaluateTrust c.verdict c.format c.model (surroundings.resolver s c.model c.format)
        now with
    | error e => exact Or.inl ⟨_, rfl⟩
    | ok attestation =>
      rcases run_register surroundings (surroundings.afterTrust s c.verdict c.model c.format) config
        c options.user attestation with ⟨e, he⟩ | ⟨result, hr⟩
      · left
        refine ⟨e, ?_⟩
        simp only [he, List.append_nil]
        rfl
      · right
        refine ⟨result, ?_⟩
        simp only [hr]
        rfl

/-- What is known of a registration once it is accepted: the response passes, the repository said
that the credential is new, and the result is that of the credential. -/
theorem accepted {surroundings : Surroundings σ} {s : σ} {now : Instant}
    {result : RegistrationResult}
    (h : ((finishRegistration config options response tokenBindingId now).run surroundings s).result
      = .ok result) :
    ∃ clientData object attested verdict attestation,
      Passes config options response tokenBindingId clientData object attested verdict ∧
      (surroundings
        (surroundings.afterTrust s verdict (modelOf attested) (.ofName object.format))
        (.isRegistered attested.credentialId)).1 = .ok false ∧
      result = resultOf options.user object.data attested attestation := by
  unfold finishRegistration at h
  cases hc : check config options response tokenBindingId with
  | error e =>
    rw [hc, Ceremony.attempt_error, Ceremony.run_fail] at h
    cases h
  | ok c =>
    obtain ⟨clientData, object, hd, hf, hp⟩ := check_eq_ok.1 hc
    rw [hc, Ceremony.attempt_ok, run_evaluate] at h
    split at h
    · rename_i attestation _
      obtain ⟨-, hnew, hr⟩ :=
        (result_register_eq_ok surroundings _ c options.user attestation result).1 h
      rw [hf] at hnew
      rw [hd] at hr
      exact ⟨clientData, object, c.attested, c.verdict, attestation, hp, hnew, hr⟩
    · cases h

/-- A registration is accepted exactly if the response passes, the trust in its attestation can be
evaluated and is established or not required, and the repository says that the credential is new;
the result is determined by the credential and its attestation. -/
theorem finishRegistration_ok_iff (surroundings : Surroundings σ) (s : σ)
    (config : RelyingPartyConfig) (options : CreationOptions) (response : CreatedCredential)
    (tokenBindingId : Option String) (now : Instant) (result : RegistrationResult) :
    ((finishRegistration config options response tokenBindingId now).run surroundings s).result =
        .ok result ↔
      ∃ clientData object attested verdict attestation,
        Passes config options response tokenBindingId clientData object attested verdict ∧
        evaluateTrust verdict (.ofName object.format) (modelOf attested)
          (surroundings.resolver s (modelOf attested) (.ofName object.format)) now =
            .ok attestation ∧
        (attestation.trustworthy = true ∨ config.allowUntrustedAttestation = true) ∧
        (surroundings
          (surroundings.afterTrust s verdict (modelOf attested) (.ofName object.format))
          (.isRegistered attested.credentialId)).1 = .ok false ∧
        result = resultOf options.user object.data attested attestation := by
  unfold finishRegistration
  constructor
  · intro h
    cases hc : check config options response tokenBindingId with
    | error e =>
      rw [hc, Ceremony.attempt_error, Ceremony.run_fail] at h
      cases h
    | ok c =>
      obtain ⟨clientData, object, hd, hf, hp⟩ := check_eq_ok.1 hc
      rw [hc, Ceremony.attempt_ok, run_evaluate] at h
      cases ht : evaluateTrust c.verdict c.format c.model
          (surroundings.resolver s c.model c.format) now with
      | error e =>
        rw [ht] at h
        cases h
      | ok attestation =>
        rw [ht] at h
        obtain ⟨hpolicy, hnew, hr⟩ :=
          (result_register_eq_ok surroundings _ c options.user attestation result).1 h
        rw [hf] at ht hnew
        rw [hd] at hr
        exact ⟨clientData, object, c.attested, c.verdict, attestation, hp, ht, hpolicy, hnew, hr⟩
  · rintro ⟨clientData, object, attested, verdict, attestation, hp, ht, hpolicy, hnew, hr⟩
    let c : Checked := ⟨object.data, attested, .ofName object.format, verdict⟩
    have hc : check config options response tokenBindingId = .ok c :=
      check_eq_ok.2 ⟨clientData, object, rfl, rfl, hp⟩
    have ht' : evaluateTrust c.verdict c.format c.model
        (surroundings.resolver s c.model c.format) now = .ok attestation := ht
    rw [hc, Ceremony.attempt_ok, run_evaluate, ht']
    exact (result_register_eq_ok surroundings _ c options.user attestation result).2
      ⟨hpolicy, hnew, hr⟩

end Registration

end Passkey
