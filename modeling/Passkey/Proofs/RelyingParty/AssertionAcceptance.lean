import Mathlib.Logic.Basic
import Passkey.Proofs.RelyingParty.Checks

/-!
# Which authentications are accepted

`Assertion.Passes` lists what a response has to satisfy against the stored credential. An
authentication is accepted exactly if the repository knows the credential, the response passes
against it, and the repository replaces the counter if that advanced. Any other run ends in an
error after the look-up at the latest, or right after the counter was to be replaced.
-/

namespace Passkey.Assertion

variable {σ : Type} {config : RelyingPartyConfig} {options : RequestOptions}
  {response : AssertedCredential} {tokenBindingId : Option String} {clientData : ClientData}
  {data : AuthenticatorData} {stored : RegisteredCredential}

/-- What is required of a response, with the client data and the record that it carries, against the
stored credential. Any user handle is to be the stored one, but an empty one counts as none. -/
structure Passes (config : RelyingPartyConfig) (options : RequestOptions)
    (response : AssertedCredential) (tokenBindingId : Option String) (clientData : ClientData)
    (data : AuthenticatorData) (stored : RegisteredCredential) : Prop where
  id_spells : Base64.decodeUrl? response.id = some response.rawId
  clientData_read : ClientData.decode response.response.clientData = .ok clientData
  clientData_answers : clientData.Answers "webauthn.get" options.challenge config tokenBindingId
  data_read : AuthenticatorData.decode response.response.authenticatorData = .ok data
  allowed : options.allowCredentials ≠ [] → ∃ d ∈ options.allowCredentials, d.id = response.rawId
  user_named : options.allowCredentials = [] →
    ∃ handle, response.response.userHandle = some handle ∧ handle ≠ []
  user_matches : ∀ handle, response.response.userHandle = some handle → handle ≠ [] →
    handle = stored.userHandle
  scope : data.rpIdHash = sha256 (Utf8.encode
    (if response.extensions.appid = some true then
      (options.extensions.bind (·.appid)).getD options.rpId else options.rpId))
  user_present : data.flags.userPresent = true
  user_verified : options.userVerification = .required → data.flags.userVerified = true
  signed : stored.publicKey.verify
    (response.response.authenticatorData ++ sha256 response.response.clientData)
    response.response.signature = .ok true
  counter_accepted : data.counter ≤ stored.signatureCount →
    (data.counter = 0 ∧ stored.signatureCount = 0) ∨ config.counterPolicy = .flagAndAccept

/-- The result of accepting a record for a credential. A counter that stood still is only valid if
it is not used at all, and is warned about otherwise. -/
def resultOf (stored : RegisteredCredential) (data : AuthenticatorData) : AssertionResult :=
  let valid : Bool := stored.signatureCount < data.counter ∨
    (data.counter = 0 ∧ stored.signatureCount = 0)
  { credentialId := stored.credentialId
    userHandle := stored.userHandle
    signatureCount := data.counter
    counterValid := valid
    userVerified := data.flags.userVerified
    backupEligible := data.flags.backupEligible
    backedUp := data.flags.backedUp
    warnings := if valid then [] else [.counterNotAdvanced stored.signatureCount data.counter] }

/-! ### What the checks establish -/

theorem userHandle?_eq_some {handle : Bytes} :
    response.userHandle? = some handle ↔
      response.response.userHandle = some handle ∧ handle ≠ [] := by
  simp [AssertedCredential.userHandle?, Option.filter_eq_some_iff]

theorem checkAllowed_eq_ok {id : Bytes} :
    checkAllowed options id = .ok () ↔
      (options.allowCredentials ≠ [] → ∃ d ∈ options.allowCredentials, d.id = id) := by
  simp only [checkAllowed, require_eq_ok, and_true, Bool.or_eq_true, List.isEmpty_iff,
    List.any_eq_true, decide_eq_true_eq, ne_eq]
  exact Decidable.or_iff_not_imp_left

theorem checkUserNamed_eq_ok :
    checkUserNamed options response = .ok () ↔
      (options.allowCredentials = [] →
        ∃ handle, response.response.userHandle = some handle ∧ handle ≠ []) := by
  simp only [checkUserNamed, refuse_eq_ok, and_true, Bool.and_eq_true, List.isEmpty_iff, not_and,
    Bool.not_eq_true, Option.isNone_eq_false_iff, Option.isSome_iff_exists, userHandle?_eq_some]

theorem checkOwner_eq_ok :
    checkOwner response stored = .ok () ↔
      ∀ handle, response.response.userHandle = some handle → handle ≠ [] →
        handle = stored.userHandle := by
  simp only [checkOwner, refuse_eq_ok, and_true, Option.any_eq_true, userHandle?_eq_some]
  simp

theorem signedRpId_eq :
    signedRpId options response =
      if response.extensions.appid = some true then
        (options.extensions.bind (·.appid)).getD options.rpId else options.rpId := by
  unfold signedRpId
  cases options.extensions.bind (·.appid) with
  | none => simp
  | some appid =>
    cases response.extensions.appid with
    | none => rfl
    | some used => cases used <;> rfl

theorem checkSignature_eq_ok {key : CoseKey} {message signature : Bytes} :
    checkSignature key message signature = .ok () ↔ key.verify message signature = .ok true := by
  unfold checkSignature
  cases key.verify message signature with
  | error e => simp
  | ok valid => cases valid <;> simp

theorem isCounterValid_eq (old new : UInt32) :
    isCounterValid old new = decide (old < new ∨ (new = 0 ∧ old = 0)) := by
  simp [isCounterValid]

theorem checkCounter_eq_ok {policy : CounterPolicy} {old new : UInt32}
    {warnings : List AssertionWarning} :
    checkCounter policy old new = .ok warnings ↔
      (new ≤ old → (new = 0 ∧ old = 0) ∨ policy = .flagAndAccept) ∧
        warnings = if old < new ∨ (new = 0 ∧ old = 0) then [] else [.counterNotAdvanced old new] := by
  simp only [checkCounter, isCounterValid_eq, decide_eq_true_eq]
  by_cases hv : old < new ∨ (new = 0 ∧ old = 0)
  · have hp : new ≤ old → (new = 0 ∧ old = 0) ∨ policy = .flagAndAccept := fun hle =>
      Or.inl (hv.resolve_left (UInt32.not_lt.2 hle))
    simp only [if_pos hv, Except.ok.injEq]
    constructor
    · intro hw
      exact ⟨hp, hw.symm⟩
    · rintro ⟨-, hw⟩
      exact hw.symm
  · obtain ⟨hlt, hzero⟩ := not_or.1 hv
    have hle : new ≤ old := UInt32.not_lt.1 hlt
    cases policy with
    | reject => simp [hlt, hzero, hle]
    | flagAndAccept => simp [hlt, hzero, eq_comm]

/-! ### What reading and checking establish together -/

theorem read_eq_ok {r : Read} :
    read options response = .ok r ↔
      Base64.decodeUrl? response.id = some response.rawId ∧
      ClientData.decode response.response.clientData = .ok r.clientData ∧
      AuthenticatorData.decode response.response.authenticatorData = .ok r.data ∧
      (options.allowCredentials ≠ [] → ∃ d ∈ options.allowCredentials, d.id = response.rawId) ∧
      (options.allowCredentials = [] →
        ∃ handle, response.response.userHandle = some handle ∧ handle ≠ []) := by
  simp only [read, bind_eq_ok, exists_unit, pure_eq_ok, mapError_eq_ok, checkId_eq_ok,
    checkAllowed_eq_ok, checkUserNamed_eq_ok]
  constructor
  · rintro ⟨hid, c, hc, d, hd, ha, hu, rfl⟩
    exact ⟨hid, hc, hd, ha, hu⟩
  · rintro ⟨hid, hc, hd, ha, hu⟩
    exact ⟨hid, _, hc, _, hd, ha, hu, rfl⟩

theorem check_eq_ok {r : Read} {result : AssertionResult} :
    check config options response tokenBindingId r stored = .ok result ↔
      (∀ handle, response.response.userHandle = some handle → handle ≠ [] →
        handle = stored.userHandle) ∧
      r.clientData.Answers "webauthn.get" options.challenge config tokenBindingId ∧
      r.data.rpIdHash = sha256 (Utf8.encode (signedRpId options response)) ∧
      r.data.flags.userPresent = true ∧
      (options.userVerification = .required → r.data.flags.userVerified = true) ∧
      stored.publicKey.verify (signedMessage r.data response.response.clientData)
        response.response.signature = .ok true ∧
      (r.data.counter ≤ stored.signatureCount →
        (r.data.counter = 0 ∧ stored.signatureCount = 0) ∨
          config.counterPolicy = .flagAndAccept) ∧
      result = resultOf stored r.data := by
  simp only [check, bind_eq_ok, exists_unit, pure_eq_ok, checkOwner_eq_ok,
    ClientData.check_eq_ok, checkRpIdHash_eq_ok, checkUser_eq_ok, checkSignature_eq_ok,
    checkCounter_eq_ok, isCounterValid_eq, resultOf, decide_eq_true_eq, CeremonyType.name]
  constructor
  · rintro ⟨ho, hc, hr, ⟨hp, hv⟩, hs, w, ⟨hw, rfl⟩, rfl⟩
    exact ⟨ho, hc, hr, hp, hv, hs, hw, rfl⟩
  · rintro ⟨ho, hc, hr, hp, hv, hs, hw, rfl⟩
    exact ⟨ho, hc, hr, ⟨hp, hv⟩, hs, _, ⟨hw, rfl⟩, rfl⟩

/-- A response passes exactly if it can be read and the checks of what was read succeed; the result
is then determined. -/
theorem passes_iff {result : AssertionResult} :
    Passes config options response tokenBindingId clientData data stored ∧
        result = resultOf stored data ↔
      read options response = .ok ⟨clientData, data⟩ ∧
        check config options response tokenBindingId ⟨clientData, data⟩ stored = .ok result := by
  rw [read_eq_ok, check_eq_ok, signedRpId_eq, signedMessage]
  constructor
  · rintro ⟨h, hr⟩
    rw [AuthenticatorData.bytes_of_decode h.data_read]
    exact ⟨⟨h.id_spells, h.clientData_read, h.data_read, h.allowed, h.user_named⟩, h.user_matches,
      h.clientData_answers, h.scope, h.user_present, h.user_verified, h.signed,
      h.counter_accepted, hr⟩
  · rintro ⟨⟨hid, hc, hd, ha, hn⟩, hm, han, hs, hp, hv, hsig, hcount, hr⟩
    rw [AuthenticatorData.bytes_of_decode hd] at hsig
    exact ⟨⟨hid, hc, han, hd, ha, hn, hm, hs, hp, hv, hsig, hcount⟩, hr⟩

/-! ### The course of an authentication -/

/-- A response that cannot be read fails at once; any other goes on to the look-up. -/
theorem finishAssertion_cases (config : RelyingPartyConfig) (options : RequestOptions)
    (response : AssertedCredential) (tokenBindingId : Option String) :
    (∃ e, finishAssertion config options response tokenBindingId = .fail e) ∨
      ∃ r, read options response = .ok r ∧
        finishAssertion config options response tokenBindingId =
          .ask (.lookup response.rawId) (afterLookup config options response tokenBindingId r) := by
  unfold finishAssertion
  cases hr : read options response with
  | error e => exact Or.inl ⟨e, rfl⟩
  | ok r => exact Or.inr ⟨r, rfl, rfl⟩

/-- After the look-up there is nothing left to do but to replace the counter of a credential against
which the response passes. -/
theorem afterLookup_cases (config : RelyingPartyConfig) (tokenBindingId : Option String) {r : Read}
    (hr : read options response = .ok r)
    (answer : Except String (Option RegisteredCredential)) :
    (∃ e, afterLookup config options response tokenBindingId r answer = .fail e) ∨
      ∃ stored, answer = .ok (some stored) ∧
        Passes config options response tokenBindingId r.clientData r.data stored ∧
        afterLookup config options response tokenBindingId r answer =
          advanceCounter stored (resultOf stored r.data) := by
  match answer with
  | .error reason => exact Or.inl ⟨_, rfl⟩
  | .ok none => exact Or.inl ⟨_, rfl⟩
  | .ok (some stored) =>
    cases hc : check config options response tokenBindingId r stored with
    | error e =>
      refine Or.inl ⟨e, ?_⟩
      simp only [afterLookup, hc, Ceremony.attempt_error]
    | ok result =>
      obtain ⟨hp, rfl⟩ := passes_iff.2 ⟨hr, hc⟩
      refine Or.inr ⟨stored, rfl, hp, ?_⟩
      simp only [afterLookup, hc, Ceremony.attempt_ok]

theorem advanceCounter_eq (stored : RegisteredCredential) (data : AuthenticatorData) :
    advanceCounter stored (resultOf stored data) =
      if stored.signatureCount < data.counter then
        .ask (.updateCounter stored.credentialId stored.signatureCount data.counter)
          (afterUpdate (resultOf stored data))
      else .done (.ok (resultOf stored data)) := rfl

/-- A response that passes leaves only the counter to be replaced after the look-up. -/
theorem run_of_passes (surroundings : Surroundings σ) (s : σ)
    (hl : (surroundings s (.lookup response.rawId)).1 = .ok (some stored))
    (hp : Passes config options response tokenBindingId clientData data stored) :
    (finishAssertion config options response tokenBindingId).run surroundings s =
      let outcome := (advanceCounter stored (resultOf stored data)).run surroundings
        (surroundings s (.lookup response.rawId)).2
      ⟨outcome.result, ⟨.lookup response.rawId, .ok (some stored)⟩ :: outcome.exchanges,
        outcome.surroundings⟩ := by
  obtain ⟨hr, hc⟩ := passes_iff.1 ⟨hp, rfl⟩
  simp only [finishAssertion, hr, Ceremony.attempt_ok, Ceremony.run_ask, hl, afterLookup, hc]

/-- A run fails, and asks for nothing beyond the look-up, unless that returns a credential against
which the response passes. -/
theorem run_cases (surroundings : Surroundings σ) (s : σ) (config : RelyingPartyConfig)
    (options : RequestOptions) (response : AssertedCredential) (tokenBindingId : Option String) :
    (∃ e, (finishAssertion config options response tokenBindingId).run surroundings s =
        ⟨.error e, [], s⟩) ∨
      (∃ e, (finishAssertion config options response tokenBindingId).run surroundings s =
        ⟨.error e, [⟨.lookup response.rawId, (surroundings s (.lookup response.rawId)).1⟩],
          (surroundings s (.lookup response.rawId)).2⟩) ∨
      ∃ clientData data stored, (surroundings s (.lookup response.rawId)).1 = .ok (some stored) ∧
        Passes config options response tokenBindingId clientData data stored := by
  rcases finishAssertion_cases config options response tokenBindingId with ⟨e, he⟩ | ⟨r, hr, hf⟩
  · refine Or.inl ⟨e, ?_⟩
    rw [he, Ceremony.run_fail]
  · rcases afterLookup_cases config tokenBindingId hr
      (surroundings s (.lookup response.rawId)).1 with ⟨e, he⟩ | ⟨stored, hl, hp, -⟩
    · refine Or.inr (Or.inl ⟨e, ?_⟩)
      rw [hf, Ceremony.run_ask, he, Ceremony.run_fail]
    · exact Or.inr (Or.inr ⟨_, _, stored, hl, hp⟩)

theorem result_advanceCounter_eq_ok (surroundings : Surroundings σ) (s : σ)
    (stored : RegisteredCredential) (data : AuthenticatorData) (result : AssertionResult) :
    ((advanceCounter stored (resultOf stored data)).run surroundings s).result = .ok result ↔
      (stored.signatureCount < data.counter →
        (surroundings s (.updateCounter stored.credentialId stored.signatureCount
          data.counter)).1 = .ok true) ∧ result = resultOf stored data := by
  rw [advanceCounter_eq]
  by_cases hlt : stored.signatureCount < data.counter
  · rw [if_pos hlt, Ceremony.run_ask]
    match (surroundings s (.updateCounter stored.credentialId stored.signatureCount
      data.counter)).1 with
    | .error reason => simp [afterUpdate, hlt]
    | .ok false => simp [afterUpdate, hlt]
    | .ok true => simp [afterUpdate, eq_comm]
  · rw [if_neg hlt, Ceremony.run_done]
    simp [hlt, eq_comm]

/-- An authentication is accepted exactly if the repository returns a credential against which the
response passes and, where the counter advanced, replaces it; the result is determined by that
credential and the record. -/
theorem finishAssertion_ok_iff (surroundings : Surroundings σ) (s : σ)
    (config : RelyingPartyConfig) (options : RequestOptions) (response : AssertedCredential)
    (tokenBindingId : Option String) (result : AssertionResult) :
    ((finishAssertion config options response tokenBindingId).run surroundings s).result =
        .ok result ↔
      ∃ clientData data stored,
        (surroundings s (.lookup response.rawId)).1 = .ok (some stored) ∧
        Passes config options response tokenBindingId clientData data stored ∧
        (stored.signatureCount < data.counter →
          (surroundings (surroundings s (.lookup response.rawId)).2
            (.updateCounter stored.credentialId stored.signatureCount data.counter)).1 =
              .ok true) ∧
        result = resultOf stored data := by
  constructor
  · intro h
    rcases run_cases surroundings s config options response tokenBindingId with
      ⟨e, he⟩ | ⟨e, he⟩ | ⟨clientData, data, stored, hl, hp⟩
    · rw [he] at h
      cases h
    · rw [he] at h
      cases h
    · rw [run_of_passes surroundings s hl hp] at h
      obtain ⟨hu, hr⟩ := (result_advanceCounter_eq_ok surroundings _ stored data result).1 h
      exact ⟨clientData, data, stored, hl, hp, hu, hr⟩
  · rintro ⟨clientData, data, stored, hl, hp, hu, hr⟩
    rw [run_of_passes surroundings s hl hp]
    exact (result_advanceCounter_eq_ok surroundings _ stored data result).2 ⟨hu, hr⟩

end Passkey.Assertion
