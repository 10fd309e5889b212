import Passkey.Proofs.RelyingParty.AssertionAcceptance
import Passkey.Proofs.RelyingParty.CheckPrecedence

/-!
# Which error an authentication ends in

The checks of an authentication, in the order of `AssertionCheck.all`, with the conditions under which
they fail. The conditions are about the response, the options, the configuration and the answers of
the surroundings, also where an earlier check fails and nobody is asked. The authentication ends in
the error of the first check that fails.
-/

namespace Passkey

variable {σ : Type}

/-- The checks of an authentication. -/
inductive AssertionCheck where
  | id
  | clientDataJson
  | authenticatorData
  | allowList
  | userHandle
  | lookup
  | known
  | owner
  | clientData (check : ClientDataCheck)
  | record (check : RecordCheck)
  | signatureCheckable
  | signature
  | counter
  | update
  | conflict
  deriving DecidableEq, Repr

/-- The checks in order. -/
def AssertionCheck.all : List AssertionCheck :=
  [.id, .clientDataJson, .authenticatorData, .allowList, .userHandle, .lookup, .known, .owner,
    .clientData .type, .clientData .challenge, .clientData .origin, .clientData .tokenBinding,
    .record .rpIdHash, .record .userPresent, .record .userVerified, .signatureCheckable, .signature,
    .counter, .update, .conflict]

theorem AssertionCheck.mem_all (check : AssertionCheck) : check ∈ all := by
  rcases check with _ | _ | _ | _ | _ | _ | _ | _ | (_ | _ | _ | _) | (_ | _ | _) | _ | _ | _ | _ | _ <;>
    decide

namespace Assertion

variable (surroundings : Surroundings σ) (s : σ) (config : RelyingPartyConfig)
  (options : RequestOptions) (response : AssertedCredential) (tokenBindingId : Option String)

/-- The answer to the look-up of the credential that a response names. -/
def found : Except String (Option RegisteredCredential) :=
  (surroundings s (.lookup response.rawId)).1

/-- The answer to the replacement of a counter, after the look-up. -/
def updated (stored : RegisteredCredential) (data : AuthenticatorData) : Except String Bool :=
  (surroundings (surroundings s (.lookup response.rawId)).2
    (.updateCounter stored.credentialId stored.signatureCount data.counter)).1

/-- When a check of an authentication fails, and with which error. -/
def Fails : AssertionCheck → CeremonyError → Prop
  | .id, e => Base64.decodeUrl? response.id ≠ some response.rawId ∧ e = .idMismatch
  | .clientDataJson, e => ClientData.decode response.response.clientData = .error e
  | .authenticatorData, e => ∃ defect,
    AuthenticatorData.decode response.response.authenticatorData = .error defect ∧
      e = .decode defect
  | .allowList, e =>
    (options.allowCredentials ≠ [] ∧ ∀ d ∈ options.allowCredentials, d.id ≠ response.rawId) ∧
      e = .unknownCredential
  | .userHandle, e =>
    (options.allowCredentials = [] ∧
      ¬ ∃ handle, response.response.userHandle = some handle ∧ handle ≠ []) ∧
      e = .missingUserHandle
  | .lookup, e => ∃ reason, found surroundings s response = .error reason ∧ e = .repository reason
  | .known, e => found surroundings s response = .ok none ∧ e = .unknownCredential
  | .owner, e => ∃ stored, found surroundings s response = .ok (some stored) ∧
    (∃ handle, response.response.userHandle = some handle ∧ handle ≠ [] ∧
      handle ≠ stored.userHandle) ∧ e = .userHandleMismatch
  | .clientData check, e => ∃ d, ClientData.decode response.response.clientData = .ok d ∧
    d.Fails "webauthn.get" options.challenge config tokenBindingId check e
  | .record check, e =>
    ∃ data, AuthenticatorData.decode response.response.authenticatorData = .ok data ∧
      data.Fails (if response.extensions.appid = some true then
        (options.extensions.bind (·.appid)).getD options.rpId else options.rpId)
        options.userVerification check e
  | .signatureCheckable, e => ∃ stored, found surroundings s response = .ok (some stored) ∧
    ∃ reason, stored.publicKey.verify
      (response.response.authenticatorData ++ sha256 response.response.clientData)
      response.response.signature = .error reason ∧ e = .signature reason
  | .signature, e => ∃ stored, found surroundings s response = .ok (some stored) ∧
    stored.publicKey.verify
      (response.response.authenticatorData ++ sha256 response.response.clientData)
      response.response.signature = .ok false ∧ e = .signatureInvalid
  | .counter, e => ∃ stored, found surroundings s response = .ok (some stored) ∧
    ∃ data, AuthenticatorData.decode response.response.authenticatorData = .ok data ∧
      (config.counterPolicy = .reject ∧ data.counter ≤ stored.signatureCount ∧
        ¬ (data.counter = 0 ∧ stored.signatureCount = 0)) ∧
      e = .possibleCloning stored.signatureCount data.counter
  | .update, e => ∃ stored, found surroundings s response = .ok (some stored) ∧
    ∃ data, AuthenticatorData.decode response.response.authenticatorData = .ok data ∧
      stored.signatureCount < data.counter ∧
      ∃ reason, updated surroundings s response stored data = .error reason ∧
        e = .repository reason
  | .conflict, e => ∃ stored, found surroundings s response = .ok (some stored) ∧
    ∃ data, AuthenticatorData.decode response.response.authenticatorData = .ok data ∧
      stored.signatureCount < data.counter ∧
      updated surroundings s response stored data = .ok false ∧ e = .counterConflict

variable {surroundings s config options response tokenBindingId}

theorem decidedBy_read : DecidedBy (Fails surroundings s config options response tokenBindingId)
    [.id, .clientDataJson, .authenticatorData, .allowList, .userHandle] (read options response) := by
  refine DecidedBy.next (decidedBy_require (fun _ => Iff.rfl) (decidedBy_ok ())) fun _ _ => ?_
  refine DecidedBy.next (decidedBy_step fun _ => Iff.rfl) fun clientData _ => ?_
  refine DecidedBy.next (decidedBy_step fun _ => mapError_eq_error.symm) fun data _ => ?_
  refine DecidedBy.next (decidedBy_require (fun _ => and_congr_left' ?_) (decidedBy_ok ()))
    fun _ _ => ?_
  · simp
  refine DecidedBy.next (decidedBy_refuse (fun _ => and_congr_left' ?_) (decidedBy_ok ()))
    fun _ _ => ?_
  · simp [← userHandle?_eq_some, Option.isNone_iff_eq_none, Option.eq_none_iff_forall_ne_some]
  exact decidedBy_ok _

section Stored

variable {data : AuthenticatorData} {stored : RegisteredCredential}

/-- A question about any credential that is found is one about the credential that is. -/
theorem exists_found_and {p : RegisteredCredential → Prop}
    (h : found surroundings s response = .ok (some stored)) :
    (∃ c, found surroundings s response = .ok (some c) ∧ p c) ↔ p stored := by
  simp [h]

theorem decidedBy_checkOwner (hfound : found surroundings s response = .ok (some stored)) :
    DecidedBy (Fails surroundings s config options response tokenBindingId) [.owner]
      (checkOwner response stored) := by
  refine decidedBy_refuse (fun e => (exists_found_and hfound).trans (and_congr_left' ?_))
    (decidedBy_ok ())
  simp only [Option.any_eq_true, userHandle?_eq_some, and_assoc, decide_eq_true_eq]

theorem decidedBy_checkClientData {d : ClientData}
    (hclient : ClientData.decode response.response.clientData = .ok d) :
    DecidedBy (Fails surroundings s config options response tokenBindingId)
      [.clientData .type, .clientData .challenge, .clientData .origin, .clientData .tokenBinding]
      (d.check ⟨.get, options.challenge, config.origins, tokenBindingId,
        config.tokenBindingPolicy⟩) :=
  (d.decidedBy_check .get options.challenge config tokenBindingId).rename
    AssertionCheck.clientData fun _ _ => exists_ok_and hclient

/-- A question about the scope and the flags of a record is one about those of the record that was
read. -/
theorem fails_record_iff
    (hdata : AuthenticatorData.decode response.response.authenticatorData = .ok data)
    (check : RecordCheck) (e : CeremonyError) :
    Fails surroundings s config options response tokenBindingId (.record check) e ↔
      data.Fails (signedRpId options response) options.userVerification check e := by
  rw [signedRpId_eq]
  exact exists_ok_and hdata

theorem decidedBy_checkScope
    (hdata : AuthenticatorData.decode response.response.authenticatorData = .ok data) :
    DecidedBy (Fails surroundings s config options response tokenBindingId) [.record .rpIdHash]
      (checkRpIdHash data (signedRpId options response)) :=
  (decidedBy_checkRpIdHash data _ options.userVerification).rename AssertionCheck.record
    (fails_record_iff hdata)

theorem decidedBy_checkPresence
    (hdata : AuthenticatorData.decode response.response.authenticatorData = .ok data) :
    DecidedBy (Fails surroundings s config options response tokenBindingId)
      [.record .userPresent, .record .userVerified]
      (checkUser data.flags options.userVerification) :=
  (decidedBy_checkUser data (signedRpId options response) options.userVerification).rename
    AssertionCheck.record (fails_record_iff hdata)

theorem decidedBy_checkSignature
    (hdata : AuthenticatorData.decode response.response.authenticatorData = .ok data)
    (hfound : found surroundings s response = .ok (some stored)) :
    DecidedBy (Fails surroundings s config options response tokenBindingId)
      [.signatureCheckable, .signature]
      (checkSignature stored.publicKey (signedMessage data response.response.clientData)
        response.response.signature) := by
  rw [signedMessage, AuthenticatorData.bytes_of_decode hdata]
  unfold checkSignature
  split
  · next reason hverify =>
    exact decidedBy_error fun e => (exists_found_and hfound).trans (by simp [hverify])
  · next hverify =>
    refine DecidedBy.skip (decidedBy_error fun e => (exists_found_and hfound).trans ?_) fun e => ?_
    · simp [hverify]
    · exact (exists_found_and hfound).not.2 (by simp [hverify])
  · next hverify =>
    refine DecidedBy.skip (DecidedBy.skip (decidedBy_ok ()) fun e => ?_) fun e => ?_
    · exact (exists_found_and hfound).not.2 (by simp [hverify])
    · exact (exists_found_and hfound).not.2 (by simp [hverify])

theorem decidedBy_checkCounter
    (hdata : AuthenticatorData.decode response.response.authenticatorData = .ok data)
    (hfound : found surroundings s response = .ok (some stored)) :
    DecidedBy (Fails surroundings s config options response tokenBindingId) [.counter]
      (checkCounter config.counterPolicy stored.signatureCount data.counter) := by
  refine decidedBy_step fun e => (exists_found_and hfound).trans ((exists_ok_and hdata).trans ?_)
  simp only [checkCounter, isCounterValid_eq, decide_eq_true_eq, ← UInt32.not_lt]
  by_cases hvalid : stored.signatureCount < data.counter ∨
      (data.counter = 0 ∧ stored.signatureCount = 0)
  · rw [if_pos hvalid]
    simp only [reduceCtorEq, iff_false]
    rintro ⟨⟨-, hstill, hused⟩, -⟩
    exact hvalid.elim hstill hused
  · rw [if_neg hvalid]
    obtain ⟨hstill, hused⟩ := not_or.1 hvalid
    cases config.counterPolicy with
    | reject => simp [hstill, hused, eq_comm]
    | flagAndAccept => simp

/-- The checks against a stored credential, once the response was read. -/
theorem decidedBy_check {r : Read} (hread : read options response = .ok r)
    (hfound : found surroundings s response = .ok (some stored)) :
    DecidedBy (Fails surroundings s config options response tokenBindingId)
      [.owner, .clientData .type, .clientData .challenge, .clientData .origin,
        .clientData .tokenBinding, .record .rpIdHash, .record .userPresent, .record .userVerified,
        .signatureCheckable, .signature, .counter]
      (check config options response tokenBindingId r stored) := by
  obtain ⟨-, hclient, hdata, -, -⟩ := read_eq_ok.1 hread
  refine (decidedBy_checkOwner hfound).next fun _ _ => ?_
  refine (decidedBy_checkClientData hclient).bind fun _ _ => ?_
  refine (decidedBy_checkScope hdata).next fun _ _ => ?_
  refine (decidedBy_checkPresence hdata).bind fun _ _ => ?_
  refine (decidedBy_checkSignature hdata hfound).bind fun _ _ => ?_
  refine (decidedBy_checkCounter hdata hfound).next fun _ _ => ?_
  exact decidedBy_ok _

theorem decidedBy_advanceCounter
    (hdata : AuthenticatorData.decode response.response.authenticatorData = .ok data)
    (hfound : found surroundings s response = .ok (some stored)) :
    DecidedBy (Fails surroundings s config options response tokenBindingId) [.update, .conflict]
      ((advanceCounter stored (resultOf stored data)).run surroundings
        (surroundings s (.lookup response.rawId)).2).result := by
  have hupdate (e : CeremonyError) :
      Fails surroundings s config options response tokenBindingId .update e ↔
        stored.signatureCount < data.counter ∧
          ∃ reason, updated surroundings s response stored data = .error reason ∧
            e = .repository reason :=
    (exists_found_and hfound).trans (exists_ok_and hdata)
  have hconflict (e : CeremonyError) :
      Fails surroundings s config options response tokenBindingId .conflict e ↔
        stored.signatureCount < data.counter ∧
          updated surroundings s response stored data = .ok false ∧ e = .counterConflict :=
    (exists_found_and hfound).trans (exists_ok_and hdata)
  rw [advanceCounter_eq]
  split
  · next hlt =>
    rw [Ceremony.run_ask]
    change DecidedBy _ _ ((afterUpdate (resultOf stored data)
      (updated surroundings s response stored data)).run _ _).result
    match hanswer : updated surroundings s response stored data with
    | .error reason => exact decidedBy_error fun e => by simp [hupdate, hanswer, hlt]
    | .ok false =>
      refine DecidedBy.skip (decidedBy_error fun e => ?_) fun e => ?_
      · simp [hconflict, hanswer, hlt]
      · simp [hupdate, hanswer]
    | .ok true =>
      refine DecidedBy.skip (DecidedBy.skip (decidedBy_ok _) fun e => ?_) fun e => ?_
      · simp [hconflict, hanswer]
      · simp [hupdate, hanswer]
  · next hlt =>
    refine DecidedBy.skip (DecidedBy.skip (decidedBy_ok _) fun e => ?_) fun e => ?_
    · simp [hconflict, hlt]
    · simp [hupdate, hlt]

end Stored

/-- What follows the look-up, once the response was read. -/
theorem decidedBy_afterLookup {r : Read} (hread : read options response = .ok r) :
    DecidedBy (Fails surroundings s config options response tokenBindingId)
      [.lookup, .known, .owner, .clientData .type, .clientData .challenge, .clientData .origin,
        .clientData .tokenBinding, .record .rpIdHash, .record .userPresent, .record .userVerified,
        .signatureCheckable, .signature, .counter, .update, .conflict]
      ((afterLookup config options response tokenBindingId r
        (found surroundings s response)).run surroundings
          (surroundings s (.lookup response.rawId)).2).result := by
  match hfound : found surroundings s response with
  | .error reason => exact decidedBy_error fun e => by simp [Fails, hfound]
  | .ok none =>
    refine DecidedBy.skip (decidedBy_error fun e => ?_) fun e => ?_
    · simp [Fails, hfound]
    · simp [Fails, hfound]
  | .ok (some stored) =>
    refine DecidedBy.skip (DecidedBy.skip ?_ fun e => ?_) fun e => ?_
    · obtain ⟨-, -, hdata, -, -⟩ := read_eq_ok.1 hread
      rw [afterLookup, Ceremony.result_attempt]
      refine (decidedBy_check hread hfound).bind fun result hresult => ?_
      obtain ⟨-, rfl⟩ := passes_iff.2 ⟨hread, hresult⟩
      exact decidedBy_advanceCounter hdata hfound
    · simp [Fails, hfound]
    · simp [Fails, hfound]

/-- An authentication ends in the error of the first of all checks that fails. -/
theorem decidedBy_finishAssertion :
    DecidedBy (Fails surroundings s config options response tokenBindingId) AssertionCheck.all
      ((finishAssertion config options response tokenBindingId).run surroundings s).result := by
  rw [finishAssertion, Ceremony.result_attempt]
  exact decidedBy_read.bind fun r hread => decidedBy_afterLookup hread

end Assertion

end Passkey
