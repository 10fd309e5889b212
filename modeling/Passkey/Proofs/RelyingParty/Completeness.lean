import Passkey.Proofs.Authenticator.ObjectRoundTrip
import Passkey.Proofs.RelyingParty.RepositoryDiscipline
import Passkey.Proofs.Software.ClientData
import Passkey.Software.Authenticator

/-!
# Honest ceremonies succeed

What an honest client and authenticator lay out is read as what they meant, so a relying party that
accepts unattested credentials registers any credential that it asked for, whatever the texts, the
identifier and the key are. Afterwards an authentication with a signature of that key comes down to
the counter: if that is acceptable the authentication succeeds, and otherwise it is refused as the
work of a clone.
-/

namespace Passkey

/-! ### The parties -/

/-- A registration between a relying party, with the options that it issued, and an honest client
and authenticator, with what is theirs to choose. The statement is what the authenticator puts into
the attestation object, although its format leaves it empty. -/
structure Enrollment where
  config : RelyingPartyConfig
  options : CreationOptions
  origin : String
  aaguid : Aaguid
  credentialId : Bytes
  publicKey : CoseKey
  publicKeyBytes : Bytes
  counter : UInt32
  flags : AuthenticatorFlags
  statement : Cbor.Entries

namespace Enrollment

variable (e : Enrollment)

def clientData : Bytes := clientDataJson "webauthn.create" e.options.challenge e.origin

def data : Bytes :=
  AuthenticatorData.write e.options.rp.id e.flags.bits e.counter
    (AuthenticatorData.writeAttested e.aaguid.bytes e.credentialId e.publicKeyBytes) []

def object : Bytes := AttestationObject.write "none" e.data e.statement

def response : CreatedCredential := .ofParts e.credentialId e.clientData e.object

/-- The credential that comes of the registration. -/
def credential : RegisteredCredential where
  credentialId := e.credentialId
  userHandle := e.options.user.id
  publicKey := e.publicKey
  publicKeyBytes := e.publicKeyBytes
  signatureCount := e.counter
  aaguid := e.aaguid

def result : RegistrationResult where
  credential := e.credential
  attestation := StatementVerdict.none.withoutRoots .none
  userVerified := e.flags.userVerified
  backupEligible := e.flags.backupEligible
  backedUp := e.flags.backedUp

/-- The relying party accepts the origin and unattested credentials, and the authenticator has made
a credential of the kind that was asked for. The bounds on the statement and on the object only say
that there is such a CBOR item. -/
structure Regular : Prop where
  untrusted_accepted : e.config.allowUntrustedAttestation = true
  origin_listed : e.origin ∈ e.config.origins.toList
  length_id_le : e.credentialId.length ≤ 1023
  key_read : CoseKey.decode e.publicKeyBytes = .ok e.publicKey
  algorithm_offered : e.publicKey.algorithm ∈ e.options.algorithms
  user_present : e.flags.userPresent = true
  user_verified : e.options.userVerification = .required → e.flags.userVerified = true
  credential_announced : e.flags.attested = true
  no_extensions : e.flags.extensions = false
  statement_plain : (Cbor.Value.map e.statement).Plain 255
  length_object_lt : e.object.length < 2 ^ 64

end Enrollment

/-- An authentication with the authenticator's counter, signature and user handle. The flags only say
that the user was present. -/
structure Authentication where
  options : RequestOptions
  origin : String
  counter : UInt32
  signature : Bytes
  userHandle : Option Bytes

namespace Authentication

variable (a : Authentication) (e : Enrollment)

def clientData : Bytes := clientDataJson "webauthn.get" a.options.challenge a.origin

def data : Bytes :=
  SoftwareAuthenticator.assertionData a.options.rpId AuthenticatorFlags.userPresentMask a.counter

def response : AssertedCredential :=
  .ofParts e.credentialId a.clientData a.data a.signature a.userHandle

/-- The counter is greater than the one of the registration, or neither is used. -/
def CounterAdvanced : Prop := e.counter < a.counter ∨ (a.counter = 0 ∧ e.counter = 0)

instance : Decidable (a.CounterAdvanced e) :=
  inferInstanceAs (Decidable (_ ∨ _))

/-- The relying party takes the counter for that of the authenticator, or does not mind. -/
def CounterAccepted : Prop :=
  a.CounterAdvanced e ∨ e.config.counterPolicy = .flagAndAccept

instance : Decidable (a.CounterAccepted e) :=
  inferInstanceAs (Decidable (_ ∨ _))

def result : AssertionResult where
  credentialId := e.credentialId
  userHandle := e.options.user.id
  signatureCount := a.counter
  counterValid := a.CounterAdvanced e
  userVerified := false
  backupEligible := false
  backedUp := false
  warnings := if a.CounterAdvanced e then [] else [.counterNotAdvanced e.counter a.counter]

/-- The relying party accepts the origin and the credential without user verification, and the
authenticator has signed with the key of the credential and names the user where it must, and nobody
else. -/
structure Regular : Prop where
  origin_listed : a.origin ∈ e.config.origins.toList
  verification_optional : a.options.userVerification ≠ .required
  credential_allowed : a.options.allowCredentials ≠ [] →
    ∃ d ∈ a.options.allowCredentials, d.id = e.credentialId
  user_named : a.options.allowCredentials = [] → a.userHandle = some e.options.user.id
  user_matches : ∀ handle, a.userHandle = some handle → handle ≠ [] → handle = e.options.user.id
  signed : e.publicKey.verify (signedData a.data a.clientData) a.signature = .ok true

end Authentication

/-! ### The registration -/

namespace Enrollment

variable (e : Enrollment)

def attested : AttestedCredential := ⟨e.aaguid, e.credentialId, e.publicKey, e.publicKeyBytes⟩

def record : AuthenticatorData :=
  ⟨e.data, sha256 (Utf8.encode e.options.rp.id), e.flags, e.counter, some e.attested, none⟩

variable {e} (he : e.Regular)

include he

theorem Regular.data_read : AuthenticatorData.decode e.data = .ok e.record :=
  AuthenticatorData.decode_write e.options.rp.id e.counter
    (some ⟨e.aaguid, e.credentialId, e.publicKeyBytes⟩) he.credential_announced.symm
    he.no_extensions (.some ⟨he.length_id_le, rfl, rfl, he.key_read, rfl⟩)

theorem Regular.object_read :
    AttestationObject.decode e.object = .ok ⟨"none", e.record, ⟨e.statement⟩⟩ := by
  rw [object, AttestationObject.decode_write he.statement_plain he.length_object_lt, he.data_read]
  rfl

theorem Regular.passes :
    Registration.Passes e.config e.options e.response none
      ⟨"webauthn.create", e.options.challenge, e.origin, some false, none, none⟩
      ⟨"none", e.record, ⟨e.statement⟩⟩ e.attested .none where
  id_spells := Base64.decodeUrl?_encodeUrl _
  clientData_read := ClientData.decode_clientDataJson ..
  clientData_answers := {
    type_eq := rfl
    challenge_eq := rfl
    origin_mem := he.origin_listed
    binding_used := fun _ h => nomatch h
    binding_ignored := fun _ ⟨_, h, _⟩ => nomatch h }
  object_read := he.object_read
  scope := rfl
  user_present := he.user_present
  user_verified := fun selection hs hr =>
    he.user_verified (Registration.userVerification_eq_required.2 ⟨selection, hs, hr⟩)
  credential_attested := rfl
  id_matches := rfl
  algorithm_offered := he.algorithm_offered
  format_accepted := Or.inl ⟨.none, by decide, rfl⟩
  statement_verified := rfl

theorem Regular.run_registration (resolver : Option TrustRootResolver) {s : CredentialStore}
    (hnew : s.get? e.credentialId = none) (now : Instant) :
    ((finishRegistration e.config e.options e.response none now).run
      (CredentialStore.surroundings resolver) s).result = .ok e.result := by
  have hchecked : Registration.check e.config e.options e.response none =
      .ok ⟨e.record, e.attested, .none, .none⟩ :=
    Registration.check_eq_ok.2 ⟨_, _, rfl, rfl, he.passes⟩
  have hunknown : (CredentialStore.surroundings resolver s (.isRegistered e.credentialId)).1 =
      .ok false := by
    simp [CredentialStore.surroundings, CredentialStore.contains, hnew]
  rw [finishRegistration, hchecked, Ceremony.attempt_ok]
  exact (Registration.result_register_eq_ok _ s _ _ _ _).2
    ⟨Or.inr he.untrusted_accepted, hunknown, rfl⟩

end Enrollment

/-! ### The authentications after it -/

namespace Authentication

variable (a : Authentication) {e : Enrollment}

/-- The flags that only say that the user was present. -/
def onlyPresent : AuthenticatorFlags := ⟨AuthenticatorFlags.userPresentMask⟩

theorem onlyPresent_userPresent : onlyPresent.userPresent = true := by decide
theorem onlyPresent_attested : onlyPresent.attested = false := by decide
theorem onlyPresent_extensions : onlyPresent.extensions = false := by decide

def record : AuthenticatorData :=
  ⟨a.data, sha256 (Utf8.encode a.options.rpId), onlyPresent, a.counter, none, none⟩

theorem data_read : AuthenticatorData.decode a.data = .ok a.record :=
  AuthenticatorData.decode_write a.options.rpId a.counter none onlyPresent_attested.symm
    onlyPresent_extensions .none

/-- What was read of the response. -/
def read : Assertion.Read :=
  ⟨⟨"webauthn.get", a.options.challenge, a.origin, some false, none, none⟩, a.record⟩

theorem resultOf_record (a : Authentication) (e : Enrollment) :
    Assertion.resultOf e.credential a.record = a.result e := by
  have hflags : onlyPresent.userVerified = false ∧ onlyPresent.backupEligible = false ∧
      onlyPresent.backedUp = false := by decide
  by_cases hadvanced : e.counter < a.counter ∨ (a.counter = 0 ∧ e.counter = 0)
  · simp [Assertion.resultOf, result, record, Enrollment.credential, CounterAdvanced, hflags,
      hadvanced]
  · simp [Assertion.resultOf, result, record, Enrollment.credential, CounterAdvanced, hflags,
      hadvanced]

theorem checkCounter_eq (a : Authentication) (e : Enrollment) :
    Assertion.checkCounter e.config.counterPolicy e.counter a.counter =
      if a.CounterAccepted e then .ok (a.result e).warnings
      else .error (.possibleCloning e.counter a.counter) := by
  have hvalid : Assertion.isCounterValid e.counter a.counter = a.CounterAdvanced e := by
    simp [Assertion.isCounterValid_eq, CounterAdvanced]
  by_cases hadvanced : a.CounterAdvanced e
  · simp [Assertion.checkCounter, hvalid, CounterAccepted, result, hadvanced]
  · cases hpolicy : e.config.counterPolicy with
    | reject => simp [Assertion.checkCounter, hvalid, CounterAccepted, hadvanced, hpolicy]
    | flagAndAccept =>
      simp [Assertion.checkCounter, hvalid, CounterAccepted, result, hadvanced, hpolicy]

variable {a} (ha : a.Regular e)

include ha

theorem Regular.read_eq : Assertion.read a.options (a.response e) = .ok a.read := by
  refine Assertion.read_eq_ok.2 ⟨Base64.decodeUrl?_encodeUrl _,
    ClientData.decode_clientDataJson .., a.data_read, ha.credential_allowed, fun hany => ?_⟩
  exact ⟨e.options.user.id, ha.user_named hany, e.options.user.id_ne_nil⟩

/-- Every check but that of the counter succeeds. -/
theorem Regular.check_eq :
    Assertion.check e.config a.options (a.response e) none a.read e.credential =
      if a.CounterAccepted e then .ok (a.result e)
      else .error (.possibleCloning e.counter a.counter) := by
  have howner : Assertion.checkOwner (a.response e) e.credential = .ok () :=
    Assertion.checkOwner_eq_ok.2 ha.user_matches
  have hclient : a.read.clientData.check
      ⟨.get, a.options.challenge, e.config.origins, none, e.config.tokenBindingPolicy⟩ = .ok () :=
    ClientData.check_eq_ok.2 ⟨rfl, rfl, ha.origin_listed, fun _ h => (nomatch h),
      fun _ ⟨_, h, _⟩ => nomatch h⟩
  have hscope : checkRpIdHash a.read.data (Assertion.signedRpId a.options (a.response e)) =
      .ok () := by
    rw [Assertion.signedRpId_eq]
    exact checkRpIdHash_eq_ok.2 rfl
  have huser : checkUser a.read.data.flags a.options.userVerification = .ok () :=
    checkUser_eq_ok.2 ⟨onlyPresent_userPresent, fun h => absurd h ha.verification_optional⟩
  have hsigned : Assertion.checkSignature e.credential.publicKey
      (Assertion.signedMessage a.read.data (a.response e).response.clientData)
      (a.response e).response.signature = .ok () :=
    Assertion.checkSignature_eq_ok.2 ha.signed
  have hcounter : Assertion.checkCounter e.config.counterPolicy e.credential.signatureCount
      a.read.data.counter = if a.CounterAccepted e then .ok (a.result e).warnings
        else .error (.possibleCloning e.counter a.counter) := checkCounter_eq a e
  have hvalid : Assertion.isCounterValid e.credential.signatureCount a.read.data.counter =
      (a.result e).counterValid := Assertion.isCounterValid_eq ..
  simp only [Assertion.check, howner, hclient, hscope, huser, hsigned, hcounter, hvalid, ok_bind]
  split
  · rw [← resultOf_record]
    rfl
  · rfl

/-- In a repository that holds the credential as it was registered, the counter decides. -/
theorem Regular.run_authentication (resolver : Option TrustRootResolver) {s : CredentialStore}
    (hs : s.get? e.credentialId = some e.credential) :
    let outcome := (finishAssertion e.config a.options (a.response e) none).run
      (CredentialStore.surroundings resolver) s
    (a.CounterAccepted e → outcome.result = .ok (a.result e) ∧
      outcome.surroundings =
        if e.counter < a.counter then s.setCounter e.credentialId a.counter else s) ∧
    (¬ a.CounterAccepted e →
      outcome.result = .error (.possibleCloning e.counter a.counter) ∧
        outcome.surroundings = s) := by
  intro outcome
  let rest := (Ceremony.attempt
    (Assertion.check e.config a.options (a.response e) none a.read e.credential)
    (Assertion.advanceCounter e.credential)).run (CredentialStore.surroundings resolver) s
  have hrest : outcome.result = rest.result ∧ outcome.surroundings = rest.surroundings := by
    have hlookup : (CredentialStore.surroundings resolver s (.lookup (a.response e).rawId)).1 =
        .ok (some e.credential) := congrArg Except.ok hs
    simp only [outcome, finishAssertion, ha.read_eq, Ceremony.attempt_ok, Ceremony.run_ask, hlookup]
    exact ⟨rfl, rfl⟩
  rw [hrest.1, hrest.2]
  simp only [rest, ha.check_eq]
  constructor
  · intro haccepted
    rw [if_pos haccepted, Ceremony.attempt_ok, ← resultOf_record]
    have hown : s.get? e.credential.credentialId = some e.credential := hs
    exact Assertion.run_advanceCounter resolver hown a.record
  · intro haccepted
    rw [if_neg haccepted]
    exact ⟨rfl, rfl⟩

end Authentication

/-- A registration that an honest client and authenticator complete is accepted with the credential
that they made, if its identifier is new, and changes nothing. Once the credential is inserted,
every authentication with a signature of its key is accepted if the counter is acceptable, which
leaves the counter replaced if it advanced, and otherwise fails for that reason and changes
nothing. -/
theorem honest_ceremonies (e : Enrollment) (he : e.Regular) (resolver : Option TrustRootResolver)
    (now : Instant) (s : CredentialStore) (hnew : s.get? e.credentialId = none) :
    let registration := (finishRegistration e.config e.options e.response none now).run
      (CredentialStore.surroundings resolver) s
    (registration.result = .ok e.result ∧ registration.surroundings = s) ∧
    ∀ a : Authentication, a.Regular e →
      let inserted := s.insert e.credential
      let authentication := (finishAssertion e.config a.options (a.response e) none).run
        (CredentialStore.surroundings resolver) inserted
      (a.CounterAccepted e → authentication.result = .ok (a.result e) ∧
        authentication.surroundings =
          if e.counter < a.counter then inserted.setCounter e.credentialId a.counter
          else inserted) ∧
      (¬ a.CounterAccepted e →
        authentication.result = .error (.possibleCloning e.counter a.counter) ∧
          authentication.surroundings = inserted) := by
  intro registration
  refine ⟨⟨he.run_registration resolver hnew now,
    Registration.run_finishRegistration_store resolver s e.config e.options e.response none now⟩, ?_⟩
  intro a ha
  have hfound : (s.insert e.credential).get? e.credentialId = some e.credential := by
    rw [CredentialStore.get?_insert]
    exact if_pos rfl
  exact ha.run_authentication resolver hfound

/-! ### One such pair of ceremonies -/

namespace SmallKey

def user : UserIdentity := ⟨[2], "bob", "Bob", by decide, by decide⟩

def challenge : Bytes := (List.range 16).map UInt8.ofNat

def config : RelyingPartyConfig := .ofOrigins ⟨"example.com", "Example"⟩ ["https://example.com"]

/-- A modulus of 512 bits, the cube of the signature below less the padded digest that is signed. -/
def modulus : Nat :=
  0xfffe00000000000000000000ffcfcecff2f9f69f792b30311b7c591bca8c410a72b3af9f4b4ed361235735aefc7b478b63ae6b83ee8f63b1ac88eb4743fdc73b

def key : CoseKey := ⟨.rs256, .rsa (Bytes.ofNat 64 modulus) [3]⟩

def enrollment : Enrollment where
  config
  options := (config.registrationRequest user).options challenge
  origin := "https://example.com"
  aaguid := .zero
  credentialId := [7]
  publicKey := key
  publicKeyBytes := key.encode
  counter := 0
  flags := ⟨0x41⟩
  statement := [(.text "alg", .int (-257)), (.text "sig", .bytes [0x01, 0x02]),
    (.text "ver", .text "2.0")]

def authentication : Authentication where
  options := config.assertionRequest.options challenge
  origin := "https://example.com"
  counter := 1
  signature := Bytes.ofNat 64 0x6597fa94f5b8f20ac16666ad0f7137bc6601d885627
  userHandle := some [2]

theorem key_read : CoseKey.decode key.encode = .ok key := by decide +kernel

theorem enrollment_regular : enrollment.Regular where
  untrusted_accepted := rfl
  origin_listed := by
    show _ ∈ (OriginSet.ofList ["https://example.com"]).toList
    decide
  length_id_le := by decide
  key_read := key_read
  algorithm_offered := by decide
  user_present := by decide
  user_verified := fun h => nomatch h
  credential_announced := by decide
  no_extensions := by decide
  statement_plain := by
    have hint : (Cbor.Value.int (-257)).Plain 254 := .int (by decide) (by decide)
    refine .map ?_ ?_
    · simp [enrollment, Cbor.Value.Plain.text]
    · simp [enrollment, hint, Cbor.Value.Plain.bytes, Cbor.Value.Plain.text]
  length_object_lt := by decide +kernel

theorem verified :
    key.verify (signedData authentication.data authentication.clientData) authentication.signature =
      .ok true := by
  decide +kernel

theorem authentication_regular : authentication.Regular enrollment where
  origin_listed := enrollment_regular.origin_listed
  verification_optional := by decide
  credential_allowed := fun h => absurd rfl h
  user_named := fun _ => rfl
  user_matches := by
    rintro handle ⟨⟩ -
    rfl
  signed := verified

end SmallKey

open SmallKey in
/-- A small RSA key is registered in the empty repository, although the statement is not empty, and a
signature of it is accepted and leaves its counter there. -/
theorem small_key_ceremonies :
    enrollment.Regular ∧ authentication.Regular enrollment ∧
      CredentialStore.empty.get? enrollment.credentialId = none ∧
      ((finishRegistration enrollment.config enrollment.options enrollment.response none ⟨0, 0⟩).run
        (CredentialStore.surroundings none) .empty).result = .ok enrollment.result ∧
      let inserted := CredentialStore.empty.insert enrollment.credential
      let outcome := (finishAssertion enrollment.config authentication.options
        (authentication.response enrollment) none).run (CredentialStore.surroundings none) inserted
      outcome.result = .ok ⟨[7], [2], 1, true, false, false, false, []⟩ ∧
        outcome.surroundings = inserted.setCounter [7] 1 := by
  obtain ⟨⟨hregistered, -⟩, hafter⟩ :=
    honest_ceremonies enrollment enrollment_regular none ⟨0, 0⟩ .empty rfl
  have hadvanced : authentication.CounterAdvanced enrollment := by decide
  obtain ⟨haccepted, -⟩ := hafter authentication authentication_regular
  obtain ⟨hresult, hstore⟩ := haccepted (Or.inl hadvanced)
  exact ⟨enrollment_regular, authentication_regular, rfl, hregistered, hresult, hstore⟩

end Passkey
