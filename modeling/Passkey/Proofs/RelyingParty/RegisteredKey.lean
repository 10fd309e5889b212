import Mathlib.Tactic.SplitIfs
import Passkey.Proofs.Cose.UsableKeys
import Passkey.Proofs.RelyingParty.Completeness
import Passkey.Proofs.RelyingParty.Persistence

/-!
# What a registered key is good for

Registering a credential compares its algorithm with those that were offered, and never with its
key. A registered key is always usable, so whether its signatures can be checked depends on its
algorithm alone: if that fits the key, every later check comes out true or false, and if it does
not, every later check fails for that reason.
-/

namespace Passkey

variable {σ : Type}

/-! ### Authentications that fail because a signature cannot be checked -/

namespace Assertion

variable {config : RelyingPartyConfig} {options : RequestOptions} {response : AssertedCredential}
  {tokenBindingId : Option String} {stored : RegisteredCredential} {e : SignatureError}

theorem read_ne_signature : read options response ≠ .error (.signature e) := by
  simp only [read, ne_eq, bind_eq_error]
  rintro (h | ⟨-, -, h | ⟨_, -, h | ⟨_, -, h | ⟨-, -, h | ⟨-, -, h⟩⟩⟩⟩⟩)
  · unfold checkId at h
    split at h <;> cases h
  · unfold ClientData.decode at h
    split at h <;> cases h
  · cases hd : AuthenticatorData.decode response.response.authenticatorData <;>
      rw [hd] at h <;> cases h
  · unfold checkAllowed at h
    split at h <;> cases h
  · unfold checkUserNamed at h
    split at h <;> cases h
  · cases h

/-- Of the checks against a stored credential, only that of the signature can fail because it cannot
be made. -/
theorem check_eq_signature {r : Read}
    (h : check config options response tokenBindingId r stored = .error (.signature e)) :
    stored.publicKey.verify (signedMessage r.data response.response.clientData)
      response.response.signature = .error e := by
  simp only [check, bind_eq_error] at h
  rcases h with h | ⟨-, -, h | ⟨-, -, h | ⟨-, -, h | ⟨-, -, h | ⟨-, -, h | ⟨_, -, h⟩⟩⟩⟩⟩⟩
  · unfold checkOwner at h
    split at h <;> cases h
  · unfold ClientData.check at h
    split_ifs at h <;> cases h
  · unfold checkRpIdHash at h
    split at h <;> cases h
  · unfold checkUser at h
    split_ifs at h <;> cases h
  · unfold checkSignature at h
    split at h
    · rename_i hverify
      cases h
      exact hverify
    · cases h
    · cases h
  · unfold checkCounter at h
    split_ifs at h
    split at h <;> cases h
  · cases h

theorem advanceCounter_ne_signature (surroundings : Surroundings σ) (s : σ)
    (result : AssertionResult) :
    ((advanceCounter stored result).run surroundings s).result ≠ .error (.signature e) := by
  unfold advanceCounter
  split
  · rw [Ceremony.run_ask]
    match (surroundings s (.updateCounter stored.credentialId stored.signatureCount
      result.signatureCount)).1 with
    | .error reason => simp [afterUpdate]
    | .ok false => simp [afterUpdate]
    | .ok true => simp [afterUpdate]
  · simp

/-- Where an authentication fails because its signature cannot be checked, it is the key that the
repository returned that cannot check it. -/
theorem signature_of_run (surroundings : Surroundings σ) (s : σ)
    (h : ((finishAssertion config options response tokenBindingId).run surroundings s).result
      = .error (.signature e)) :
    ∃ stored message, (surroundings s (.lookup response.rawId)).1 = .ok (some stored) ∧
      stored.publicKey.verify message response.response.signature = .error e := by
  unfold finishAssertion at h
  cases hr : read options response with
  | error d =>
    rw [hr, Ceremony.attempt_error, Ceremony.run_fail] at h
    cases h
    exact absurd hr read_ne_signature
  | ok r =>
    rw [hr, Ceremony.attempt_ok, Ceremony.run_ask] at h
    match hl : (surroundings s (.lookup response.rawId)).1 with
    | .error reason =>
      rw [hl] at h
      cases h
    | .ok none =>
      rw [hl] at h
      cases h
    | .ok (some stored) =>
      rw [hl] at h
      cases hc : check config options response tokenBindingId r stored with
      | error d =>
        simp only [afterLookup, hc, Ceremony.attempt_error, Ceremony.run_fail] at h
        cases h
        exact ⟨stored, _, rfl, check_eq_signature hc⟩
      | ok result =>
        simp only [afterLookup, hc, Ceremony.attempt_ok] at h
        exact absurd h (advanceCounter_ne_signature _ _ _)

end Assertion

/-! ### The registered key -/

namespace Registration

variable {surroundings : Surroundings σ} {s : σ} {config : RelyingPartyConfig}
  {options : CreationOptions} {response : CreatedCredential} {tokenBindingId : Option String}
  {now : Instant} {result : RegistrationResult}

theorem usable_of_accepted
    (h : ((finishRegistration config options response tokenBindingId now).run surroundings s).result
      = .ok result) :
    result.credential.publicKey.key.Usable :=
  CoseKey.usable_of_decode (key_of_accepted h)

theorem algorithm_of_accepted
    (h : ((finishRegistration config options response tokenBindingId now).run surroundings s).result
      = .ok result) :
    result.credential.publicKey.algorithm ∈ options.algorithms := by
  obtain ⟨clientData, object, attested, verdict, attestation, hp, -, rfl⟩ := accepted h
  exact hp.algorithm_offered

end Registration

/-- Where only supported algorithms were offered, the key of an accepted registration checks every
signature if its algorithm fits it, and otherwise refuses every signature for that reason. No later
authentication with the key fails because the algorithm is not supported or the key is not usable,
and none fails for a mismatch if the algorithm fits. -/
theorem registered_key_checks (surroundings : Surroundings σ) (s : σ) (config : RelyingPartyConfig)
    (options : CreationOptions) (response : CreatedCredential) (tokenBindingId : Option String)
    (now : Instant) (result : RegistrationResult)
    (hoffered : ∀ algorithm ∈ options.algorithms, algorithm.isSupported = true)
    (haccepted : ((finishRegistration config options response tokenBindingId now).run surroundings
      s).result = .ok result) :
    let k := result.credential.publicKey
    let mismatch := SignatureError.algorithmKeyMismatch k.algorithm k.key.keyType
    (k.algorithm.Fits k.key → ∀ message signature, ∃ good, k.verify message signature = .ok good) ∧
    (¬ k.algorithm.Fits k.key → ∀ message signature, k.verify message signature = .error mismatch) ∧
    ∀ (τ : Type) (later : Surroundings τ) (t : τ) (config : RelyingPartyConfig)
      (options : RequestOptions) (response : AssertedCredential) (tokenBindingId : Option String)
      (stored : RegisteredCredential) (e : SignatureError),
      (later t (.lookup response.rawId)).1 = .ok (some stored) → stored.publicKey = k →
      ((finishAssertion config options response tokenBindingId).run later t).result
          = .error (.signature e) →
        ¬ k.algorithm.Fits k.key ∧ e = mismatch := by
  intro k mismatch
  have hkey : k.key.Usable := Registration.usable_of_accepted haccepted
  have hsupported : k.algorithm.isSupported = true :=
    hoffered _ (Registration.algorithm_of_accepted haccepted)
  have hgood : k.algorithm.Fits k.key →
      ∀ message signature, ∃ good, k.verify message signature = .ok good := fun hfits =>
    PublicKey.verify_of_fits hfits hkey
  have hbad : ¬ k.algorithm.Fits k.key →
      ∀ message signature, k.verify message signature = .error mismatch := fun hfits =>
    PublicKey.verify_of_not_fits hsupported hfits
  refine ⟨hgood, hbad, ?_⟩
  intro τ later t config options response tokenBindingId stored e hlookup hstored hrun
  obtain ⟨found, message, hfound, hverify⟩ := Assertion.signature_of_run later t hrun
  rw [hlookup] at hfound
  cases hfound
  rw [hstored] at hverify
  have hfits : ¬ k.algorithm.Fits k.key := by
    intro hfits
    obtain ⟨good, hok⟩ := hgood hfits message response.response.signature
    rw [hok] at hverify
    cases hverify
  rw [hbad hfits] at hverify
  cases hverify
  exact ⟨hfits, rfl⟩

/-! ### A registration whose algorithm is the authenticator's choice -/

namespace LabelledKey

variable (algorithm : CoseAlgorithm)

def user : UserIdentity := ⟨[1], "alice", "Alice", by decide, by decide⟩

def challenge : Bytes := (List.range 16).map UInt8.ofNat

/-- A relying party that offers one algorithm. -/
def config : RelyingPartyConfig :=
  { RelyingPartyConfig.ofOrigins ⟨"example.com", "Example"⟩ ["https://example.com"] with
    preferredAlgorithms := [algorithm] }

def options : CreationOptions := ((config algorithm).registrationRequest user).options challenge

/-- An RSA key that is labelled with the algorithm that was offered. -/
def key : CoseKey := ⟨algorithm, .rsa [15] [3]⟩

def attested : AttestedCredential := ⟨Aaguid.zero, [7], key algorithm, (key algorithm).encode⟩

def dataBytes : Bytes :=
  AuthenticatorData.write "example.com" 0x41 0
    (AuthenticatorData.writeAttested Aaguid.zero.bytes [7] (key algorithm).encode) []

def data : AuthenticatorData :=
  ⟨dataBytes algorithm, sha256 (Utf8.encode "example.com"), ⟨0x41⟩, 0, some (attested algorithm),
    none⟩

def clientDataBytes : Bytes := clientDataJson "webauthn.create" challenge "https://example.com"

/-- The response to the options, with the empty attestation. -/
def response : CreatedCredential :=
  .ofParts [7] clientDataBytes (SoftwareAuthenticator.noneAttestation (dataBytes algorithm))

def result : RegistrationResult :=
  Registration.resultOf user (data algorithm) (attested algorithm)
    (StatementVerdict.none.withoutRoots .none)

/-- The registration with an empty repository and without trusted roots. -/
def outcome : Outcome RegistrationResult CredentialStore :=
  (finishRegistration (config algorithm) (options algorithm) (response algorithm) none ⟨0, 0⟩).run
    (CredentialStore.surroundings none) CredentialStore.empty

/-- The registration as one of an honest client and authenticator. -/
def enrollment : Enrollment where
  config := config algorithm
  options := options algorithm
  origin := "https://example.com"
  aaguid := .zero
  credentialId := [7]
  publicKey := key algorithm
  publicKeyBytes := (key algorithm).encode
  counter := 0
  flags := ⟨0x41⟩
  statement := []

/-- The registration succeeds with any algorithm under which the key can be read. -/
theorem outcome_ok {algorithm : CoseAlgorithm}
    (hkey : CoseKey.decode (key algorithm).encode = .ok (key algorithm))
    (hlength : (enrollment algorithm).object.length < 2 ^ 64) :
    (outcome algorithm).result = .ok (result algorithm) := by
  have hregular : (enrollment algorithm).Regular := {
    untrusted_accepted := rfl
    origin_listed := by
      show "https://example.com" ∈ (OriginSet.ofList ["https://example.com"]).toList
      decide
    length_id_le := by
      show [(7 : UInt8)].length ≤ 1023
      decide
    key_read := hkey
    algorithm_offered := List.mem_singleton_self algorithm
    user_present := by
      show AuthenticatorFlags.userPresent ⟨0x41⟩ = true
      decide
    user_verified := fun h => nomatch h
    credential_announced := by
      show AuthenticatorFlags.attested ⟨0x41⟩ = true
      decide
    no_extensions := by
      show AuthenticatorFlags.extensions ⟨0x41⟩ = false
      decide
    statement_plain := .map (fun _ h => nomatch h) (fun _ h => nomatch h)
    length_object_lt := hlength }
  exact hregular.run_registration none rfl ⟨0, 0⟩

theorem outcome_es256 : (outcome .es256).result = .ok (result .es256) :=
  outcome_ok (by decide +kernel) (by decide +kernel)

theorem outcome_rs256 : (outcome .rs256).result = .ok (result .rs256) :=
  outcome_ok (by decide +kernel) (by decide +kernel)

end LabelledKey

open LabelledKey in
/-- With an algorithm for RSA keys, the RSA key checks every signature. -/
theorem labelled_key_checks :
    (∀ algorithm ∈ (options .rs256).algorithms, algorithm.isSupported = true) ∧
      (outcome .rs256).result = .ok (result .rs256) ∧
      ∀ message signature, ∃ good,
        (result .rs256).credential.publicKey.verify message signature = .ok good :=
  have hoffered : ∀ algorithm ∈ (options .rs256).algorithms, algorithm.isSupported = true := by
    decide
  ⟨hoffered, outcome_rs256,
    (registered_key_checks _ _ _ _ _ _ _ _ hoffered outcome_rs256).1 (.rs256 [15] [3])⟩

open LabelledKey in
/-- With the one for P-256, which was offered too, the RSA key is registered all the same, and no
signature can be checked with it. -/
theorem mislabelled_key_never_checks :
    (∀ algorithm ∈ (options .es256).algorithms, algorithm.isSupported = true) ∧
      (outcome .es256).result = .ok (result .es256) ∧
      ∀ message signature, (result .es256).credential.publicKey.verify message signature
        = .error (.algorithmKeyMismatch .es256 "RSA") :=
  ⟨by decide, outcome_es256, fun _ _ => rfl⟩

end Passkey
