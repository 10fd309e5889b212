import Passkey.Proofs.RelyingParty.AssertionAcceptance
import Passkey.Proofs.RelyingParty.RegistrationAcceptance
import Passkey.Proofs.RelyingParty.StoreLaws

/-!
# What ceremonies do to the repository

Whatever the repository answers, an authentication calls it for one look-up at most, and after that
only to replace the counter of a credential against which the response passes; a registration calls
it at most to ask whether the credential is new. In a repository in memory this changes nothing but
the counter of an accepted authentication that advanced, and only the entry of the asserted
credential decides what happens.
-/

namespace Passkey

variable {σ : Type}

/-- Whether a question goes to the repository. -/
def Query.isRepositoryCall : Query → Bool
  | .trustRoots _ _ => false
  | .lookup _ | .isRegistered _ | .updateCounter _ _ _ => true

/-- The calls of the repository that were made, in order. -/
def Outcome.repositoryCalls {α : Type} (o : Outcome α σ) : List Query :=
  (o.exchanges.map (·.1)).filter (·.isRepositoryCall)

/-! ### Authentications -/

namespace Assertion

variable {config : RelyingPartyConfig} {options : RequestOptions} {response : AssertedCredential}
  {tokenBindingId : Option String}

/-- The calls of the repository that an authentication may make: none, the look-up, or the look-up
and, if the response passes against the credential that is the answer, the replacement of its counter
by a greater one. -/
inductive Calls (config : RelyingPartyConfig) (options : RequestOptions)
    (response : AssertedCredential) (tokenBindingId : Option String)
    (answer : Except String (Option RegisteredCredential)) : List Query → Prop where
  | none : Calls config options response tokenBindingId answer []
  | lookup : Calls config options response tokenBindingId answer [.lookup response.rawId]
  | update {clientData : ClientData} {data : AuthenticatorData} {stored : RegisteredCredential} :
    answer = .ok (some stored) →
    Passes config options response tokenBindingId clientData data stored →
    stored.signatureCount < data.counter →
    Calls config options response tokenBindingId answer
      [.lookup response.rawId,
        .updateCounter stored.credentialId stored.signatureCount data.counter]

/-- What an authentication for a credential may do to a repository: nothing if it fails or the
counter did not advance, and otherwise to replace that counter. -/
structure Effect (id : Bytes) (store after : CredentialStore)
    (result : Except CeremonyError AssertionResult) : Prop where
  of_error : ∀ e, result = .error e → after = store
  known : ∀ r, result = .ok r → ∃ stored, store.get? id = some stored
  of_le : ∀ r stored, result = .ok r → store.get? id = some stored →
    r.signatureCount ≤ stored.signatureCount → after = store
  of_lt : ∀ r stored, result = .ok r → store.get? id = some stored →
    stored.signatureCount < r.signatureCount →
      after.entries.map (·.1) = store.entries.map (·.1) ∧
      ∀ k, after.get? k =
        if k = id then some { stored with signatureCount := r.signatureCount } else store.get? k

theorem calls_advanceCounter (surroundings : Surroundings σ) (s : σ)
    (stored : RegisteredCredential) (data : AuthenticatorData) :
    ((advanceCounter stored (resultOf stored data)).run surroundings s).repositoryCalls =
      if stored.signatureCount < data.counter then
        [.updateCounter stored.credentialId stored.signatureCount data.counter]
      else [] := by
  rw [advanceCounter_eq]
  split
  · rw [Ceremony.run_ask]
    match (surroundings s (.updateCounter stored.credentialId stored.signatureCount
      data.counter)).1 with
    | .error reason => rfl
    | .ok false => rfl
    | .ok true => rfl
  · rfl

/-- An authentication looks up the credential, and may then replace the counter of one against which
the response passes, by a greater one. -/
theorem calls_finishAssertion (surroundings : Surroundings σ) (s : σ)
    (config : RelyingPartyConfig) (options : RequestOptions) (response : AssertedCredential)
    (tokenBindingId : Option String) :
    Calls config options response tokenBindingId (surroundings s (.lookup response.rawId)).1
      ((finishAssertion config options response tokenBindingId).run
        surroundings s).repositoryCalls := by
  rcases run_cases surroundings s config options response tokenBindingId with
    ⟨e, he⟩ | ⟨e, he⟩ | ⟨clientData, data, stored, hl, hp⟩
  · rw [he]
    exact Calls.none
  · rw [he]
    exact Calls.lookup
  · have hcalls : ((finishAssertion config options response tokenBindingId).run
        surroundings s).repositoryCalls = .lookup response.rawId ::
          ((advanceCounter stored (resultOf stored data)).run surroundings
            (surroundings s (.lookup response.rawId)).2).repositoryCalls := by
      rw [run_of_passes surroundings s hl hp]
      rfl
    rw [hcalls, calls_advanceCounter]
    by_cases hlt : stored.signatureCount < data.counter
    · rw [if_pos hlt]
      exact Calls.update hl hp hlt
    · rw [if_neg hlt]
      exact Calls.lookup

/-- A credential that is still as it was looked up has its counter replaced if that advanced. -/
theorem run_advanceCounter (resolver : Option TrustRootResolver) {s : CredentialStore}
    {stored : RegisteredCredential} (hg : s.get? stored.credentialId = some stored)
    (data : AuthenticatorData) :
    let outcome := (advanceCounter stored (resultOf stored data)).run
      (CredentialStore.surroundings resolver) s
    outcome.result = .ok (resultOf stored data) ∧
      outcome.surroundings =
        if stored.signatureCount < data.counter then s.setCounter stored.credentialId data.counter
        else s := by
  have hcounter : s.hasCounter stored.credentialId stored.signatureCount = true :=
    CredentialStore.hasCounter_iff.2 ⟨stored, hg, rfl⟩
  rw [advanceCounter_eq]
  split
  · rw [Ceremony.run_ask]
    simp only [CredentialStore.surroundings, CredentialStore.updateCounter_eq, hcounter]
    exact ⟨rfl, rfl⟩
  · exact ⟨rfl, rfl⟩

/-- What an authentication does in a repository is determined by the entry of the asserted
credential, if that is under its own identifier: it fails and changes nothing, or it is accepted and
replaces at most the counter. -/
theorem run_of_entry (config : RelyingPartyConfig) (options : RequestOptions)
    (response : AssertedCredential) (tokenBindingId : Option String)
    (entry : Option RegisteredCredential)
    (hown : ∀ stored, entry = some stored → stored.credentialId = response.rawId) :
    (∃ e, ∀ resolver s, CredentialStore.get? s response.rawId = entry →
      let outcome := (finishAssertion config options response tokenBindingId).run
        (CredentialStore.surroundings resolver) s
      outcome.result = .error e ∧ outcome.surroundings = s) ∨
    ∃ stored data, entry = some stored ∧
      ∀ resolver s, CredentialStore.get? s response.rawId = entry →
        let outcome := (finishAssertion config options response tokenBindingId).run
          (CredentialStore.surroundings resolver) s
        outcome.result = .ok (resultOf stored data) ∧
          outcome.surroundings =
            if stored.signatureCount < data.counter then s.setCounter response.rawId data.counter
            else s := by
  rcases finishAssertion_cases config options response tokenBindingId with ⟨e, he⟩ | ⟨r, hr, hf⟩
  · refine Or.inl ⟨e, fun resolver s _ => ?_⟩
    rw [he]
    exact ⟨rfl, rfl⟩
  · have hrun : ∀ resolver s, CredentialStore.get? s response.rawId = entry →
        let outcome := (finishAssertion config options response tokenBindingId).run
          (CredentialStore.surroundings resolver) s
        let rest := (afterLookup config options response tokenBindingId r (.ok entry)).run
          (CredentialStore.surroundings resolver) s
        outcome.result = rest.result ∧ outcome.surroundings = rest.surroundings := by
      intro resolver s hg
      rw [hf, ← hg]
      exact ⟨rfl, rfl⟩
    rcases afterLookup_cases config tokenBindingId hr (.ok entry) with ⟨e, he⟩ | ⟨stored, hs, -, ha⟩
    · refine Or.inl ⟨e, fun resolver s hg => ?_⟩
      rw [he] at hrun
      exact hrun resolver s hg
    · obtain rfl : entry = some stored := Except.ok.inj hs
      have hid : stored.credentialId = response.rawId := hown stored rfl
      refine Or.inr ⟨stored, r.data, rfl, fun resolver s hg => ?_⟩
      obtain ⟨hres, hsur⟩ := run_advanceCounter resolver (hid ▸ hg) r.data
      rw [ha] at hrun
      rw [hid] at hsur
      exact ⟨(hrun resolver s hg).1.trans hres, (hrun resolver s hg).2.trans hsur⟩

variable {credentials : List RegisteredCredential}

theorem own_of_ofList {id : Bytes} {stored : RegisteredCredential}
    (h : (CredentialStore.ofList credentials).get? id = some stored) : stored.credentialId = id :=
  (CredentialStore.keyed_ofList credentials).credentialId_eq h

/-- A failed authentication changes nothing, and an accepted one only the counter of the asserted
credential, if that advanced. -/
theorem effect_finishAssertion (resolver : Option TrustRootResolver)
    (credentials : List RegisteredCredential) (config : RelyingPartyConfig)
    (options : RequestOptions) (response : AssertedCredential) (tokenBindingId : Option String) :
    let outcome := (finishAssertion config options response tokenBindingId).run
      (CredentialStore.surroundings resolver) (.ofList credentials)
    Effect response.rawId (.ofList credentials) outcome.surroundings outcome.result := by
  intro outcome
  rcases run_of_entry config options response tokenBindingId
    ((CredentialStore.ofList credentials).get? response.rawId) (fun _ h => own_of_ofList h) with
    ⟨e, he⟩ | ⟨stored, data, hs, ha⟩
  · obtain ⟨hres, hsur⟩ := he resolver (.ofList credentials) rfl
    have hnever : ∀ r, outcome.result ≠ .ok r := fun r hok => nomatch hok.symm.trans hres
    exact {
      of_error := fun _ _ => hsur
      known := fun r hok => absurd hok (hnever r)
      of_le := fun r _ hok _ _ => absurd hok (hnever r)
      of_lt := fun r _ hok _ _ => absurd hok (hnever r) }
  · obtain ⟨hres, hsur⟩ := ha resolver (.ofList credentials) rfl
    have hresult : ∀ r, outcome.result = .ok r → r.signatureCount = data.counter := by
      intro r hok
      obtain rfl : r = resultOf stored data := Except.ok.inj (hok.symm.trans hres)
      rfl
    refine ⟨fun e herr => (nomatch herr.symm.trans hres), fun r _ => ⟨stored, hs⟩, ?_, ?_⟩
    · intro r c hok hc hle
      obtain rfl : c = stored := Option.some.inj (hc.symm.trans hs)
      rw [hresult r hok] at hle
      exact hsur.trans (if_neg (UInt32.not_lt.2 hle))
    · intro r c hok hc hlt
      obtain rfl : c = stored := Option.some.inj (hc.symm.trans hs)
      rw [hresult r hok] at hlt ⊢
      have hset : outcome.surroundings =
          (CredentialStore.ofList credentials).setCounter response.rawId data.counter :=
        hsur.trans (if_pos hlt)
      refine ⟨?_, fun k => ?_⟩
      · rw [hset, CredentialStore.keys_setCounter]
      · rw [hset, CredentialStore.get?_setCounter, hs]
        rfl

/-- Only the entry of the asserted credential decides the result, and what becomes of that entry. -/
theorem run_finishAssertion_congr (resolver₁ resolver₂ : Option TrustRootResolver)
    (credentials₁ credentials₂ : List RegisteredCredential) (config : RelyingPartyConfig)
    (options : RequestOptions) (response : AssertedCredential) (tokenBindingId : Option String)
    (h : (CredentialStore.ofList credentials₁).get? response.rawId =
      (CredentialStore.ofList credentials₂).get? response.rawId) :
    let ceremony := finishAssertion config options response tokenBindingId
    let outcome₁ := ceremony.run (CredentialStore.surroundings resolver₁)
      (CredentialStore.ofList credentials₁)
    let outcome₂ := ceremony.run (CredentialStore.surroundings resolver₂)
      (CredentialStore.ofList credentials₂)
    outcome₁.result = outcome₂.result ∧
      outcome₁.surroundings.get? response.rawId = outcome₂.surroundings.get? response.rawId := by
  intro ceremony outcome₁ outcome₂
  rcases run_of_entry config options response tokenBindingId
    ((CredentialStore.ofList credentials₁).get? response.rawId) (fun _ h => own_of_ofList h) with
    ⟨e, he⟩ | ⟨stored, data, -, ha⟩
  · obtain ⟨hres₁, hsur₁⟩ := he resolver₁ (CredentialStore.ofList credentials₁) rfl
    obtain ⟨hres₂, hsur₂⟩ := he resolver₂ (CredentialStore.ofList credentials₂) h.symm
    refine ⟨hres₁.trans hres₂.symm, ?_⟩
    rw [show outcome₁.surroundings = _ from hsur₁, show outcome₂.surroundings = _ from hsur₂, h]
  · obtain ⟨hres₁, hsur₁⟩ := ha resolver₁ (CredentialStore.ofList credentials₁) rfl
    obtain ⟨hres₂, hsur₂⟩ := ha resolver₂ (CredentialStore.ofList credentials₂) h.symm
    refine ⟨hres₁.trans hres₂.symm, ?_⟩
    rw [show outcome₁.surroundings = _ from hsur₁, show outcome₂.surroundings = _ from hsur₂]
    split
    · rw [CredentialStore.get?_setCounter, CredentialStore.get?_setCounter, h]
    · exact h

end Assertion

/-! ### Registrations -/

namespace Registration

/-- The calls of the repository that a registration may make: none, or whether it knows the
credential that a response that passes attests. -/
inductive Calls (config : RelyingPartyConfig) (options : CreationOptions)
    (response : CreatedCredential) (tokenBindingId : Option String) : List Query → Prop where
  | none : Calls config options response tokenBindingId []
  | isRegistered {clientData : ClientData} {object : AttestationObject}
    {attested : AttestedCredential} {verdict : StatementVerdict} :
    Passes config options response tokenBindingId clientData object attested verdict →
    Calls config options response tokenBindingId [.isRegistered attested.credentialId]

theorem repositoryCalls_trustExchanges (surroundings : Surroundings σ) (s : σ)
    (verdict : StatementVerdict) (aaguid : Option Aaguid) (format : AttestationFormat) :
    ((surroundings.trustExchanges s verdict aaguid format).map (·.1)).filter
      (·.isRepositoryCall) = [] := by
  unfold Surroundings.trustExchanges
  split
  · rfl
  · rfl

/-- A registration that comes to the repository asks there whether the attested credential is
known. -/
theorem calls_finishRegistration (surroundings : Surroundings σ) (s : σ)
    (config : RelyingPartyConfig) (options : CreationOptions) (response : CreatedCredential)
    (tokenBindingId : Option String) (now : Instant) :
    Calls config options response tokenBindingId
      ((finishRegistration config options response tokenBindingId now).run
        surroundings s).repositoryCalls := by
  rcases run_cases surroundings s config options response tokenBindingId now with
    ⟨e, he⟩ | ⟨clientData, object, attested, verdict, hp, ⟨e, he⟩ | ⟨result, hr⟩⟩
  · rw [he]
    exact Calls.none
  · simp only [he, Outcome.repositoryCalls, repositoryCalls_trustExchanges]
    exact Calls.none
  · simp only [hr, Outcome.repositoryCalls, List.map_append, List.filter_append,
      repositoryCalls_trustExchanges]
    exact Calls.isRegistered hp

theorem afterTrust_store (resolver : Option TrustRootResolver) (s : CredentialStore)
    (verdict : StatementVerdict) (aaguid : Option Aaguid) (format : AttestationFormat) :
    Surroundings.afterTrust (CredentialStore.surroundings resolver) s verdict aaguid format = s := by
  unfold Surroundings.afterTrust
  split
  · rfl
  · rfl

/-- A registration does not change the repository. -/
theorem run_finishRegistration_store (resolver : Option TrustRootResolver) (s : CredentialStore)
    (config : RelyingPartyConfig) (options : CreationOptions) (response : CreatedCredential)
    (tokenBindingId : Option String) (now : Instant) :
    ((finishRegistration config options response tokenBindingId now).run
      (CredentialStore.surroundings resolver) s).surroundings = s := by
  rcases run_cases (CredentialStore.surroundings resolver) s config options response tokenBindingId
    now with ⟨e, he⟩ | ⟨_, _, _, _, _, ⟨e, he⟩ | ⟨result, hr⟩⟩
  · rw [he]
  · rw [he]
    exact afterTrust_store resolver s _ _ _
  · rw [hr]
    exact afterTrust_store resolver s _ _ _

end Registration

/-! ### Both together -/

/-- Against any repository, an authentication makes one look-up at most, and then at most replaces
the counter of a credential against which the response passes by a greater one; a registration asks
at most whether the attested credential is known. In a repository in memory a registration and a
failed authentication change nothing, an accepted authentication changes only the counter of the
asserted credential, and only if that advanced, and nothing but the entry of that credential
matters. -/
theorem repository_discipline (config : RelyingPartyConfig) (tokenBindingId : Option String) :
    (∀ (σ : Type) (surroundings : Surroundings σ) (s : σ) (options : RequestOptions)
      (response : AssertedCredential),
      Assertion.Calls config options response tokenBindingId
        (surroundings s (.lookup response.rawId)).1
        ((finishAssertion config options response tokenBindingId).run
          surroundings s).repositoryCalls) ∧
    (∀ (σ : Type) (surroundings : Surroundings σ) (s : σ) (options : CreationOptions)
      (response : CreatedCredential) (now : Instant),
      Registration.Calls config options response tokenBindingId
        ((finishRegistration config options response tokenBindingId now).run
          surroundings s).repositoryCalls) ∧
    (∀ (resolver : Option TrustRootResolver) (credentials : List RegisteredCredential)
      (options : CreationOptions) (response : CreatedCredential) (now : Instant),
      ((finishRegistration config options response tokenBindingId now).run
        (CredentialStore.surroundings resolver) (.ofList credentials)).surroundings =
          .ofList credentials) ∧
    (∀ (resolver : Option TrustRootResolver) (credentials : List RegisteredCredential)
      (options : RequestOptions) (response : AssertedCredential),
      let outcome := (finishAssertion config options response tokenBindingId).run
        (CredentialStore.surroundings resolver) (.ofList credentials)
      Assertion.Effect response.rawId (.ofList credentials) outcome.surroundings outcome.result) ∧
    ∀ (resolver₁ resolver₂ : Option TrustRootResolver)
      (credentials₁ credentials₂ : List RegisteredCredential) (options : RequestOptions)
      (response : AssertedCredential),
      (CredentialStore.ofList credentials₁).get? response.rawId =
        (CredentialStore.ofList credentials₂).get? response.rawId →
      let ceremony := finishAssertion config options response tokenBindingId
      let outcome₁ := ceremony.run (CredentialStore.surroundings resolver₁) (.ofList credentials₁)
      let outcome₂ := ceremony.run (CredentialStore.surroundings resolver₂) (.ofList credentials₂)
      outcome₁.result = outcome₂.result ∧
        outcome₁.surroundings.get? response.rawId = outcome₂.surroundings.get? response.rawId := by
  refine ⟨?_, ?_, ?_, ?_, ?_⟩
  · intro σ surroundings s options response
    exact Assertion.calls_finishAssertion surroundings s config options response tokenBindingId
  · intro σ surroundings s options response now
    exact Registration.calls_finishRegistration surroundings s config options response
      tokenBindingId now
  · intro resolver credentials options response now
    exact Registration.run_finishRegistration_store resolver _ config options response
      tokenBindingId now
  · intro resolver credentials options response
    exact Assertion.effect_finishAssertion resolver credentials config options response
      tokenBindingId
  · intro resolver₁ resolver₂ credentials₁ credentials₂ options response h
    exact Assertion.run_finishAssertion_congr resolver₁ resolver₂ credentials₁ credentials₂ config
      options response tokenBindingId h

end Passkey
