import Mathlib.Data.List.Induction
import Passkey.Proofs.RelyingParty.RepositoryDiscipline

/-!
# The history of a repository

A relying party starts with an empty repository and finishes registrations and authentications, one
after the other. It inserts the credential of an accepted registration, which would silently replace
another under the same identifier. That never happens: a registration is accepted only if there is
none, so that whatever is registered stays, and only its counter advances.
-/

namespace Passkey

namespace CredentialStore

variable {s t u : CredentialStore}

/-- A later state: every credential is still there under its identifier, and unchanged but for its
counter, which may have advanced. -/
def Extends (s t : CredentialStore) : Prop :=
  ∀ id c, s.get? id = some c →
    ∃ n, c.signatureCount ≤ n ∧ t.get? id = some { c with signatureCount := n }

theorem Extends.refl (s : CredentialStore) : s.Extends s := fun _ c h =>
  ⟨c.signatureCount, UInt32.le_refl _, h⟩

theorem Extends.trans (hst : s.Extends t) (htu : t.Extends u) : s.Extends u := by
  intro id c h
  obtain ⟨n, hn, ht⟩ := hst id c h
  obtain ⟨m, hm, hu⟩ := htu id _ ht
  exact ⟨m, UInt32.le_trans hn hm, hu⟩

theorem extends_insert {c : RegisteredCredential} (hfresh : s.get? c.credentialId = none) :
    s.Extends (s.insert c) := by
  intro id d h
  have hne : id ≠ c.credentialId := by
    rintro rfl
    rw [hfresh] at h
    cases h
  refine ⟨d.signatureCount, UInt32.le_refl _, ?_⟩
  rw [get?_insert, if_neg hne, h]

theorem extends_setCounter {id : Bytes} {c : RegisteredCredential} {new : UInt32}
    (hc : s.get? id = some c) (hnew : c.signatureCount < new) :
    s.Extends (s.setCounter id new) := by
  intro k d h
  by_cases hk : k = id
  · subst hk
    obtain rfl : c = d := Option.some.inj (hc.symm.trans h)
    refine ⟨new, UInt32.le_of_lt hnew, ?_⟩
    rw [get?_setCounter, if_pos rfl, hc, Option.map_some]
  · refine ⟨d.signatureCount, UInt32.le_refl _, ?_⟩
    rw [get?_setCounter, if_neg hk, h]

end CredentialStore

/-- What a relying party does with its repository. -/
inductive StoreOperation where
  /-- Finishes a registration, and inserts the credential if it is accepted. -/
  | register (config : RelyingPartyConfig) (resolver : Option TrustRootResolver)
    (options : CreationOptions) (response : CreatedCredential) (tokenBindingId : Option String)
    (now : Instant)
  /-- Finishes an authentication. -/
  | authenticate (config : RelyingPartyConfig) (resolver : Option TrustRootResolver)
    (options : RequestOptions) (response : AssertedCredential) (tokenBindingId : Option String)

namespace StoreOperation

/-- The credential that an operation registers, if it is a registration that is accepted. -/
def registered? (store : CredentialStore) : StoreOperation → Option RegisteredCredential
  | register config resolver options response tokenBindingId now =>
    ((finishRegistration config options response tokenBindingId now).run
      (CredentialStore.surroundings resolver) store).result.toOption.map (·.credential)
  | authenticate _ _ _ _ _ => none

/-- The repository after an operation. -/
def perform (store : CredentialStore) : StoreOperation → CredentialStore
  | register config resolver options response tokenBindingId now =>
    let outcome := (finishRegistration config options response tokenBindingId now).run
      (CredentialStore.surroundings resolver) store
    match outcome.result with
    | .ok result => outcome.surroundings.insert result.credential
    | .error _ => outcome.surroundings
  | authenticate config resolver options response tokenBindingId =>
    ((finishAssertion config options response tokenBindingId).run
      (CredentialStore.surroundings resolver) store).surroundings

/-- The repository after these operations, which find it empty. -/
def performAll (operations : List StoreOperation) : CredentialStore :=
  operations.foldl perform .empty

theorem performAll_append_singleton (operations : List StoreOperation)
    (operation : StoreOperation) :
    performAll (operations ++ [operation]) = operation.perform (performAll operations) := by
  rw [performAll, List.foldl_append]
  rfl

/-! ### One operation -/

variable {store : CredentialStore} {operation : StoreOperation} {c : RegisteredCredential}

/-- All that an operation can do to a repository: to insert what it registers where there is
nothing, to advance a counter, or nothing. -/
inductive Step (store : CredentialStore) (operation : StoreOperation) : CredentialStore → Prop where
  | register {c : RegisteredCredential} :
    operation.registered? store = some c → store.get? c.credentialId = none →
    Step store operation (store.insert c)
  | advance {id : Bytes} {c : RegisteredCredential} {new : UInt32} :
    operation.registered? store = none → store.get? id = some c → c.signatureCount < new →
    Step store operation (store.setCounter id new)
  | keep : operation.registered? store = none → Step store operation store

/-- A registration is accepted only where there is no credential under the identifier yet. -/
theorem fresh_of_accepted {config : RelyingPartyConfig} {resolver : Option TrustRootResolver}
    {options : CreationOptions} {response : CreatedCredential} {tokenBindingId : Option String}
    {now : Instant} {result : RegistrationResult}
    (h : ((finishRegistration config options response tokenBindingId now).run
      (CredentialStore.surroundings resolver) store).result = .ok result) :
    store.get? result.credential.credentialId = none := by
  obtain ⟨clientData, object, attested, verdict, attestation, -, hnew, rfl⟩ :=
    Registration.accepted h
  rw [Registration.afterTrust_store] at hnew
  have hcontains : store.contains attested.credentialId = false := Except.ok.inj hnew
  exact Option.isNone_iff_eq_none.1 (Option.isSome_eq_false_iff.1 hcontains)

theorem step_perform (hkeyed : store.Keyed) (operation : StoreOperation) :
    Step store operation (operation.perform store) := by
  cases operation with
  | register config resolver options response tokenBindingId now =>
    have hstore := Registration.run_finishRegistration_store resolver store config options response
      tokenBindingId now
    cases hresult : ((finishRegistration config options response tokenBindingId now).run
        (CredentialStore.surroundings resolver) store).result with
    | error e =>
      simp only [perform, hresult, hstore]
      exact Step.keep (by simp only [registered?, hresult]; rfl)
    | ok result =>
      simp only [perform, hresult, hstore]
      exact Step.register (by simp only [registered?, hresult]; rfl) (fresh_of_accepted hresult)
  | authenticate config resolver options response tokenBindingId =>
    rcases Assertion.run_of_entry config options response tokenBindingId
      (store.get? response.rawId) (fun _ h => hkeyed.credentialId_eq h) with
      ⟨e, he⟩ | ⟨stored, data, hs, ha⟩
    · simp only [perform, (he resolver store rfl).2]
      exact Step.keep rfl
    · simp only [perform, (ha resolver store rfl).2]
      split
      · rename_i hlt
        exact Step.advance rfl hs hlt
      · exact Step.keep rfl

namespace Step

variable {after : CredentialStore}

theorem keyed (h : Step store operation after) (hkeyed : store.Keyed) : after.Keyed := by
  cases h with
  | register _ _ => exact CredentialStore.keyed_insert hkeyed _
  | advance _ _ _ => exact CredentialStore.keyed_setCounter hkeyed _ _
  | keep _ => exact hkeyed

theorem extends_after (h : Step store operation after) : store.Extends after := by
  cases h with
  | register _ hfresh => exact CredentialStore.extends_insert hfresh
  | advance _ hc hlt => exact CredentialStore.extends_setCounter hc hlt
  | keep _ => exact .refl store

/-- What an operation registers was not there before it, and is there after it. -/
theorem of_registered (h : Step store operation after)
    (hc : operation.registered? store = some c) :
    store.get? c.credentialId = none ∧ after.get? c.credentialId = some c := by
  cases h with
  | register hregistered hfresh =>
    obtain rfl := Option.some.inj (hregistered.symm.trans hc)
    exact ⟨hfresh, by rw [CredentialStore.get?_insert, if_pos rfl]⟩
  | advance hnone _ _ => exact nomatch hnone.symm.trans hc
  | keep hnone => exact nomatch hnone.symm.trans hc

/-- A credential that is there after an operation was registered by it, or was there before it with
a counter that is not greater. -/
theorem origin (h : Step store operation after) {id : Bytes} (hc : after.get? id = some c) :
    (operation.registered? store = some c ∧ c.credentialId = id) ∨
      ∃ old n, store.get? id = some old ∧ old.signatureCount ≤ n ∧
        c = { old with signatureCount := n } := by
  cases h with
  | register hregistered hfresh =>
    rw [CredentialStore.get?_insert] at hc
    split at hc
    · rename_i hid
      obtain rfl := Option.some.inj hc
      exact Or.inl ⟨hregistered, hid.symm⟩
    · exact Or.inr ⟨c, c.signatureCount, hc, UInt32.le_refl _, rfl⟩
  | @advance k old new _ hold hlt =>
    rw [CredentialStore.get?_setCounter] at hc
    split at hc
    · rename_i hid
      subst hid
      rw [hold] at hc
      exact Or.inr ⟨old, new, hold, UInt32.le_of_lt hlt, (Option.some.inj hc).symm⟩
    · exact Or.inr ⟨c, c.signatureCount, hc, UInt32.le_refl _, rfl⟩
  | keep _ => exact Or.inr ⟨c, c.signatureCount, hc, UInt32.le_refl _, rfl⟩

end Step

/-! ### Any number of operations -/

theorem keyed_performAll (operations : List StoreOperation) : (performAll operations).Keyed := by
  induction operations using List.reverseRecOn with
  | nil => exact fun e he => absurd he List.not_mem_nil
  | append_singleton operations operation ih =>
    rw [performAll_append_singleton]
    exact (step_perform ih operation).keyed ih

/-- The operation after `earlier` makes a step. -/
theorem step_performAll (earlier : List StoreOperation) (operation : StoreOperation) :
    Step (performAll earlier) operation (performAll (earlier ++ [operation])) := by
  rw [performAll_append_singleton]
  exact step_perform (keyed_performAll earlier) operation

theorem extends_performAll (earlier later : List StoreOperation) :
    (performAll earlier).Extends (performAll (earlier ++ later)) := by
  induction later using List.reverseRecOn with
  | nil =>
    rw [List.append_nil]
    exact .refl _
  | append_singleton later operation ih =>
    rw [← List.append_assoc]
    exact ih.trans (step_performAll (earlier ++ later) operation).extends_after

/-- The operation that comes after `earlier` registers this credential. -/
def RegistersAfter (operations earlier : List StoreOperation) (c : RegisteredCredential) : Prop :=
  ∃ operation later, operations = earlier ++ operation :: later ∧
    operation.registered? (performAll earlier) = some c

variable {operations earlier earlier' : List StoreOperation} {c' : RegisteredCredential}

theorem RegistersAfter.append_singleton (h : RegistersAfter operations earlier c)
    (operation : StoreOperation) : RegistersAfter (operations ++ [operation]) earlier c := by
  obtain ⟨registration, later, rfl, hc⟩ := h
  exact ⟨registration, later ++ [operation], by simp, hc⟩

/-- What is registered was not there before, and stays. -/
theorem RegistersAfter.kept (h : RegistersAfter operations earlier c) :
    (performAll earlier).get? c.credentialId = none ∧
      ∃ n, c.signatureCount ≤ n ∧
        (performAll operations).get? c.credentialId = some { c with signatureCount := n } := by
  obtain ⟨operation, later, rfl, hc⟩ := h
  obtain ⟨hfresh, hthere⟩ := (step_performAll earlier operation).of_registered hc
  refine ⟨hfresh, ?_⟩
  have hlater := extends_performAll (earlier ++ [operation]) later
  rw [List.append_assoc, List.singleton_append] at hlater
  exact hlater c.credentialId c hthere

/-- Whatever the repository holds was registered by one of the operations. -/
theorem exists_registersAfter {id : Bytes} (h : (performAll operations).get? id = some c) :
    ∃ earlier credential n, RegistersAfter operations earlier credential ∧
      credential.credentialId = id ∧ credential.signatureCount ≤ n ∧
      c = { credential with signatureCount := n } := by
  induction operations using List.reverseRecOn generalizing c with
  | nil => cases h
  | append_singleton operations operation ih =>
    rcases (step_performAll operations operation).origin h with ⟨hc, hid⟩ | ⟨old, n, hold, hn, rfl⟩
    · exact ⟨operations, c, c.signatureCount, ⟨operation, [], rfl, hc⟩, hid, UInt32.le_refl _, rfl⟩
    · obtain ⟨earlier, credential, m, hregisters, hid, hm, rfl⟩ := ih hold
      exact ⟨earlier, credential, n, hregisters.append_singleton operation, hid,
        UInt32.le_trans hm hn, rfl⟩

/-- No identifier is registered after it was registered before. -/
theorem RegistersAfter.not_longer (h : RegistersAfter operations earlier c)
    (h' : RegistersAfter operations earlier' c') (hid : c'.credentialId = c.credentialId) :
    ¬ earlier.length < earlier'.length := by
  intro hlt
  -- The earlier registration is among the operations before the later one, so what it registered is
  -- still there when that is to register it again.
  obtain ⟨operation, later, hsplit, hc⟩ := h
  obtain ⟨_, _, hsplit', -⟩ := id h'
  have hfirst : earlier ++ [operation] <+: operations := ⟨later, by simp [hsplit]⟩
  obtain ⟨between, hbetween⟩ := List.prefix_of_prefix_length_le hfirst ⟨_, hsplit'.symm⟩
    (by rw [List.length_append, List.length_singleton]; exact hlt)
  obtain rfl : earlier' = earlier ++ operation :: between := by
    rw [← hbetween, List.append_assoc, List.singleton_append]
  have hthere : RegistersAfter (earlier ++ operation :: between) earlier c :=
    ⟨operation, between, rfl, hc⟩
  obtain ⟨n, -, hget⟩ := hthere.kept.2
  rw [← hid, h'.kept.1] at hget
  cases hget

theorem RegistersAfter.unique (h : RegistersAfter operations earlier c)
    (h' : RegistersAfter operations earlier' c') (hid : c'.credentialId = c.credentialId) :
    earlier' = earlier := by
  have hlength : earlier'.length = earlier.length :=
    Nat.le_antisymm (Nat.not_lt.1 (h.not_longer h' hid)) (Nat.not_lt.1 (h'.not_longer h hid.symm))
  obtain ⟨_, _, hsplit, -⟩ := h
  obtain ⟨_, _, hsplit', -⟩ := h'
  exact (List.append_inj (hsplit'.symm.trans hsplit) hlength).1

end StoreOperation

open StoreOperation in
/-- After any operations on a repository that was empty, every credential is under its own
identifier; whatever an earlier state held is still there, and unchanged but for a counter that may
have advanced; and every credential is that of the one registration of its identifier, again but for
the counter. -/
theorem store_history (operations : List StoreOperation) :
    (performAll operations).Keyed ∧
    (∀ earlier later, operations = earlier ++ later →
      (performAll earlier).Extends (performAll operations)) ∧
    ∀ id c, (performAll operations).get? id = some c →
      ∃ earlier credential n, RegistersAfter operations earlier credential ∧
        credential.credentialId = id ∧ credential.signatureCount ≤ n ∧
        c = { credential with signatureCount := n } ∧
        ∀ earlier' credential', RegistersAfter operations earlier' credential' →
          credential'.credentialId = id → earlier' = earlier := by
  refine ⟨keyed_performAll operations, ?_, ?_⟩
  · rintro earlier later rfl
    exact extends_performAll earlier later
  · intro id c hc
    obtain ⟨earlier, credential, n, hregisters, hid, hn, heq⟩ := exists_registersAfter hc
    refine ⟨earlier, credential, n, hregisters, hid, hn, heq, ?_⟩
    intro earlier' credential' hregisters' hid'
    exact hregisters.unique hregisters' (hid'.trans hid.symm)

end Passkey
