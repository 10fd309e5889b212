import Passkey.RelyingParty.Store

/-!
# Laws of the repository in memory

A repository is seen through `get?`. Each operation is described by what it does to that view, and
replacing a counter also keeps the order of the entries. A repository that is filled by insertion
keeps every credential under its own identifier.
-/

namespace Passkey.CredentialStore

/-! ### Look-ups -/

@[simp] theorem get?_insert (s : CredentialStore) (c : RegisteredCredential) (k : Bytes) :
    (s.insert c).get? k = if k = c.credentialId then some c else s.get? k :=
  Table.get?_alter c.credentialId k _ s.entries

@[simp] theorem get?_setCounter (s : CredentialStore) (id : Bytes) (new : UInt32) (k : Bytes) :
    (s.setCounter id new).get? k =
      if k = id then (s.get? id).map ({ · with signatureCount := new }) else s.get? k := by
  unfold setCounter
  cases hg : s.get? id with
  | none =>
    by_cases hk : k = id
    · simp [hk, hg]
    · simp [hk]
  | some c => exact Table.get?_alter id k _ s.entries

theorem keys_setCounter (s : CredentialStore) (id : Bytes) (new : UInt32) :
    (s.setCounter id new).entries.map (·.1) = s.entries.map (·.1) := by
  unfold setCounter
  cases hg : s.get? id with
  | none => rfl
  | some c =>
    exact Table.keys_alter_of_mem (List.mem_map.2 ⟨(id, c), Table.mem_of_get? hg, rfl⟩)

theorem updateCounter_eq (s : CredentialStore) (id : Bytes) (expected new : UInt32) :
    s.updateCounter id expected new =
      (s.hasCounter id expected, if s.hasCounter id expected then s.setCounter id new else s) := by
  unfold updateCounter
  by_cases h : s.hasCounter id expected = true
  · rw [if_pos h, if_pos h, h]
  · rw [if_neg h, if_neg h, Bool.eq_false_iff.2 h]

theorem hasCounter_iff {s : CredentialStore} {id : Bytes} {expected : UInt32} :
    s.hasCounter id expected = true ↔ ∃ c, s.get? id = some c ∧ c.signatureCount = expected := by
  simp [hasCounter, Option.any_eq_true]

/-! ### Credentials under their own identifiers -/

/-- Every credential is under its own identifier. -/
def Keyed (s : CredentialStore) : Prop := ∀ e ∈ s.entries, e.2.credentialId = e.1

theorem Keyed.credentialId_eq {s : CredentialStore} (h : s.Keyed) {id : Bytes}
    {c : RegisteredCredential} (hg : s.get? id = some c) : c.credentialId = id :=
  h (id, c) (Table.mem_of_get? hg)

theorem keyed_insert {s : CredentialStore} (h : s.Keyed) (c : RegisteredCredential) :
    (s.insert c).Keyed := by
  intro e he
  rcases Table.mem_of_mem_alter he with ⟨-, rfl⟩ | he
  · rfl
  · exact h e he

theorem keyed_setCounter {s : CredentialStore} (h : s.Keyed) (id : Bytes) (new : UInt32) :
    (s.setCounter id new).Keyed := by
  unfold setCounter
  cases hg : s.get? id with
  | none => exact h
  | some c =>
    intro e he
    rcases Table.mem_of_mem_alter he with ⟨-, rfl⟩ | he
    · show c.credentialId = id
      exact h.credentialId_eq hg
    · exact h e he

/-- The repository that is filled with these credentials, one after the other. -/
def ofList (credentials : List RegisteredCredential) : CredentialStore :=
  credentials.foldl insert empty

theorem keyed_ofList (credentials : List RegisteredCredential) : (ofList credentials).Keyed := by
  have hfold : ∀ s : CredentialStore, s.Keyed → (credentials.foldl insert s).Keyed := by
    induction credentials with
    | nil =>
      intro s hs
      exact hs
    | cons c rest ih =>
      intro s hs
      exact ih (s.insert c) (keyed_insert hs c)
  exact hfold empty fun e he => absurd he List.not_mem_nil

end Passkey.CredentialStore
