import Passkey.Authenticator.AttestationObject
import Passkey.Proofs.Cbor.Locality
import Passkey.Proofs.Fallible

/-!
# The key bytes of an attested credential

A record keeps the key of its new credential twice: decoded, and as the bytes that the authenticator
wrote. The key is read as an item at the front of what follows the identifier, and whatever comes
after it has no part in it. So the bytes decode by themselves to the key.
-/

namespace Passkey

theorem CoseKey.decode_take_of_decodePrefix {bs : Bytes} {key : CoseKey} {consumed : Nat}
    (h : CoseKey.decodePrefix bs = .ok (key, consumed)) :
    CoseKey.decode (bs.take consumed) = .ok key := by
  unfold CoseKey.decodePrefix at h
  cases hitem : Cbor.decodePrefix? bs with
  | none =>
    rw [hitem] at h
    cases h
  | some item =>
    obtain ⟨value, n⟩ := item
    rw [hitem] at h
    obtain ⟨found, hfound, heq⟩ := map_eq_ok.1 h
    cases heq
    rw [CoseKey.decode, Cbor.decode_take_of_decodePrefix? hitem]
    exact hfound

/-- A key is read off the front exactly if the input goes on after bytes that are the key. -/
theorem CoseKey.decodePrefix_eq_ok {bs : Bytes} {key : CoseKey} {n : Nat} :
    CoseKey.decodePrefix bs = .ok (key, n) ↔
      ∃ taken rest, bs = taken ++ rest ∧ taken.length = n ∧ CoseKey.decode taken = .ok key := by
  constructor
  · intro h
    have hkey := CoseKey.decode_take_of_decodePrefix h
    unfold CoseKey.decodePrefix at h
    cases hitem : Cbor.decodePrefix? bs with
    | none =>
      rw [hitem] at h
      cases h
    | some item =>
      rw [hitem] at h
      obtain ⟨found, hfound, heq⟩ := map_eq_ok.1 h
      cases heq
      obtain ⟨taken, rest, rfl, hlen, -⟩ := Cbor.decodePrefix?_eq_some_iff.1 hitem
      rw [List.take_left' hlen] at hkey
      exact ⟨taken, rest, rfl, hlen, hkey⟩
  · rintro ⟨taken, rest, rfl, rfl, h⟩
    unfold CoseKey.decode at h
    cases hitem : Cbor.decode taken with
    | error defect =>
      rw [hitem] at h
      cases h
    | ok value =>
      rw [hitem] at h
      have hprefix : Cbor.decodePrefix? (taken ++ rest) = some (value, taken.length) :=
        Cbor.decodePrefix?_eq_some_iff.2 ⟨taken, rest, rfl, rfl, hitem⟩
      rw [CoseKey.decodePrefix, hprefix]
      exact map_eq_ok.2 ⟨key, h, rfl⟩

namespace AuthenticatorData

variable {α : Type} {bs rest : Bytes} {attested : AttestedCredential}

theorem optionally_eq_ok {announced : Bool} {read : Bytes → Except DecodeError (α × Bytes)} {a : α}
    (h : optionally announced read bs = .ok (some a, rest)) : read bs = .ok (a, rest) := by
  cases announced with
  | false => cases h
  | true =>
    obtain ⟨⟨found, left⟩, hread, heq⟩ := map_eq_ok.1 h
    cases heq
    exact hread

/-- The key of a credential is read off what follows the identifier, and its bytes are what that
takes. -/
theorem key_of_readAttested (h : readAttested bs = .ok (attested, rest)) :
    let keyAndRest := bs.drop (18 + attested.credentialId.length)
    ∃ consumed, CoseKey.decodePrefix keyAndRest = .ok (attested.publicKey, consumed) ∧
      attested.publicKeyBytes = keyAndRest.take consumed := by
  unfold readAttested at h
  split at h
  · cases h
  · simp only [refuse_eq_ok, Nat.not_lt] at h
    obtain ⟨-, hlength, h⟩ := h
    split at h
    · cases h
    · rename_i key consumed hkey
      cases h
      refine ⟨consumed, ?_, ?_⟩
      · rw [List.length_take, Nat.min_eq_left hlength, ← List.drop_drop]
        exact hkey
      · rw [List.length_take, Nat.min_eq_left hlength, ← List.drop_drop]

theorem attested_of_decode {data : AuthenticatorData} (h : decode bs = .ok data)
    (ha : data.attested = some attested) :
    ∃ rest, readAttested (bs.drop headerSize) = .ok (attested, rest) := by
  unfold decode at h
  rw [refuse_eq_ok, bind_eq_ok] at h
  obtain ⟨-, ⟨found, rest⟩, hfound, h⟩ := h
  simp only [bind_eq_ok, refuse_eq_ok, pure_eq_ok] at h
  obtain ⟨⟨extensions, last⟩, -, -, rfl⟩ := h
  cases ha
  exact ⟨rest, optionally_eq_ok hfound⟩

/-- Where a record has a new credential, the key is read at its place in the record, the bytes kept
for it are those that this takes, and they decode by themselves to the key. -/
theorem key_of_decode {data : AuthenticatorData} (h : decode bs = .ok data)
    (ha : data.attested = some attested) :
    let keyAndRest := bs.drop (headerSize + 18 + attested.credentialId.length)
    ∃ consumed, CoseKey.decodePrefix keyAndRest = .ok (attested.publicKey, consumed) ∧
      attested.publicKeyBytes = keyAndRest.take consumed ∧
      CoseKey.decode attested.publicKeyBytes = .ok attested.publicKey := by
  intro keyAndRest
  obtain ⟨rest, hread⟩ := attested_of_decode h ha
  obtain ⟨consumed, hkey, hbytes⟩ := key_of_readAttested hread
  rw [List.drop_drop, ← Nat.add_assoc] at hkey hbytes
  exact ⟨consumed, hkey, hbytes, hbytes ▸ CoseKey.decode_take_of_decodePrefix hkey⟩

end AuthenticatorData

theorem AttestationObject.data_of_decode {bs : Bytes} {object : AttestationObject}
    (h : AttestationObject.decode bs = .ok object) :
    ∃ dataBytes, AuthenticatorData.decode dataBytes = .ok object.data := by
  unfold AttestationObject.decode at h
  split at h
  · cases h
  · simp only [bind_eq_ok, pure_eq_ok] at h
    obtain ⟨format, -, data, hdata, statement, -, rfl⟩ := h
    unfold AttestationObject.dataOf at hdata
    split at hdata
    · cases hdata
    · exact ⟨_, hdata⟩
    · cases hdata
  · cases h

end Passkey
