import Passkey.Authenticator.AttestationObject
import Passkey.Proofs.Authenticator.Grammar
import Passkey.Proofs.Cbor.RoundTrip

/-!
# What an authenticator lays out is read as such

A record without extension outputs is read as its parts. An attestation object is a map of three
members, so what is written for a format, authenticator data and a statement is read as that format
and that statement, and whether the whole can be read only depends on the authenticator data.
-/

namespace Passkey

/-- A record without extension outputs is read as it was written, if the flags say whether it has a
credential. -/
theorem AuthenticatorData.decode_write (rpId : String) {flags : AuthenticatorFlags}
    (counter : UInt32) (credential : Option CredentialParts) {attested : Option AttestedCredential}
    (hannounced : credential.isSome = flags.attested) (hextensions : flags.extensions = false)
    (hcredential : Option.Rel (fun c a => c.id.length ≤ 1023 ∧ c.Describes a) credential attested) :
    let bs := write rpId flags.bits counter ((credential.map CredentialParts.bytes).getD []) []
    decode bs = .ok ⟨bs, sha256 (Utf8.encode rpId), flags, counter, attested, none⟩ := by
  intro bs
  let body := (credential.map CredentialParts.bytes).getD []
  have hbs : bs = sha256 (Utf8.encode rpId) ++ flags.bits :: Bytes.ofNat 4 counter.toNat ++ body :=
    List.append_nil _
  have hattested : optionally flags.attested readAttested body = .ok (attested, []) :=
    (optionally_eq_ok_iff fun _ => readAttested_eq_ok).2
      ⟨credential, hannounced, hcredential, (List.append_nil _).symm⟩
  have hnone : optionally flags.extensions readExtensions [] = .ok (none, []) := by
    rw [hextensions]
    rfl
  rw [hbs]
  exact (decode_header (length_sha256 _)).2 ⟨[], hattested, hnone, rfl, rfl, rfl, rfl⟩

namespace AttestationObject

variable {format : String} {data : Bytes} {statement : Cbor.Entries}

/-- The members of an object. -/
def members (format : String) (data : Bytes) (statement : Cbor.Entries) : Cbor.Entries :=
  [(.text "fmt", .text format), (.text "attStmt", .map statement), (.text "authData", .bytes data)]

theorem plain_members (h : (Cbor.Value.map statement).Plain 255) :
    (Cbor.Value.map (members format data statement)).Plain Cbor.maxDepth :=
  .map (by simp [members, Cbor.Value.Plain.text])
    (by simp [members, Cbor.Value.Plain.text, Cbor.Value.Plain.bytes, h])

theorem decode_write (hstatement : (Cbor.Value.map statement).Plain 255)
    (hlength : (write format data statement).length < 2 ^ 64) :
    decode (write format data statement) =
      (AuthenticatorData.decode data).map fun d => ⟨format, d, ⟨statement⟩⟩ := by
  have hitem : Cbor.decode (write format data statement) =
      .ok (.map (members format data statement)) :=
    Cbor.decode_write (plain_members hstatement) hlength
  have hformat : formatOf (members format data statement) = .ok format := by
    simp [formatOf, members, Cbor.Entries.atText?, Cbor.Value.isText]
  have hdata : dataOf (members format data statement) = AuthenticatorData.decode data := by
    simp [dataOf, members, Cbor.Entries.atText?, Cbor.Value.isText]
  have hfound : statementOf (members format data statement) = .ok ⟨statement⟩ := by
    simp [statementOf, members, Cbor.Entries.atText?, Cbor.Value.isText]
  rw [decode, hitem]
  dsimp only
  rw [hformat, hdata, hfound]
  cases AuthenticatorData.decode data <;> rfl

end AttestationObject

end Passkey
