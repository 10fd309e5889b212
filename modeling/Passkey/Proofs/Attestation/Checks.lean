import Passkey.Proofs.Asn1.Elements
import Passkey.Proofs.Attestation.VerdictShape
import Passkey.Proofs.Cose.RoundTrip

/-!
# What the checks of a statement establish

Several formats read the same members of a statement and require the same of the certificate that
signs it. Each of these checks succeeds exactly if the statement or the certificate has a property
that can be stated without the check. What is required of the certificate itself is gathered in
`X509.Certificate.IsLeafFor`.
-/

namespace Passkey

open X509 (Certificate)

theorem AttestationContext.credential_eq_ok {context : AttestationContext}
    {credential : AttestedCredential} :
    context.credential = .ok credential ↔ context.data.attested = some credential := by
  unfold AttestationContext.credential
  cases context.data.attested <;> simp

theorem leafOf_eq_ok {path : List Certificate} {leaf : Certificate} :
    leafOf path = .ok leaf ↔ path.head? = some leaf := by
  cases path <;> simp [leafOf]

/-! ### Members -/

namespace AttestationStatement

variable {s : AttestationStatement}

theorem require_member_eq_ok {α : Type} {field : String} {member : Option α} {a : α} :
    require field member = .ok a ↔ member = some a := by
  cases member <;> simp [require]

theorem bytes?_eq_some {name : String} {bs : Bytes} :
    s.bytes? name = some bs ↔ s.get? name = some (.bytes bs) := by
  have hvalue (value : Cbor.Value) : value.bytes? = some bs ↔ value = .bytes bs := by
    cases value <;> simp [Cbor.Value.bytes?]
  simp [bytes?, Option.bind_eq_some_iff, hvalue]

theorem text?_eq_some {name text : String} :
    s.text? name = some text ↔ s.get? name = some (.text text) := by
  have hvalue (value : Cbor.Value) : value.text? = some text ↔ value = .text text := by
    cases value <;> simp [Cbor.Value.text?]
  simp [text?, Option.bind_eq_some_iff, hvalue]

theorem integer?_eq_some {name : String} {n : Int} :
    s.integer? name = some n ↔ s.get? name = some (.int n) := by
  have hvalue (value : Cbor.Value) : value.int? = some n ↔ value = .int n := by
    cases value <;> simp [Cbor.Value.int?]
  simp [integer?, Option.bind_eq_some_iff, hvalue]

/-- The member `alg` is an integer of 64 bits, and it is the identifier of this algorithm. -/
def Names (s : AttestationStatement) (algorithm : CoseAlgorithm) : Prop :=
  ∃ id : Int, s.get? "alg" = some (.int id) ∧ -2 ^ 63 ≤ id ∧ id < 2 ^ 63 ∧
    algorithm = CoseAlgorithm.ofId id

theorem algorithm_eq_ok {algorithm : CoseAlgorithm} :
    s.algorithm = .ok algorithm ↔ s.Names algorithm := by
  simp only [AttestationStatement.algorithm, bind_eq_ok, require_member_eq_ok, integer?_eq_some,
    Names, CoseAlgorithm.ofId?]
  refine exists_congr fun id => and_congr_right fun _ => ?_
  rw [← and_assoc, ← CoseKey.inRange_iff]
  cases CoseAlgorithm.inRange id with
  | false => simp [throw_eq_error]
  | true => simp [pure_eq_ok]

theorem signature_eq_ok {signature : Bytes} :
    s.signature = .ok signature ↔ s.get? "sig" = some (.bytes signature) := by
  rw [AttestationStatement.signature, require_member_eq_ok, bytes?_eq_some]

end AttestationStatement

/-! ### Extensions of a certificate -/

namespace X509.Certificate

variable {c leaf : Certificate}

theorem readExtension_eq_ok {α : Type} {id : Oid} {read : Bytes → Option α} {found : Option α} :
    c.readExtension id read = .ok found ↔
      c.extension? id = none ∧ found = none ∨
        ∃ value a, c.extension? id = some value ∧ read value = some a ∧ found = some a := by
  unfold readExtension
  cases c.extension? id with
  | none => simp [eq_comm]
  | some value => cases h : read value <;> simp [h, eq_comm]

/-- The certificate is no authority: it has no basic constraints, or such as say so. -/
theorem isCa_eq_ok_false :
    c.isCa = .ok false ↔ ∀ value, c.extension? basicConstraintsId = some value →
      ∃ constraints, BasicConstraints.ofDer? value = some constraints ∧
        constraints.isCa = false := by
  simp only [isCa, basicConstraints, map_eq_ok, readExtension_eq_ok]
  cases c.extension? basicConstraintsId with
  | none => simp
  | some value => simp

theorem octetString?_eq_some {value octets : Bytes} :
    Der.element? value >>= Der.Element.octetString? = some octets ↔
      (Der.octetString octets).length ≤ Der.maxLength ∧ value = Der.octetString octets := by
  simp only [Option.bind_eq_bind, Option.bind_eq_some_iff, Der.element?_eq_some,
    Der.Element.octetString?, Der.Element.content?, Option.ite_none_right_eq_some,
    Option.some.injEq]
  constructor
  · rintro ⟨⟨_, _⟩, ⟨hwhole, rfl⟩, rfl, rfl⟩
    exact ⟨hwhole.length_le, rfl⟩
  · rintro ⟨hlength, rfl⟩
    have hknown : Der.Tag.isKnown Der.Tag.octetString = true := by decide
    exact ⟨⟨Der.Tag.octetString, octets⟩, ⟨⟨hknown, hlength⟩, rfl⟩, rfl, rfl⟩

theorem aaguid_eq_ok {found : Option Aaguid} :
    c.aaguid = .ok found ↔
      c.extension? aaguidId = found.map fun aaguid => Der.octetString aaguid.bytes := by
  have hsize (aaguid : Aaguid) : (Der.octetString aaguid.bytes).length ≤ Der.maxLength := by
    have hlength := Der.Element.length_write_le ⟨Der.Tag.octetString, aaguid.bytes⟩
    rw [aaguid.size] at hlength
    exact hlength.trans (by decide)
  simp only [aaguid, bind_eq_ok, readExtension_eq_ok, octetString?_eq_some]
  constructor
  · rintro ⟨octets, ⟨hnone, rfl⟩ | ⟨_, octets, hvalue, ⟨-, rfl⟩, rfl⟩, h⟩
    · obtain rfl := pure_eq_ok.1 h
      exact hnone
    · simp only [Aaguid.ofBytes?] at h
      split at h
      · cases h
      · next a ha =>
        obtain rfl := pure_eq_ok.1 h
        obtain ⟨_, ha⟩ := Option.dite_none_right_eq_some.1 ha
        cases ha
        exact hvalue
  · intro h
    cases found with
    | none => exact ⟨none, Or.inl ⟨h, rfl⟩, rfl⟩
    | some aaguid =>
      refine ⟨some aaguid.bytes, Or.inr ⟨_, _, h, ⟨hsize aaguid, rfl⟩, rfl⟩, ?_⟩
      simp [Aaguid.ofBytes?, aaguid.size, pure_eq_ok]

/-! ### The certificate that signs -/

/-- The key of the certificate verifies a signature over a message. -/
def Verifies (leaf : Certificate) (algorithm : CoseAlgorithm) (message signature : Bytes) : Prop :=
  ∃ key, leaf.publicKey = .ok key ∧ key.verify algorithm message signature = .ok true

/-- The certificate is of version 3, is no authority, and if it is for one model of authenticators,
then for the one that the new credential is reported with. -/
structure IsLeafFor (leaf : Certificate) (data : AuthenticatorData) : Prop where
  version : leaf.content.version = .v3
  no_authority : ∀ value, leaf.extension? basicConstraintsId = some value →
    ∃ constraints, BasicConstraints.ofDer? value = some constraints ∧ constraints.isCa = false
  model : ∀ value, leaf.extension? aaguidId = some value →
    ∃ credential, data.attested = some credential ∧
      value = Der.octetString credential.aaguid.bytes

theorem requireSigned_eq_ok {algorithm : CoseAlgorithm} {message signature : Bytes} :
    leaf.requireSigned algorithm message signature = .ok () ↔
      leaf.Verifies algorithm message signature := by
  simp only [requireSigned, attestationKey, bind_eq_ok, mapError_eq_ok, Verifies]
  refine exists_congr fun key => and_congr_right fun _ => ?_
  simp [throw_eq_error, require_eq_ok, pure_eq_ok]

theorem requireLeaf_eq_ok {context : AttestationContext} :
    leaf.requireLeaf context = .ok () ↔ leaf.IsLeafFor context.data := by
  simp only [requireLeaf, isV3, throw_eq_error, error_bind, refuse_eq_ok, bind_eq_ok,
    mapError_eq_ok, Bool.not_eq_true', decide_eq_false_iff_not, not_not]
  constructor
  · rintro ⟨hversion, _, hca, hnot, found, haaguid, h⟩
    obtain rfl := Bool.eq_false_iff.2 hnot
    refine ⟨hversion, isCa_eq_ok_false.1 hca, fun value hvalue => ?_⟩
    rw [aaguid_eq_ok, hvalue] at haaguid
    cases found with
    | none => cases haaguid
    | some aaguid =>
      obtain ⟨credential, hcredential, h⟩ := bind_eq_ok.1 h
      obtain ⟨rfl, -⟩ := require_eq_ok.1 h
      exact ⟨credential, AttestationContext.credential_eq_ok.1 hcredential, Option.some.inj haaguid⟩
  · intro h
    refine ⟨h.version, false, isCa_eq_ok_false.2 h.no_authority, by simp, ?_⟩
    cases hvalue : leaf.extension? aaguidId with
    | none => exact ⟨none, aaguid_eq_ok.2 hvalue, rfl⟩
    | some value =>
      obtain ⟨credential, hattested, rfl⟩ := h.model value hvalue
      refine ⟨some credential.aaguid, aaguid_eq_ok.2 hvalue, ?_⟩
      exact bind_eq_ok.2 ⟨credential, AttestationContext.credential_eq_ok.2 hattested, if_pos rfl⟩

end X509.Certificate

end Passkey
