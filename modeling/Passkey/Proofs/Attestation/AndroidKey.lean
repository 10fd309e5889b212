import Passkey.Proofs.Attestation.Checks

/-!
# Which Android key statements are verified

The first certificate is the key store's word on the credential's key: it has that key, the key signs
the message, and a description in the certificate holds the challenge that the key was made for. The
description is one sequence, in which only the fifth element is looked at (`IsKeyDescription`); a
statement is verified exactly if all three are about this ceremony (`android_key_decided`).
-/

namespace Passkey.Attestation

open X509 (Certificate)

variable {s : AttestationStatement} {context : AttestationContext} {v : StatementVerdict}
  {leaf : Certificate} {description challenge : Bytes}

/-! ### The description of the key -/

/-- The octets are one sequence of at least five elements, no longer as a whole than what is read at
all, and the fifth element is an octet string with the challenge. The others can be of any type. -/
def IsKeyDescription (description challenge : Bytes) : Prop :=
  ∃ es : List Der.Element, Der.IsSequenceOf description es ∧
    es[4]? = some ⟨Der.Tag.octetString, challenge⟩

theorem attestationChallenge?_eq_some :
    attestationChallenge? description = some challenge ↔ IsKeyDescription description challenge := by
  have hoctets (e : Der.Element) :
      e.octetString? = some challenge ↔ e = ⟨Der.Tag.octetString, challenge⟩ := by
    obtain ⟨tag, content⟩ := e
    simp [Der.Element.octetString?, Der.Element.content?]
  simp only [IsKeyDescription, ← Der.sequence?_eq_some, attestationChallenge?,
    Option.bind_eq_bind, Option.bind_eq_some_iff]
  constructor
  · rintro ⟨e, he, es, hes, hfifth⟩
    refine ⟨es, ⟨e, he, hes⟩, ?_⟩
    split at hfifth
    · simpa using (hoctets _).1 hfifth
    · cases hfifth
  · rintro ⟨es, ⟨e, he, hes⟩, hfifth⟩
    refine ⟨e, he, es, hes, ?_⟩
    rcases es with _ | ⟨_, _ | ⟨_, _ | ⟨_, _ | ⟨_, _ | ⟨fifth, rest⟩⟩⟩⟩⟩ <;> simp at hfifth
    exact (hoctets fifth).2 hfifth

/-- The challenge is the one of the description in the certificate's extension. -/
theorem requireChallenge_eq_ok :
    requireChallenge leaf challenge = .ok () ↔ ∃ description,
      leaf.extension? (Oid.ofArcs [1, 3, 6, 1, 4, 1, 11129, 2, 1, 17]) = some description ∧
        IsKeyDescription description challenge := by
  simp only [← attestationChallenge?_eq_some]
  unfold requireChallenge keyDescriptionId
  cases leaf.extension? (Oid.ofArcs [1, 3, 6, 1, 4, 1, 11129, 2, 1, 17]) with
  | none => simp
  | some description =>
    cases hfound : attestationChallenge? description with
    | none => simp [hfound]
    | some found => simp [hfound]

/-! ### The statement -/

/-- What is required of an Android key statement that brings these certificates, with its algorithm,
its signature, the first certificate, the credential and the description of the key. -/
structure AndroidKeyAttests (s : AttestationStatement) (context : AttestationContext)
    (path : List Certificate) (algorithm : CoseAlgorithm) (signature : Bytes) (leaf : Certificate)
    (credential : AttestedCredential) (description : Bytes) : Prop where
  algorithm_named : s.Names algorithm
  signature_member : s.get? "sig" = some (.bytes signature)
  brought : s.Brings path
  first : path.head? = some leaf
  signed : leaf.Verifies algorithm (context.data.bytes ++ context.clientDataHash) signature
  attested : context.data.attested = some credential
  same_key : leaf.publicKey = .ok credential.publicKey.key
  described :
    leaf.extension? (Oid.ofArcs [1, 3, 6, 1, 4, 1, 11129, 2, 1, 17]) = some description
  challenge : IsKeyDescription description context.clientDataHash

/-- An Android key statement is verified exactly if its first certificate signs the message with the
credential's key and describes a key that was made for this client data, and then rests on all of its
certificates. -/
theorem android_key_decided (s : AttestationStatement) (context : AttestationContext)
    (v : StatementVerdict) :
    verifyStatement .androidKey s context = .ok v ↔
      ∃ path algorithm signature leaf credential description,
        AndroidKeyAttests s context path algorithm signature leaf credential description ∧
          v = .basic path := by
  simp only [verifyStatement, verifyAndroidKey, bind_eq_ok, exists_unit,
    AttestationStatement.algorithm_eq_ok, AttestationStatement.signature_eq_ok,
    AttestationStatement.certificates_eq_ok, leafOf_eq_ok, Certificate.requireSigned_eq_ok,
    AttestationContext.credential_eq_ok, Certificate.attestationKey, mapError_eq_ok,
    throw_eq_error, error_bind, refuse_eq_ok, ne_eq, not_not, requireChallenge_eq_ok, pure_eq_ok]
  constructor
  · rintro ⟨algorithm, halgorithm, signature, hsignature, path, hpath, leaf, hfirst, hsigned,
      credential, hattested, _, hkey, rfl, ⟨description, hdescribed, hchallenge⟩, rfl⟩
    exact ⟨path, algorithm, signature, leaf, credential, description,
      ⟨halgorithm, hsignature, hpath, hfirst, hsigned, hattested, hkey, hdescribed, hchallenge⟩,
      rfl⟩
  · rintro ⟨path, algorithm, signature, leaf, credential, description, h, rfl⟩
    exact ⟨algorithm, h.algorithm_named, signature, h.signature_member, path, h.brought, leaf,
      h.first, h.signed, credential, h.attested, _, h.same_key, rfl,
      ⟨description, h.described, h.challenge⟩, rfl⟩

end Passkey.Attestation
