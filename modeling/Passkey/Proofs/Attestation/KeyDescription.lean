import Passkey.Proofs.Attestation.AndroidKey

/-!
# Where a key description ends

A key description is walked element by element up to its end, so nothing may be missing from it and
nothing may follow it, although only the fifth element is looked at. What is written for a challenge
is such a description, however many octets the lengths in it take.
-/

namespace Passkey.Attestation

variable {description challenge cut tail : Bytes}

/-! ### What is written -/

/-- The fields of the description that is written for a challenge. -/
def descriptionFields (challenge : Bytes) : List Der.Element :=
  [⟨Der.Tag.integer, [3]⟩, ⟨Der.Tag.enumerated, [1]⟩, ⟨Der.Tag.integer, [4]⟩,
    ⟨Der.Tag.enumerated, [1]⟩, ⟨Der.Tag.octetString, challenge⟩, ⟨Der.Tag.octetString, []⟩,
    ⟨Der.Tag.sequence, []⟩, ⟨Der.Tag.sequence, []⟩]

/-- The description that is written for a challenge holds it, unless the whole is too long. -/
theorem isKeyDescription_keyDescription (h : (keyDescription challenge).length ≤ Der.maxLength) :
    IsKeyDescription (keyDescription challenge) challenge := by
  have hknown : ∀ e ∈ descriptionFields challenge, Der.Tag.isKnown e.tag = true := by
    simp only [descriptionFields, List.forall_mem_cons, List.not_mem_nil, false_implies,
      implies_true, and_true]
    decide
  exact ⟨descriptionFields challenge, Der.isSequenceOf_sequence hknown h, rfl⟩

/-! ### What is refused -/

theorem attestationChallenge?_eq_none (h : Der.element? description = none) :
    attestationChallenge? description = none := by
  rw [attestationChallenge?, h]
  rfl

/-- Octets that describe a key are one element. -/
theorem element_of_attestationChallenge? (h : attestationChallenge? description = some challenge) :
    ∃ e, Der.element? description = some e := by
  rw [← Option.ne_none_iff_exists']
  intro hnone
  rw [attestationChallenge?_eq_none hnone] at h
  cases h

/-- Octets describe a key with a challenge exactly if they are one sequence of at least five elements,
within the limit for a whole structure, the fifth an octet string with the challenge. The walk over
the elements comes to an end on every input; what is written for a challenge is read back if it is
within that limit; and a description that is cut short, or has anything after it, is refused. -/
theorem key_description_walk :
    (∀ description challenge, attestationChallenge? description = some challenge ↔
      IsKeyDescription description challenge) ∧
    (WellFounded fun rest input => Der.Leaves input rest) ∧
    (∀ challenge, (keyDescription challenge).length ≤ Der.maxLength →
      attestationChallenge? (keyDescription challenge) = some challenge) ∧
    ∀ description challenge, attestationChallenge? description = some challenge →
      (∀ cut, cut <+: description → cut ≠ description → attestationChallenge? cut = none) ∧
        ∀ tail, tail ≠ [] → attestationChallenge? (description ++ tail) = none := by
  refine ⟨fun _ _ => attestationChallenge?_eq_some, Der.wellFounded_leaves, ?_, ?_⟩
  · intro challenge hlength
    exact attestationChallenge?_eq_some.2 (isKeyDescription_keyDescription hlength)
  · intro description challenge h
    obtain ⟨e, he⟩ := element_of_attestationChallenge? h
    constructor
    · intro cut hcut hne
      obtain ⟨tail, htail, rfl⟩ := Reading.exists_tail_of_cut hcut hne
      exact attestationChallenge?_eq_none (Der.element?_eq_none_of_cut he htail)
    · intro tail htail
      exact attestationChallenge?_eq_none (Der.element?_append he htail)

/-- A challenge with more octets than a length of one octet can say. -/
def longChallenge : Bytes := List.replicate 128 0x07

/-- The description that is written for a long challenge is read back, but not without its last three
octets or with one octet after it. -/
theorem longChallenge_walk :
    attestationChallenge? (keyDescription longChallenge) = some longChallenge ∧
      attestationChallenge? ((keyDescription longChallenge).take 149) = none ∧
      attestationChallenge? (keyDescription longChallenge ++ [0x00]) = none := by
  have hlength : (keyDescription longChallenge).length = 152 := by decide +kernel
  obtain ⟨-, -, hwritten, hextent⟩ := key_description_walk
  have hread := hwritten longChallenge (by rw [hlength]; decide)
  obtain ⟨hcut, htail⟩ := hextent _ _ hread
  refine ⟨hread, hcut _ (List.take_prefix ..) ?_, htail _ (List.cons_ne_nil _ _)⟩
  intro heq
  have hshort := congrArg List.length heq
  rw [List.length_take, hlength] at hshort
  omega

end Passkey.Attestation
