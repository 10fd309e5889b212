import Passkey.Proofs.Asn1.Identifiers
import Passkey.Proofs.Cose.OneForm
import Passkey.X509.Writing

/-!
# Public keys in certificates

The part of a certificate about its key names the kind of key and, for a point, the curve, and holds
the octets of the key. It is read as it was written, and the key in it is the one that those octets
give by themselves.
-/

namespace Passkey

/-! ### Writing and reading -/

namespace X509

/-- The element that holds an algorithm and its parameters. -/
def AlgorithmId.element (a : AlgorithmId) : Der.Element :=
  ⟨Der.Tag.sequence, a.algorithm.write ++ (a.parameters.map Der.Element.write).getD []⟩

/-- The identifier is one, and the parameters can be written. -/
structure AlgorithmId.WellFormed (a : AlgorithmId) : Prop where
  spelled : a.algorithm.IsSpelled
  parameters : ∀ e, a.parameters = some e → e.WellFormed

theorem AlgorithmId.ofElement?_element {a : AlgorithmId} (h : a.WellFormed) :
    AlgorithmId.ofElement? a.element = some a := by
  obtain ⟨algorithm, parameters⟩ := a
  have hread : algorithm.element.oid? = some algorithm := Der.Element.oid?_eq_some.2 ⟨rfl, h.spelled⟩
  cases parameters with
  | none =>
    have hmembers : (AlgorithmId.element ⟨algorithm, none⟩).sequence? = some [algorithm.element] := by
      refine Der.elements?_eq_some.2 ⟨?_, by simp [AlgorithmId.element, Oid.write, Oid.element,
        Der.Element.write]⟩
      simpa using h.spelled.wellFormed
    simp [AlgorithmId.ofElement?, hmembers, hread]
  | some e =>
    have hmembers : (AlgorithmId.element ⟨algorithm, some e⟩).sequence?
        = some [algorithm.element, e] := by
      refine Der.elements?_eq_some.2 ⟨?_, by simp [AlgorithmId.element, Oid.write, Oid.element,
        Der.Element.write]⟩
      simpa using ⟨h.spelled.wellFormed, h.parameters e rfl⟩
    simp [AlgorithmId.ofElement?, hmembers, hread]

/-- A key whose algorithm can be written and whose octets are all used is read as it was written,
unless it is too long. -/
theorem PublicKeyInfo.ofElement?_write {a : AlgorithmId} {octets : Bytes} (h : a.WellFormed)
    (hlength : a.element.content.length + octets.length + 31 ≤ Der.maxLength) :
    Der.element? (PublicKeyInfo.write ⟨a, ⟨0, octets⟩⟩) >>= PublicKeyInfo.ofElement?
      = some ⟨a, ⟨0, octets⟩⟩ := by
  let bits : Der.Element := ⟨Der.Tag.bitString, 0 :: octets⟩
  have hbits : bits.bitString? = some ⟨0, octets⟩ := by
    simp [bits, Der.Element.bitString?, Der.Element.content?, Der.BitString.ofContent?]
  have halgorithm := a.element.length_write_le
  have hkey := bits.length_write_le
  have hcontent : bits.content.length = octets.length + 1 := rfl
  have hwrite : PublicKeyInfo.write ⟨a, ⟨0, octets⟩⟩ = Der.sequence [a.element.write, bits.write] := by
    simp [PublicKeyInfo.write, AlgorithmId.write, AlgorithmId.element, Der.BitString.write,
      Der.sequence, Der.Element.write, bits]
  have hsequence : Der.IsSequenceOf (PublicKeyInfo.write ⟨a, ⟨0, octets⟩⟩) [a.element, bits] := by
    refine ⟨?_, ?_, hwrite⟩
    · simp only [List.forall_mem_cons, List.not_mem_nil, false_implies, implies_true, and_true]
      have hsequenceTag : Der.Tag.isKnown a.element.tag = true := rfl
      have hbitsTag : Der.Tag.isKnown bits.tag = true := rfl
      exact ⟨⟨hsequenceTag, by omega⟩, hbitsTag, by omega⟩
    · have hwhole := Der.length_sequence_le [a.element.write, bits.write]
      simp only [List.flatten_cons, List.flatten_nil, List.append_nil, List.length_append] at hwhole
      rw [hwrite]
      omega
  obtain ⟨e, he, hmembers⟩ := Option.bind_eq_some_iff.1 (Der.sequence?_eq_some.2 hsequence)
  refine Option.bind_eq_some_iff.2 ⟨e, he, ?_⟩
  simp [PublicKeyInfo.ofElement?, hmembers, AlgorithmId.ofElement?_element h, hbits]

/-! ### Keys on a curve -/

end X509

open X509 (AlgorithmId PublicKeyInfo Certificate)

namespace Curve

/-- The registered identifier of the curve. -/
def oid : Curve → Oid
  | .p256 => .ofArcs [1, 2, 840, 10045, 3, 1, 7]
  | .p384 => .ofArcs [1, 3, 132, 0, 34]
  | .p521 => .ofArcs [1, 3, 132, 0, 35]

/-- What a certificate says about a key on the curve that is given by these octets. -/
def keyInfo (c : Curve) (octets : Bytes) : PublicKeyInfo :=
  ⟨⟨Certificate.ecPublicKeyId, some c.oid.element⟩, ⟨0, octets⟩⟩

variable {c : Curve} {octets : Bytes}

theorem isSpelled_oid (c : Curve) : c.oid.IsSpelled := by
  cases c <;> decide +kernel

theorem Spells.length_le {x y : ℕ} (h : c.Spells x y octets) : octets.length ≤ 133 := by
  have hsize := c.coordinateSize_le
  cases h with
  | both =>
    simp only [List.length_append, List.length_cons, length_coordinate]
    omega
  | first =>
    rw [List.length_cons, length_coordinate]
    omega

/-- What is written about a key on a curve is read again. -/
theorem read_keyInfo (h : octets.length ≤ 133) :
    Der.element? (c.keyInfo octets).write >>= PublicKeyInfo.ofElement? = some (c.keyInfo octets) := by
  have hid : Certificate.ecPublicKeyId.IsSpelled := by decide +kernel
  have hwell : (AlgorithmId.mk Certificate.ecPublicKeyId (some c.oid.element)).WellFormed := by
    refine ⟨hid, ?_⟩
    rintro _ ⟨⟩
    exact c.isSpelled_oid.wellFormed
  refine X509.PublicKeyInfo.ofElement?_write hwell ?_
  have hcontent :
      (AlgorithmId.mk Certificate.ecPublicKeyId (some c.oid.element)).element.content.length ≤ 100 := by
    cases c <;> decide +kernel
  rw [Der.maxLength]
  omega

/-- The key in a certificate is the one that its octets give. -/
theorem publicKey_of_keyInfo {certificate : Certificate}
    (h : certificate.content.keyInfo = c.keyInfo octets) :
    certificate.publicKey = (PublicKey.ofOctets c octets).mapError .key := by
  have hcurve : c.oid.element.oid? = some c.oid := Der.Element.oid?_eq_some.2 ⟨rfl, c.isSpelled_oid⟩
  have hfound : Certificate.curveIds.find? (·.1 = c.oid) = some (c.oid, c) := by
    cases c <;> decide +kernel
  rw [Certificate.publicKey, h]
  simp only [keyInfo, if_true, Certificate.ecKey, Option.bind_eq_bind, Option.bind_some, hcurve,
    hfound]

end Curve

end Passkey
