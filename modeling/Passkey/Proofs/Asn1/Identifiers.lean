import Passkey.Asn1.Oid
import Passkey.Proofs.Asn1.Elements
import Passkey.Proofs.Fallible

/-!
# Identifiers in elements

An identifier is kept by its octets, so the element that holds it is determined. Not all octets are
those of an identifier, which is why what is written for one is read again only if it `IsSpelled`.
-/

namespace Passkey

/-- The identifier is read again from its octets. -/
def Oid.IsSpelled (o : Oid) : Prop := Oid.ofOctets? o.octets = some o

instance (o : Oid) : Decidable o.IsSpelled := inferInstanceAs (Decidable (_ = _))

/-- The element that holds the identifier. -/
def Oid.element (o : Oid) : Der.Element := ⟨Der.Tag.objectIdentifier, o.octets⟩

theorem Der.Element.oid?_eq_some {e : Der.Element} {o : Oid} :
    e.oid? = some o ↔ e = o.element ∧ o.IsSpelled := by
  obtain ⟨tag, octets⟩ := e
  simp only [oid?, content?, Option.bind_eq_bind, Option.bind_eq_some_iff,
    Option.ite_none_right_eq_some, Option.some.injEq, Oid.element, Der.Element.mk.injEq,
    Oid.IsSpelled, and_assoc]
  constructor
  · rintro ⟨_, rfl, rfl, h⟩
    obtain rfl : o.octets = octets := by
      rw [← (Option.ite_none_right_eq_some.1 h).2 |> Option.some.inj]
    exact ⟨rfl, rfl, h⟩
  · rintro ⟨rfl, rfl, h⟩
    exact ⟨_, rfl, rfl, h⟩

theorem Oid.IsSpelled.wellFormed {o : Oid} (h : o.IsSpelled) : o.element.WellFormed := by
  obtain ⟨⟨-, hlength, -⟩, -⟩ := Option.ite_none_right_eq_some.1 h
  have hmax : Oid.maxOctets ≤ Der.maxLength := by decide
  have hknown : Der.Tag.isKnown Der.Tag.objectIdentifier = true := by decide
  exact ⟨hknown, hlength.trans hmax⟩

/-- The octets are a sequence of these identifiers, each of which is read again from its own, and not
too long. -/
structure Oid.SpelledBy (os : List Oid) (value : Bytes) : Prop where
  octets : value = Der.sequence (os.map Oid.write)
  spelled : ∀ o ∈ os, o.IsSpelled
  length_le : value.length ≤ Der.maxLength

theorem Oid.readAll_eq_some {value : Bytes} {os : List Oid} :
    (do (← (← Der.element? value).sequence?).mapM Der.Element.oid?) = some os ↔
      Oid.SpelledBy os value := by
  have hwrite : (os.map Oid.element).map Der.Element.write = os.map Oid.write := by
    rw [List.map_map]
    rfl
  have hoids (es : List Der.Element) : es.mapM Der.Element.oid? = some os ↔
      es = os.map Oid.element ∧ ∀ o ∈ os, o.IsSpelled := by
    simpa using mapM_eq_some fun (e : Der.Element) o => e.oid?_eq_some (o := o)
  have hread : (do (← (← Der.element? value).sequence?).mapM Der.Element.oid?) = some os ↔
      ∃ es, Der.IsSequenceOf value es ∧ es.mapM Der.Element.oid? = some os := by
    simp only [← Der.sequence?_eq_some, Option.bind_eq_bind, ← Option.bind_assoc,
      Option.bind_eq_some_iff]
  rw [hread]
  constructor
  · rintro ⟨es, hes, hmap⟩
    obtain ⟨rfl, hspelled⟩ := (hoids es).1 hmap
    have hoctets := hes.octets_eq
    rw [hwrite] at hoctets
    exact ⟨hoctets, hspelled, hes.length_le⟩
  · rintro ⟨hoctets, hspelled, hlength⟩
    refine ⟨os.map Oid.element, ⟨?_, hlength, hwrite.symm ▸ hoctets⟩, (hoids _).2 ⟨rfl, hspelled⟩⟩
    intro e he
    obtain ⟨o, ho, rfl⟩ := List.mem_map.1 he
    exact (hspelled o ho).wellFormed

end Passkey
