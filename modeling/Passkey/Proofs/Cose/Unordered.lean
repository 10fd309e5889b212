import Passkey.Proofs.Cbor.Spellings
import Passkey.Proofs.Cose.KeyExtent

/-!
# What of a map decides the key

A key has its parts under five labels, and what stands first under each of them is all of a map that
counts (`ofValue_congr`). So neither the order of the entries, nor entries under other keys, nor the
way in which the map is spelled have a part in the key that is read, or in what is found wrong with
it.
-/

namespace Passkey

/-! ### Values under a key -/

namespace Cbor.Entries

variable {entries others : Entries} {key : Int}

/-- What the entries with this integer key hold, in the order in which they stand. -/
def under (entries : Entries) (key : Int) : List Value :=
  (entries.filter (·.1.isInt key)).map (·.2)

theorem atInt?_eq_head? (entries : Entries) (key : Int) :
    entries.atInt? key = (entries.under key).head? := by
  rw [atInt?, under, List.head?_map, List.head?_filter]

theorem under_perm (h : entries.Perm others) (key : Int) :
    (entries.under key).Perm (others.under key) :=
  (h.filter _).map _

/-- Where a key is not repeated, the order of the entries does not matter. -/
theorem under_eq_of_perm (h : entries.Perm others) (honce : (entries.under key).length ≤ 1) :
    entries.under key = others.under key := by
  have hperm := under_perm h key
  match hentries : entries.under key with
  | [] =>
    rw [hentries] at hperm
    exact hperm.nil_eq
  | [v] =>
    rw [hentries] at hperm
    exact List.singleton_perm.1 hperm
  | _ :: _ :: _ =>
    rw [hentries] at honce
    simp at honce

/-- Entries that are passed over when a key is looked for can be left out. -/
theorem under_filter {p : Value × Value → Bool} (h : ∀ e : Value × Value, e.1.isInt key → p e) :
    Entries.under (entries.filter p) key = entries.under key := by
  have hboth (e : Value × Value) : (e.1.isInt key && p e) = e.1.isInt key := by
    cases hkey : e.1.isInt key with
    | false => rfl
    | true => exact h e hkey
  simp only [under, List.filter_filter, hboth]

end Cbor.Entries

namespace CoseKey

open Cbor (Entries Value)

variable {entries others : Entries}

/-- The labels under which a key has its parts. What the negative ones mean depends on the kind of
key. -/
def labels : List Int := [1, 3, -1, -2, -3]

/-- The first entry under each label holds the same in both maps, or there is none in both. -/
def SameParts (entries others : Entries) : Prop :=
  ∀ label ∈ labels, entries.atInt? label = others.atInt? label

/-- An entry under one of the labels. -/
def isPart (entry : Value × Value) : Bool := labels.any fun label => entry.1.isInt label

theorem ofValue_congr (h : SameParts entries others) :
    ofValue (.map entries) = ofValue (.map others) := by
  simp only [SameParts, labels, List.forall_mem_cons, List.not_mem_nil, false_implies,
    implies_true, and_true] at h
  obtain ⟨hkty, halg, hfirst, hsecond, hthird⟩ := h
  simp only [ofValue, ofEc2, ofRsa, ofOkp, integer, byteString, hkty, halg, hfirst, hsecond, hthird]

theorem decode_eq_ofValue {bs : Bytes} {value : Value} (h : Cbor.decode bs = .ok value) :
    decode bs = ofValue value := by
  rw [decode, h]

theorem SameParts.of_under (h : ∀ label ∈ labels, entries.under label = others.under label) :
    SameParts entries others := by
  intro label hlabel
  rw [Entries.atInt?_eq_head?, Entries.atInt?_eq_head?, h label hlabel]

theorem SameParts.of_perm (h : entries.Perm others)
    (honce : ∀ label ∈ labels, (entries.under label).length ≤ 1) : SameParts entries others :=
  .of_under fun label hlabel => Entries.under_eq_of_perm h (honce label hlabel)

theorem SameParts.of_filter (h : entries.filter isPart = others.filter isPart) :
    SameParts entries others := by
  refine .of_under fun label hlabel => ?_
  have hpart (e : Value × Value) (he : e.1.isInt label) : isPart e = true :=
    List.any_eq_true.2 ⟨label, hlabel, he⟩
  rw [← Entries.under_filter hpart, h, Entries.under_filter hpart]

/-- A map gives the key, or is refused for the reason, that every other map with the same parts gives
or is refused for: one with the same entries in another order, where no label is repeated, and one
that differs in entries under other keys. However a map is spelled, it gives what its other spellings
give. -/
theorem parts_decide_key (bs : Bytes) (entries : Entries)
    (h : Cbor.decode bs = .ok (.map entries)) :
    (∀ (other : Bytes) (others : Entries), Cbor.decode other = .ok (.map others) →
      SameParts entries others → decode other = decode bs) ∧
    (∀ (other : Bytes) (others : Entries), Cbor.decode other = .ok (.map others) →
      entries.Perm others → (∀ label ∈ labels, (entries.under label).length ≤ 1) →
        decode other = decode bs) ∧
    (∀ (other : Bytes) (others : Entries), Cbor.decode other = .ok (.map others) →
      entries.filter isPart = others.filter isPart → decode other = decode bs) ∧
    ∀ other : Bytes, Cbor.Spells Cbor.maxDepth (.map entries) other → decode other = decode bs := by
  have hsame (other : Bytes) (others : Entries) (hother : Cbor.decode other = .ok (.map others))
      (hparts : SameParts entries others) : decode other = decode bs := by
    rw [decode_eq_ofValue h, decode_eq_ofValue hother, ofValue_congr hparts]
  refine ⟨hsame, ?_, ?_, ?_⟩
  · intro other others hother hperm honce
    exact hsame other others hother (.of_perm hperm honce)
  · intro other others hother hfilter
    exact hsame other others hother (.of_filter hfilter)
  · intro other hspells
    exact hsame other entries (Cbor.decode_of_spells hspells) fun _ _ => rfl

/-- The map of a short key, backwards and spelled at length: its end is marked, so is that of the
modulus, the label of the kind has a byte of its own, and there is one more entry. -/
def shuffledKey : Bytes :=
  [0xbf, 0x21, 0x41, 0x03, 0x40, 0xf6, 0x20, 0x5f, 0x41, 0x0f, 0xff, 0x03, 0x39, 0x01, 0x00, 0x18,
    0x01, 0x03, 0xff]

/-- The short key is read from the shuffled map. -/
theorem shuffledKey_eq : decode shuffledKey = decode shortKey.encode := by
  have hwritten : Cbor.decode shortKey.encode = .ok (.map
      [(.int 1, .int 3), (.int 3, .int (-257)), (.int (-1), .bytes [0x0f]),
        (.int (-2), .bytes [0x03])]) := by
    cbv
  have hshuffled : Cbor.decode shuffledKey = .ok (.map
      [(.int (-2), .bytes [0x03]), (.bytes [], .null), (.int (-1), .bytes [0x0f]),
        (.int 3, .int (-257)), (.int 1, .int 3)]) := by
    cbv
  obtain ⟨hsame, -⟩ := parts_decide_key shortKey.encode _ hwritten
  refine hsame shuffledKey _ hshuffled ?_
  simp only [SameParts, labels, List.forall_mem_cons, List.not_mem_nil, false_implies,
    implies_true, and_true]
  exact ⟨rfl, rfl, rfl, rfl, rfl⟩

end CoseKey

end Passkey
