import Passkey.Asn1.Der
import Passkey.Proofs.Reading
import Passkey.Theory.Radix

/-!
# One spelling for each element

A length is read from its fewest octets only, so an element is read from the octets that write it
and from no others (`run_readElement?`). Hence an input is one element, and a content a sequence of
elements, in one way at most. The same holds of the octets of a non-negative integer
(`natural?_eq_some`).
-/

namespace Passkey.Der

open Reading

variable {input rest : Bytes}

/-! ### Lengths -/

/-- The octets of a length that takes more than one: their count and the number that they spell. -/
theorem exists_lengthOctets {n : Nat} (hlong : ¬ n < 0x80) (hmax : n ≤ maxLength) :
    ∃ first octets, lengthOctets n = first :: octets ∧ ¬ first < 0x80 ∧
      first.toNat - 0x80 = octets.length ∧ 1 ≤ octets.length ∧ octets.length ≤ 4 ∧
      Bytes.toNat octets = n := by
  have hmax4 : n < 256 ^ 4 := by
    rw [maxLength] at hmax
    omega
  have hspell : Bytes.toNat (Bytes.trim (Bytes.ofNat 8 n)) = n := by
    rw [Bytes.toNat_trim]
    exact Bytes.toNat_ofNat (Nat.lt_trans hmax4 (by decide))
  have hle : (Bytes.trim (Bytes.ofNat 8 n)).length ≤ 4 :=
    Bytes.length_le_of_toNat_lt (Bytes.trim_trim _) (hspell.symm ▸ hmax4)
  have hpos : 1 ≤ (Bytes.trim (Bytes.ofNat 8 n)).length := by
    apply List.length_pos_of_ne_nil
    intro hnil
    rw [hnil] at hspell
    change 0 = n at hspell
    omega
  refine ⟨_, _, if_neg hlong, ?_, ?_, hpos, hle, hspell⟩
  · rw [UInt8.lt_iff_toNat_lt, UInt8.toNat_ofNat']
    change ¬ (0x80 + _) % 256 < 128
    omega
  · rw [UInt8.toNat_ofNat']
    omega

theorem length_trim_ofNat_le (n : Nat) : (Bytes.trim (Bytes.ofNat 8 n)).length ≤ 8 := by
  calc (Bytes.trim (Bytes.ofNat 8 n)).length ≤ (Bytes.ofNat 8 n).length :=
        List.length_dropWhile_le ..
    _ = 8 := Bytes.length_ofNat ..

theorem length_lengthOctets_le (n : Nat) : (lengthOctets n).length ≤ 9 := by
  have hle := length_trim_ofNat_le n
  unfold lengthOctets
  split
  · simp
  · rw [List.length_cons]
    omega

theorem lengthOctets_ne_nil (n : Nat) : lengthOctets n ≠ [] := by
  unfold lengthOctets
  split <;> exact List.cons_ne_nil _ _

/-- The first octet of a length tells how many more there are, of any length. -/
theorem length_of_lengthOctets {n : Nat} {first : UInt8} {octets : Bytes}
    (h : lengthOctets n = first :: octets) : octets.length = first.toNat - 0x80 := by
  unfold lengthOctets at h
  split at h
  · next hshort =>
    cases h
    rw [UInt8.toNat_ofNat', List.length_nil]
    omega
  · cases h
    have hle := length_trim_ofNat_le n
    rw [UInt8.toNat_ofNat']
    omega

/-- The octets of an element determine it, also one that is too long to be read. -/
theorem tlv_inj {tag tag' : UInt8} {content content' : Bytes} :
    tlv tag content = tlv tag' content' ↔ tag = tag' ∧ content = content' := by
  constructor
  · intro h
    obtain ⟨first, octets, hwrite⟩ :=
      List.exists_cons_of_ne_nil (lengthOctets_ne_nil content.length)
    obtain ⟨first', octets', hwrite'⟩ :=
      List.exists_cons_of_ne_nil (lengthOctets_ne_nil content'.length)
    simp only [tlv, hwrite, hwrite', List.cons_append, List.cons.injEq] at h
    obtain ⟨htag, hfirst, hoctets⟩ := h
    have hcount : octets.length = octets'.length := by
      rw [length_of_lengthOctets hwrite, length_of_lengthOctets hwrite', hfirst]
    exact ⟨htag, (List.append_inj hoctets hcount).2⟩
  · rintro ⟨rfl, rfl⟩
    rfl

theorem run_readLength? {n : Nat} :
    (of readLength?).run input = some (n, rest)
      ↔ n ≤ maxLength ∧ input = lengthOctets n ++ rest := by
  rw [run_of]
  constructor
  · intro h
    cases input with
    | nil => cases h
    | cons first octets =>
      rw [readLength?] at h
      by_cases hshort : first < 0x80
      · simp only [hshort, if_true, Option.map_some, Option.some.injEq, Prod.mk.injEq] at h
        obtain ⟨rfl, rfl⟩ := h
        have hlt : first.toNat < 0x80 := UInt8.lt_iff_toNat_lt.1 hshort
        refine ⟨by rw [maxLength]; omega, ?_⟩
        rw [lengthOctets, if_pos hlt, UInt8.ofNat_toNat]
        rfl
      · simp only [hshort, if_false, Option.map_eq_some_iff, Option.ite_none_right_eq_some,
          Option.some.injEq] at h
        obtain ⟨parsed, ⟨⟨-, -, -, hmax, hfewest⟩, rfl⟩, h⟩ := h
        simp only [Prod.mk.injEq] at h
        obtain ⟨rfl, rfl⟩ := h
        refine ⟨hmax, ?_⟩
        rw [hfewest, List.cons_append, List.take_append_drop]
  · rintro ⟨hmax, rfl⟩
    by_cases hshort : n < 0x80
    · have hvalue : (UInt8.ofNat n).toNat = n := by
        rw [UInt8.toNat_ofNat']
        omega
      have hfirst : UInt8.ofNat n < 0x80 := by
        rw [UInt8.lt_iff_toNat_lt, hvalue]
        exact hshort
      have hwrite : lengthOctets n = [UInt8.ofNat n] := if_pos hshort
      rw [hwrite, List.cons_append, readLength?]
      simp [hfirst, hvalue]
    · obtain ⟨first, octets, hwrite, hlong, hcount, hpos, hle, hspell⟩ :=
        exists_lengthOctets hshort hmax
      rw [hwrite, List.cons_append, readLength?]
      simp [hlong, hcount, hspell, hle, hpos, hmax, hwrite]

/-! ### Elements -/

/-- The element can be written so that it is read again: its tag is one that may appear, and its
content is not too long. -/
structure Element.WellFormed (e : Element) : Prop where
  known : Tag.isKnown e.tag = true
  length_le : e.content.length ≤ maxLength

theorem Element.length_write_le (e : Element) : e.write.length ≤ e.content.length + 10 := by
  have hle := length_lengthOctets_le e.content.length
  simp only [Element.write, tlv, List.length_append, List.length_cons]
  omega

theorem Element.length_content_le (e : Element) : e.content.length ≤ e.write.length := by
  simp only [Element.write, tlv, List.length_append, List.length_cons]
  omega

/-- The element can be written so that it is read again as the whole of an input, which must not be
too long with the tag and the length. -/
structure Element.Whole (e : Element) : Prop where
  known : Tag.isKnown e.tag = true
  length_le : e.write.length ≤ maxLength

theorem Element.Whole.wellFormed {e : Element} (h : e.Whole) : e.WellFormed :=
  ⟨h.known, e.length_content_le.trans h.length_le⟩

theorem run_readElement? {e : Element} :
    (of readElement?).run input = some (e, rest) ↔ e.WellFormed ∧ input = e.write ++ rest := by
  cases input with
  | nil => simp [run_of, readElement?, Element.write, tlv]
  | cons tag octets =>
    have hlength : (of readElement?).run (tag :: octets) = some (e, rest) ↔
        Tag.isKnown tag = true ∧ ∃ n body, (of readLength?).run octets = some (n, body) ∧
          n ≤ body.length ∧ ⟨tag, body.take n⟩ = e ∧ body.drop n = rest := by
      simp only [run_of, readElement?]
      by_cases hknown : Tag.isKnown tag = true
      · simp only [hknown, if_true, true_and]
        cases readLength? octets with
        | none => simp
        | some length =>
          obtain ⟨n, body, hshorter⟩ := length
          by_cases hn : n ≤ body.length
          · simp [hn]
          · simp [hn]
      · simp [hknown]
    simp only [hlength, run_readLength?]
    constructor
    · rintro ⟨hknown, n, body, ⟨hmax, rfl⟩, hn, rfl, rfl⟩
      have hlen : (body.take n).length = n := by rw [List.length_take, Nat.min_eq_left hn]
      refine ⟨⟨hknown, hlen.symm ▸ hmax⟩, ?_⟩
      simp [Element.write, tlv, hn]
    · rintro ⟨hwell, heq⟩
      simp only [Element.write, tlv, List.cons_append, List.cons.injEq, List.append_assoc] at heq
      obtain ⟨rfl, rfl⟩ := heq
      refine ⟨hwell.known, _, e.content ++ rest, ⟨hwell.length_le, rfl⟩, ?_, ?_, ?_⟩
      · simp
      · simp
      · simp

theorem element?_eq_some {e : Element} :
    element? input = some e ↔ e.Whole ∧ input = e.write := by
  have hrun : element? input = some e ↔
      input.length ≤ maxLength ∧ (of readElement?).run input = some (e, []) := by
    rw [element?, Option.ite_none_right_eq_some, run_of]
    cases readElement? input with
    | none => simp
    | some parsed =>
      obtain ⟨e', rest, -⟩ := parsed
      cases rest <;> simp
  rw [hrun, run_readElement?, List.append_nil]
  constructor
  · rintro ⟨hlength, hwell, rfl⟩
    exact ⟨⟨hwell.known, hlength⟩, rfl⟩
  · rintro ⟨hwhole, rfl⟩
    exact ⟨hwhole.length_le, hwhole.wellFormed, rfl⟩

theorem elements?_eq_some {content : Bytes} {es : List Element} :
    elements? content = some es
      ↔ (∀ e ∈ es, e.WellFormed) ∧ content = (es.map Element.write).flatten := by
  induction es generalizing content with
  | nil =>
    cases content with
    | nil => simp [elements?]
    | cons b bs =>
      rw [elements?]
      cases readElement? (b :: bs) with
      | none => simp
      | some parsed => simp
  | cons e es ih =>
    have hstep : elements? content = some (e :: es) ↔
        ∃ rest, (of readElement?).run content = some (e, rest) ∧ elements? rest = some es := by
      cases content with
      | nil => simp [elements?, run_of, readElement?]
      | cons b bs =>
        rw [elements?, run_of]
        cases readElement? (b :: bs) with
        | none => simp
        | some parsed =>
          obtain ⟨e', rest, -⟩ := parsed
          simp [and_comm]
    simp only [hstep, run_readElement?, ih, List.mem_cons, forall_eq_or_imp, List.map_cons,
      List.flatten_cons]
    constructor
    · rintro ⟨rest, ⟨hwell, rfl⟩, hall, rfl⟩
      exact ⟨⟨hwell, hall⟩, rfl⟩
    · rintro ⟨⟨hwell, hall⟩, rfl⟩
      exact ⟨_, ⟨hwell, rfl⟩, hall, rfl⟩

/-! ### Where an element ends -/

variable {cut tail : Bytes} {e : Element}

theorem isLocal_readElement : (of readElement?).IsLocal := by
  intro input e rest h
  obtain ⟨hwell, rfl⟩ := run_readElement?.1 h
  exact ⟨e.write, rfl, fun rest' => run_readElement?.2 ⟨hwell, rfl⟩⟩

theorem run_readElement?_of_element? (h : element? input = some e) :
    (of readElement?).run input = some (e, []) := by
  obtain ⟨hwhole, rfl⟩ := element?_eq_some.1 h
  exact run_readElement?.2 ⟨hwhole.wellFormed, (List.append_nil _).symm⟩

/-- An input that goes on after its element does not consist of one element. -/
theorem element?_append (h : element? input = some e) (htail : tail ≠ []) :
    element? (input ++ tail) = none := by
  have hlonger := isLocal_readElement.run_append (run_readElement?_of_element? h) tail
  rw [Option.eq_none_iff_forall_ne_some]
  intro e' he'
  rw [run_readElement?_of_element? he', List.nil_append, Option.some.injEq, Prod.mk.injEq] at hlonger
  exact htail hlonger.2.symm

/-- An element that is cut short is no element. -/
theorem element?_eq_none_of_cut (h : element? (cut ++ tail) = some e) (htail : tail ≠ []) :
    element? cut = none := by
  have hnone := isLocal_readElement.run_eq_none (run_readElement?_of_element? h)
    (List.length_pos_iff.2 htail)
  rw [Option.eq_none_iff_forall_ne_some]
  intro e' he'
  rw [run_readElement?_of_element? he'] at hnone
  cases hnone

/-- The second input is what an element at the front of the first leaves. -/
def Leaves (input rest : Bytes) : Prop := ∃ e, (of readElement?).run input = some (e, rest)

/-- Elements are not taken off an input for ever. -/
theorem wellFounded_leaves : WellFounded fun rest input => Leaves input rest :=
  Subrelation.wf (fun h => length_of h.choose_spec) (InvImage.wf List.length Nat.lt_wfRel.wf)

/-! ### Sequences -/

/-- The octets are one sequence of these elements, with nothing after it, and not too long. -/
structure IsSequenceOf (octets : Bytes) (es : List Element) : Prop where
  wellFormed : ∀ e ∈ es, e.WellFormed
  length_le : octets.length ≤ maxLength
  octets_eq : octets = sequence (es.map Element.write)

theorem sequence?_eq_some {es : List Element} :
    element? input >>= Element.sequence? = some es ↔ IsSequenceOf input es := by
  simp only [Option.bind_eq_bind, Option.bind_eq_some_iff, element?_eq_some, Element.sequence?,
    Element.content?, Option.ite_none_right_eq_some, Option.some.injEq, elements?_eq_some]
  constructor
  · rintro ⟨⟨_, _⟩, ⟨hwhole, rfl⟩, _, ⟨rfl, rfl⟩, hall, rfl⟩
    exact ⟨hall, hwhole.length_le, rfl⟩
  · rintro ⟨hall, hlength, rfl⟩
    have hknown : Tag.isKnown Tag.sequence = true := by decide
    exact ⟨⟨Tag.sequence, _⟩, ⟨⟨hknown, hlength⟩, rfl⟩, _, ⟨rfl, rfl⟩, hall, rfl⟩

theorem length_flatten_le (members : List Bytes) :
    members.flatten.length ≤ (sequence members).length :=
  Element.length_content_le ⟨Tag.sequence, members.flatten⟩

theorem length_sequence_le (members : List Bytes) :
    (sequence members).length ≤ members.flatten.length + 10 :=
  Element.length_write_le ⟨Tag.sequence, members.flatten⟩

theorem length_write_le_of_mem {es : List Element} (he : e ∈ es) :
    e.write.length ≤ (sequence (es.map Element.write)).length := by
  calc e.write.length ≤ (es.map Element.write).flatten.length :=
        (List.sublist_flatten_of_mem (List.mem_map_of_mem he)).length_le
    _ ≤ (sequence (es.map Element.write)).length := length_flatten_le _

/-- Elements whose tags may appear are read from the sequence that is written for them, unless it is
too long. -/
theorem isSequenceOf_sequence {es : List Element} (hknown : ∀ e ∈ es, Tag.isKnown e.tag = true)
    (hlength : (sequence (es.map Element.write)).length ≤ maxLength) :
    IsSequenceOf (sequence (es.map Element.write)) es := by
  refine ⟨fun e he => ⟨hknown e he, ?_⟩, hlength, rfl⟩
  exact e.length_content_le.trans ((length_write_le_of_mem he).trans hlength)

/-- Every part of a sequence can stand by itself. -/
theorem IsSequenceOf.whole {octets : Bytes} {es : List Element} (h : IsSequenceOf octets es)
    (he : e ∈ es) : e.Whole := by
  obtain ⟨hwell, hlength, rfl⟩ := h
  exact ⟨(hwell e he).known, (length_write_le_of_mem he).trans hlength⟩

/-! ### Integers -/

/-- The shortest octets of a signed integer that spell the same number. -/
def minimalOctets (octets : Bytes) : Bytes :=
  match Bytes.trim octets with
  | [] => [0]
  | b :: bs => if b < 0x80 then b :: bs else 0 :: b :: bs

theorem unsigned_eq_tlv (octets : Bytes) :
    unsigned octets = tlv Tag.integer (minimalOctets octets) := by
  unfold unsigned minimalOctets
  cases Bytes.trim octets <;> rfl

theorem length_minimalOctets_le (octets : Bytes) :
    (minimalOctets octets).length ≤ octets.length + 1 := by
  have hle : (Bytes.trim octets).length ≤ octets.length := List.length_dropWhile_le ..
  unfold minimalOctets
  cases h : Bytes.trim octets with
  | nil => simp
  | cons b bs =>
    rw [h, List.length_cons] at hle
    by_cases hb : b < 0x80
    · simp [hb]
      omega
    · simp [hb]
      omega

theorem head_trim_ne_zero {octets bs : Bytes} {b : UInt8} (h : Bytes.trim octets = b :: bs) :
    b ≠ 0 := by
  have htrim : Bytes.trim (b :: bs) = b :: bs := h ▸ Bytes.trim_trim octets
  simpa using List.dropWhile_eq_self_iff.1 htrim (Nat.succ_pos _)

theorem natural?_minimalOctets (octets : Bytes) :
    Element.natural? ⟨Tag.integer, minimalOctets octets⟩ = some (Bytes.toNat octets) := by
  have hvalue : Bytes.toNat (minimalOctets octets) = Bytes.toNat octets := by
    rw [← Bytes.toNat_trim octets, minimalOctets]
    cases h : Bytes.trim octets with
    | nil => rfl
    | cons b bs =>
      by_cases hb : b < 0x80
      · simp [hb]
      · simp [hb, Bytes.toNat_cons 0]
  have hminimal : isMinimalInteger (minimalOctets octets) = true := by
    rw [minimalOctets]
    cases h : Bytes.trim octets with
    | nil => rfl
    | cons b bs =>
      have hb0 := head_trim_ne_zero h
      by_cases hb : b < 0x80
      · cases bs with
        | nil => simp [hb, isMinimalInteger]
        | cons b' bs =>
          have hff : b ≠ 0xff := by
            rintro rfl
            exact absurd hb (by decide)
          simp [hb, isMinimalInteger, hb0, hff]
      · simp [hb, isMinimalInteger]
  have hsign : (minimalOctets octets).headD 0 < 0x80 := by
    rw [minimalOctets]
    cases Bytes.trim octets with
    | nil => decide
    | cons b bs =>
      by_cases hb : b < 0x80
      · simp [hb]
      · simp [hb]
  simp only [Element.natural?, Element.integer?, Element.content?, if_true, Option.bind_eq_bind,
    Option.bind_some, hminimal, hsign, hvalue]

theorem minimalOctets_eq_self {octets : Bytes} (hminimal : isMinimalInteger octets = true)
    (hsign : octets.headD 0 < 0x80) : minimalOctets octets = octets := by
  match octets with
  | [] => cases hminimal
  | [b] =>
    by_cases hb : b = 0
    · subst hb
      rfl
    · have htrim : Bytes.trim [b] = [b] := by simp [Bytes.trim, hb]
      have hlt : b < 0x80 := by simpa using hsign
      simp [minimalOctets, htrim, hlt]
  | a :: b :: bs =>
    have hlt : a < 0x80 := by simpa using hsign
    by_cases ha : a = 0
    · subst ha
      have hb : ¬ b < 0x80 := by
        intro hb
        simp [isMinimalInteger, hb] at hminimal
      have hb0 : b ≠ 0 := by
        rintro rfl
        exact hb (by decide)
      have htrim : Bytes.trim (0 :: b :: bs) = b :: bs := by simp [Bytes.trim, hb0]
      simp [minimalOctets, htrim, hb]
    · have htrim : Bytes.trim (a :: b :: bs) = a :: b :: bs := by simp [Bytes.trim, ha]
      simp [minimalOctets, htrim, hlt]

/-- A non-negative integer has one spelling. -/
theorem natural?_eq_some {e : Element} {octets : Bytes} :
    e.natural? = some (Bytes.toNat octets) ↔ e = ⟨Tag.integer, minimalOctets octets⟩ := by
  constructor
  · intro h
    simp only [Element.natural?, Element.integer?, Element.content?, Option.bind_eq_bind,
      Option.bind_eq_some_iff, Option.ite_none_right_eq_some, Option.some.injEq] at h
    obtain ⟨octets', ⟨content, ⟨htag, rfl⟩, hminimal, rfl⟩, hsign, hvalue⟩ := h
    have hself := minimalOctets_eq_self hminimal hsign
    have hsame : minimalOctets e.content = minimalOctets octets := by
      rw [minimalOctets, minimalOctets, Bytes.trim_eq_of_toNat_eq hvalue]
    rw [← hsame, hself, ← htag]
  · rintro rfl
    exact natural?_minimalOctets octets

/-- Two non-negative integers are read from the sequence that is written for them, unless it is too
long. -/
theorem isSequenceOf_unsigned {octets octets' : Bytes} :
    IsSequenceOf (sequence [unsigned octets, unsigned octets'])
        [⟨Tag.integer, minimalOctets octets⟩, ⟨Tag.integer, minimalOctets octets'⟩] ↔
      (sequence [unsigned octets, unsigned octets']).length ≤ maxLength := by
  refine ⟨IsSequenceOf.length_le, fun hlength => ?_⟩
  rw [unsigned_eq_tlv, unsigned_eq_tlv] at hlength ⊢
  have hread := @isSequenceOf_sequence
    [⟨Tag.integer, minimalOctets octets⟩, ⟨Tag.integer, minimalOctets octets'⟩]
  refine hread ?_ hlength
  simp only [List.forall_mem_cons, List.not_mem_nil, false_implies, implies_true, and_true]
  decide

end Passkey.Der
