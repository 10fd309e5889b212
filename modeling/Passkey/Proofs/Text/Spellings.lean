import Mathlib.Data.List.DropRight
import Passkey.Proofs.RelyingParty.Checks
import Passkey.Proofs.Wire.Members

/-!
# A byte string has one spelling up to padding

A digit stands for one number below 64, and numbers whose unused bits are clear are the groups of
one byte string. So a text is read as a byte string exactly if it consists of the digits of that byte
string and of at most the padding that fills them up to whole quads (`spelling_decided`).
Identifiers of credentials and bytes in JSON are compared and carried in that form.
-/

namespace Passkey.Base64

variable {a : Alphabet}

/-! ### Digits -/

/-- A character of a range is found again by its distance from the first one. -/
theorem ofNat_add_sub {lo hi c : Char} (h : lo ≤ c ∧ c ≤ hi) :
    Char.ofNat (lo.toNat + (c.toNat - lo.toNat)) = c ∧
      c.toNat - lo.toNat ≤ hi.toNat - lo.toNat := by
  obtain ⟨hlo, hhi⟩ := h
  have hle : lo.toNat ≤ c.toNat := UInt32.le_iff_toNat_le.1 (Char.le_def.1 hlo)
  have hge : c.toNat ≤ hi.toNat := UInt32.le_iff_toNat_le.1 (Char.le_def.1 hhi)
  rw [Nat.add_sub_cancel' hle, Char.ofNat_toNat]
  exact ⟨rfl, Nat.sub_le_sub_right hge _⟩

theorem eq_digit_of_value? {c : Char} {n : Nat} (h : value? a c = some n) :
    c = digit a n ∧ n < 64 := by
  have hranges : 'Z'.toNat - 'A'.toNat = 25 ∧ 'z'.toNat - 'a'.toNat = 25 ∧
      '9'.toNat - '0'.toNat = 9 := by decide
  unfold value? at h
  split at h
  · next hc =>
    obtain ⟨hchar, hle⟩ := ofNat_add_sub hc
    cases h
    rw [digit, if_pos (by omega), hchar]
    exact ⟨rfl, by omega⟩
  split at h
  · next hc =>
    obtain ⟨hchar, hle⟩ := ofNat_add_sub hc
    cases h
    rw [digit, if_neg (by omega), if_pos (by omega), Nat.add_sub_cancel, hchar]
    exact ⟨rfl, by omega⟩
  split at h
  · next hc =>
    obtain ⟨hchar, hle⟩ := ofNat_add_sub hc
    cases h
    rw [digit, if_neg (by omega), if_neg (by omega), if_pos (by omega), Nat.add_sub_cancel, hchar]
    exact ⟨rfl, by omega⟩
  split at h
  · next hc =>
    cases h
    exact ⟨hc, by decide⟩
  split at h
  · next hc =>
    cases h
    exact ⟨hc, by decide⟩
  · cases h

theorem value?_eq_some (ha : a.Lawful) {c : Char} {n : Nat} :
    value? a c = some n ↔ c = digit a n ∧ n < 64 := by
  constructor
  · exact eq_digit_of_value?
  · rintro ⟨rfl, hn⟩
    exact ha.value?_digit n hn

/-- Characters are read as the numbers that they are the digits of. -/
theorem mapM_value?_eq_some (ha : a.Lawful) {text : List Char} {ns : List Nat} :
    text.mapM (value? a) = some ns ↔ text = ns.map (digit a) ∧ ∀ n ∈ ns, n < 64 := by
  have hread : text.mapM (value? a) = some ns ↔
      text.map id = ns.map (digit a) ∧ ∀ n ∈ ns, n < 64 :=
    mapM_eq_some fun _ _ => value?_eq_some ha
  rwa [List.map_id] at hread

/-! ### Groups of six bits -/

/-- Bits of the last number are set that belong to no byte. -/
def HasStrayBits (ns : List Nat) : Prop :=
  ns.length % 4 = 2 ∧ ns.getLastD 0 % 16 ≠ 0 ∨ ns.length % 4 = 3 ∧ ns.getLastD 0 % 4 ≠ 0

theorem hasStrayBits_cons_quad {p q r s : Nat} {rest : List Nat} :
    HasStrayBits (p :: q :: r :: s :: rest) ↔ HasStrayBits rest := by
  cases rest with
  | nil => simp [HasStrayBits]
  | cons n rest =>
    have hlength : (p :: q :: r :: s :: n :: rest).length % 4 = (n :: rest).length % 4 := by
      simp only [List.length_cons]
      omega
    rw [HasStrayBits, hlength]
    rfl

theorem not_hasStrayBits_sextets (bs : Bytes) : ¬ HasStrayBits (sextets bs) := by
  induction bs using sextets.induct with
  | case1 => simp [sextets, HasStrayBits]
  | case2 x => simp [sextets, HasStrayBits]
  | case3 x y => simp [sextets, HasStrayBits]
  | case4 x y z rest ih => rwa [sextets, hasStrayBits_cons_quad]

/-- By induction on whole quads. The bytes are given back by their parts, since the numbers are
below 64 and the bits that belong to no byte are clear. -/
theorem sextets_of_ofSextets? {ns : List Nat} {bs : Bytes} (hns : ∀ n ∈ ns, n < 64)
    (h : ofSextets? ns = some bs) : sextets bs = ns := by
  have hbyte {n : Nat} (hn : n < 256) : (UInt8.ofNat n).toNat = n := UInt8.toNat_ofNat_of_lt' hn
  induction ns using ofSextets?.induct generalizing bs with
  | case1 =>
    cases h
    rfl
  | case2 p => cases h
  | case3 p q hclear =>
    simp only [List.forall_mem_cons] at hns
    obtain ⟨hp, hq, -⟩ := hns
    rw [ofSextets?, if_pos hclear] at h
    cases h
    simp only [sextets, hbyte (show p * 4 + q / 16 < 256 by omega), List.cons.injEq, and_true]
    omega
  | case4 p q hstray =>
    rw [ofSextets?, if_neg hstray] at h
    cases h
  | case5 p q r hclear =>
    simp only [List.forall_mem_cons] at hns
    obtain ⟨hp, hq, hr, -⟩ := hns
    rw [ofSextets?, if_pos hclear] at h
    cases h
    simp only [sextets, hbyte (show p * 4 + q / 16 < 256 by omega),
      hbyte (show q % 16 * 16 + r / 4 < 256 by omega), List.cons.injEq, and_true]
    omega
  | case6 p q r hstray =>
    rw [ofSextets?, if_neg hstray] at h
    cases h
  | case7 p q r s rest ih =>
    simp only [List.forall_mem_cons] at hns
    obtain ⟨hp, hq, hr, hs, hrest⟩ := hns
    obtain ⟨tail, htail, h⟩ := Option.bind_eq_some_iff.1 h
    cases h
    simp only [sextets, ih hrest htail, hbyte (show p * 4 + q / 16 < 256 by omega),
      hbyte (show q % 16 * 16 + r / 4 < 256 by omega),
      hbyte (show r % 4 * 64 + s < 256 by omega), List.cons.injEq, and_true]
    omega

theorem ofSextets?_eq_some {ns : List Nat} {bs : Bytes} (hns : ∀ n ∈ ns, n < 64) :
    ofSextets? ns = some bs ↔ ns = sextets bs := by
  constructor
  · intro h
    exact (sextets_of_ofSextets? hns h).symm
  · rintro rfl
    exact ofSextets?_sextets bs

/-- Digits are read as the bytes that they are the digits of. -/
theorem digits_eq_some (ha : a.Lawful) {text : List Char} {bs : Bytes} :
    text.mapM (value? a) >>= ofSextets? = some bs ↔ text = encodeChars a bs := by
  simp only [Option.bind_eq_bind, Option.bind_eq_some_iff, mapM_value?_eq_some ha]
  constructor
  · rintro ⟨ns, ⟨rfl, hns⟩, h⟩
    rw [(ofSextets?_eq_some hns).1 h, encodeChars]
  · rintro rfl
    exact ⟨sextets bs, ⟨rfl, lt_of_mem_sextets bs⟩, ofSextets?_sextets bs⟩

/-! ### Padding -/

theorem rtakeWhile_pad (text : List Char) :
    ∃ pads, text.rtakeWhile (· == '=') = List.replicate pads '=' := by
  refine ⟨_, List.eq_replicate_iff.2 ⟨rfl, fun c hc => ?_⟩⟩
  exact eq_of_beq (List.mem_rtakeWhile_imp (p := (· == '=')) hc)

/-- Padding is taken off a text, and nothing else. -/
theorem rdropWhile_append_pads {text : List Char} (hunpadded : '=' ∉ text) (pads : Nat) :
    (text ++ List.replicate pads '=').rdropWhile (· == '=') = text := by
  rw [List.rdropWhile, List.reverse_append, List.reverse_replicate,
    List.dropWhile_append_of_pos (by simp), ← List.rdropWhile, List.rdropWhile_eq_self_iff]
  intro hne hpad
  exact hunpadded (eq_of_beq hpad ▸ List.getLast_mem hne)

/-- A text without its padding has to consist of digits, and may have no more padding than it
lacks. -/
theorem decodeChars?_eq_some_iff_digits (ha : a.Lawful) {text : List Char} {bs : Bytes} :
    decodeChars? a .optional text = some bs ↔
      text.length - (encodeChars a bs).length ≤ fill (encodeChars a bs).length ∧
        text.rdropWhile (· == '=') = encodeChars a bs := by
  have hbody : (text.reverse.dropWhile (· == '=')).reverse = text.rdropWhile (· == '=') := rfl
  simp only [decodeChars?, hbody, decide_eq_true_eq, Option.ite_none_right_eq_some,
    digits_eq_some ha]
  refine and_congr_left fun hdigits => ?_
  rw [hdigits]

theorem decodeChars?_eq_some (ha : a.Lawful) {text : List Char} {bs : Bytes} :
    decodeChars? a .optional text = some bs ↔
      ∃ pads ≤ fill (encodeChars a bs).length,
        text = encodeChars a bs ++ List.replicate pads '=' := by
  rw [decodeChars?_eq_some_iff_digits ha]
  constructor
  · rintro ⟨hfill, hdigits⟩
    obtain ⟨pads, hpads⟩ := rtakeWhile_pad text
    have htext : text.rdropWhile (· == '=') ++ text.rtakeWhile (· == '=') = text :=
      List.rdropWhile_append_rtakeWhile
    rw [hdigits, hpads] at htext
    refine ⟨pads, ?_, htext.symm⟩
    rwa [← htext, List.length_append, List.length_replicate, Nat.add_sub_cancel_left] at hfill
  · rintro ⟨pads, hfill, rfl⟩
    rw [rdropWhile_append_pads (pad_not_mem_encodeChars ha bs), List.length_append,
      List.length_replicate, Nat.add_sub_cancel_left]
    exact ⟨hfill, rfl⟩

/-! ### Texts in the alphabet that is safe in addresses -/

/-- The text consists of the digits of the bytes and of at most the padding that fills them up. -/
def Spells (text : String) (bs : Bytes) : Prop :=
  ∃ pads ≤ (4 - (encodeUrl bs).length % 4) % 4,
    text = encodeUrl bs ++ String.ofList (List.replicate pads '=')

theorem decodeUrl?_eq_some {text : String} {bs : Bytes} :
    decodeUrl? text = some bs ↔ Spells text bs := by
  simp only [decodeUrl?, decodeChars?_eq_some lawful_urlSafe, Spells, encodeUrl, fill,
    String.length_ofList, ← String.toList_inj, String.toList_append, String.toList_ofList]

/-- Only digits and padding are read. -/
theorem mem_of_spells {text : String} {bs : Bytes} (h : Spells text bs) {c : Char}
    (hc : c ∈ text.toList) : (∃ n < 64, c = digit urlSafe n) ∨ c = '=' := by
  obtain ⟨pads, -, rfl⟩ := h
  rw [encodeUrl, String.toList_append, String.toList_ofList, String.toList_ofList, List.mem_append]
    at hc
  rcases hc with hdigit | hpad
  · obtain ⟨n, hn, rfl⟩ := List.mem_map.1 hdigit
    exact Or.inl ⟨n, lt_of_mem_sextets bs n hn, rfl⟩
  · exact Or.inr (List.eq_of_mem_replicate hpad)

/-- The digits of the mail variant are none here. -/
theorem decodeUrl?_standard {text : String} {c : Char} (hc : c ∈ text.toList)
    (hstandard : c = standard.digit62 ∨ c = standard.digit63) : decodeUrl? text = none := by
  have hno : ∀ n < 64, digit urlSafe n ≠ standard.digit62 ∧ digit urlSafe n ≠ standard.digit63 := by
    decide
  rw [Option.eq_none_iff_forall_ne_some]
  intro bs h
  rcases mem_of_spells (decodeUrl?_eq_some.1 h) hc with ⟨n, hn, rfl⟩ | rfl
  · exact hstandard.elim (hno n hn).1 (hno n hn).2
  · exact absurd hstandard (by decide)

/-- A text without padding spells bytes exactly if it is their digits. -/
theorem spells_unpadded {text : String} {bs : Bytes} (hunpadded : '=' ∉ text.toList) :
    Spells text bs ↔ text = encodeUrl bs := by
  constructor
  · rintro ⟨pads, -, rfl⟩
    cases pads with
    | zero => simp
    | succ pads => simp at hunpadded
  · rintro rfl
    exact ⟨0, Nat.zero_le _, by simp⟩

/-- Digits with stray bits are not read, with or without padding. -/
theorem decodeUrl?_strayBits {ns : List Nat} (hns : ∀ n ∈ ns, n < 64) (hstray : HasStrayBits ns)
    (pads : Nat) :
    decodeUrl? (String.ofList (ns.map (digit urlSafe) ++ List.replicate pads '=')) = none := by
  have hunpadded : '=' ∉ ns.map (digit urlSafe) := by
    intro hmem
    obtain ⟨n, hn, hdigit⟩ := List.mem_map.1 hmem
    exact lawful_urlSafe.digit_ne_pad n (hns n hn) hdigit
  rw [Option.eq_none_iff_forall_ne_some]
  intro bs h
  rw [decodeUrl?, String.toList_ofList, decodeChars?_eq_some_iff_digits lawful_urlSafe,
    rdropWhile_append_pads hunpadded] at h
  -- Digits of the same text are digits of the same numbers.
  have hread := (mapM_value?_eq_some lawful_urlSafe).2 ⟨rfl, hns⟩
  rw [h.2, mapM_value?_encodeChars lawful_urlSafe] at hread
  obtain rfl := Option.some.inj hread
  exact not_hasStrayBits_sextets bs hstray

end Passkey.Base64

namespace Passkey

open Base64

/-- A text is read as bytes exactly if it consists of their digits and at most of the padding that
fills these up. So what was written is read again, also out of JSON; stray bits and digits of the
mail variant are refused; unpadded texts of the same bytes are equal; and an identifier is accepted
for a raw one exactly if it is such a text of it. -/
theorem spelling_decided :
    (∀ (bs : Bytes) (text : String), decodeUrl? text = some bs ↔
      ∃ pads ≤ (4 - (encodeUrl bs).length % 4) % 4,
        text = encodeUrl bs ++ String.ofList (List.replicate pads '=')) ∧
    (∀ bs : Bytes, decodeUrl? (encodeUrl bs) = some bs) ∧
    (∀ (ns : List Nat) (pads : Nat), (∀ n ∈ ns, n < 64) → HasStrayBits ns →
      decodeUrl? (String.ofList (ns.map (digit urlSafe) ++ List.replicate pads '=')) = none) ∧
    (∀ text : String, '+' ∈ text.toList ∨ '/' ∈ text.toList → decodeUrl? text = none) ∧
    (∀ (text text' : String) (bs : Bytes), '=' ∉ text.toList → '=' ∉ text'.toList →
      decodeUrl? text = some bs → decodeUrl? text' = some bs → text = text') ∧
    (∀ (id : String) (rawId : Bytes), checkId id rawId = .ok () ↔
      ∃ pads ≤ (4 - (encodeUrl rawId).length % 4) % 4,
        id = encodeUrl rawId ++ String.ofList (List.replicate pads '=')) ∧
    ∀ bs : Bytes, Json.read? (Wire.ofBytes bs).write >>= Wire.bytes? = some bs := by
  refine ⟨fun _ _ => decodeUrl?_eq_some, decodeUrl?_encodeUrl, ?_, ?_, ?_, ?_, ?_⟩
  · intro ns pads hns hstray
    exact decodeUrl?_strayBits hns hstray pads
  · rintro text (hplus | hslash)
    · exact decodeUrl?_standard hplus (Or.inl rfl)
    · exact decodeUrl?_standard hslash (Or.inr rfl)
  · intro text text' bs hunpadded hunpadded' h h'
    rw [decodeUrl?_eq_some, spells_unpadded hunpadded] at h
    rw [decodeUrl?_eq_some, spells_unpadded hunpadded'] at h'
    rw [h, h']
  · intro id rawId
    rw [checkId_eq_ok, decodeUrl?_eq_some, Spells]
  · intro bs
    exact (Wire.carries_bytes bs).read_write

end Passkey
