import Mathlib.Data.List.TakeWhile
import Passkey.Text.Base64

/-!
# Base64 digits are read as they were written

Bytes are regrouped into numbers below 64 and back without loss, and each of these numbers has a
digit that is no padding and stands for it. So the digits of a byte string are read as that byte
string.
-/

namespace Passkey.Base64

/-- Every number below 64 has a digit that stands for it, and no digit is the padding. -/
structure Alphabet.Lawful (a : Alphabet) : Prop where
  value?_digit : ∀ n < 64, value? a (digit a n) = some n
  digit_ne_pad : ∀ n < 64, digit a n ≠ '='

theorem lawful_urlSafe : urlSafe.Lawful where
  value?_digit := by decide
  digit_ne_pad := by decide

theorem lawful_standard : standard.Lawful where
  value?_digit := by decide
  digit_ne_pad := by decide

/-! ### Groups of six bits -/

theorem lt_of_mem_sextets (bs : Bytes) : ∀ n ∈ sextets bs, n < 64 := by
  have hbyte (b : UInt8) : b.toNat < 256 := b.toNat_lt_size
  induction bs using sextets.induct with
  | case1 => simp [sextets]
  | case2 x =>
    have := hbyte x
    simp only [sextets, List.forall_mem_cons]
    refine ⟨by omega, by omega, by simp⟩
  | case3 x y =>
    have := hbyte x
    have := hbyte y
    simp only [sextets, List.forall_mem_cons]
    refine ⟨by omega, by omega, by omega, by simp⟩
  | case4 x y z rest ih =>
    have := hbyte x
    have := hbyte y
    have := hbyte z
    simp only [sextets, List.forall_mem_cons]
    exact ⟨by omega, by omega, by omega, by omega, ih⟩

/-- A byte is given back by its parts. -/
theorem ofNat_eq_of_toNat {n : Nat} {b : UInt8} (h : n = b.toNat) : UInt8.ofNat n = b := by
  rw [h, UInt8.ofNat_toNat]

theorem ofSextets?_sextets (bs : Bytes) : ofSextets? (sextets bs) = some bs := by
  have hbyte (b : UInt8) : b.toNat < 256 := b.toNat_lt_size
  induction bs using sextets.induct with
  | case1 => rfl
  | case2 x =>
    have hx := hbyte x
    simp only [sextets, ofSextets?]
    rw [if_pos (by omega), ofNat_eq_of_toNat]
    omega
  | case3 x y =>
    have hx := hbyte x
    have hy := hbyte y
    simp only [sextets, ofSextets?]
    rw [if_pos (by omega)]
    refine congrArg some (List.cons_eq_cons.2 ⟨ofNat_eq_of_toNat (by omega), ?_⟩)
    exact List.cons_eq_cons.2 ⟨ofNat_eq_of_toNat (by omega), rfl⟩
  | case4 x y z rest ih =>
    have hx := hbyte x
    have hy := hbyte y
    have hz := hbyte z
    simp only [sextets, ofSextets?, ih]
    refine congrArg some (List.cons_eq_cons.2 ⟨ofNat_eq_of_toNat (by omega), ?_⟩)
    refine List.cons_eq_cons.2 ⟨ofNat_eq_of_toNat (by omega), ?_⟩
    exact List.cons_eq_cons.2 ⟨ofNat_eq_of_toNat (by omega), rfl⟩

/-! ### Digits -/

variable {a : Alphabet}

theorem mapM_value?_encodeChars (h : a.Lawful) (bs : Bytes) :
    (encodeChars a bs).mapM (value? a) = some (sextets bs) := by
  have hread : ∀ ns : List Nat, (∀ n ∈ ns, n < 64) →
      (ns.map (digit a)).mapM (value? a) = some ns := by
    intro ns hns
    induction ns with
    | nil => rfl
    | cons n ns ih =>
      obtain ⟨hn, hrest⟩ := List.forall_mem_cons.1 hns
      rw [List.map_cons, List.mapM_cons, h.value?_digit n hn, ih hrest]
      rfl
  exact hread _ (lt_of_mem_sextets bs)

theorem pad_not_mem_encodeChars (h : a.Lawful) (bs : Bytes) : '=' ∉ encodeChars a bs := by
  intro hmem
  obtain ⟨n, hn, hdigit⟩ := List.mem_map.1 hmem
  exact h.digit_ne_pad n (lt_of_mem_sextets bs n hn) hdigit

/-- No digit is taken for padding. -/
theorem dropWhile_reverse_encodeChars (h : a.Lawful) (bs : Bytes) :
    (encodeChars a bs).reverse.dropWhile (· == '=') = (encodeChars a bs).reverse := by
  refine List.dropWhile_eq_self_iff.2 fun hpos hpad => pad_not_mem_encodeChars h bs ?_
  rw [← List.mem_reverse, ← eq_of_beq hpad]
  exact List.getElem_mem hpos

theorem decodeChars?_encodeChars (h : a.Lawful) (bs : Bytes) :
    decodeChars? a .optional (encodeChars a bs) = some bs := by
  simp [decodeChars?, dropWhile_reverse_encodeChars h, mapM_value?_encodeChars h,
    ofSextets?_sextets]

/-- Bytes are read from the digits that are safe in addresses. -/
theorem decodeUrl?_encodeUrl (bs : Bytes) : decodeUrl? (encodeUrl bs) = some bs := by
  rw [decodeUrl?, encodeUrl, String.toList_ofList]
  exact decodeChars?_encodeChars lawful_urlSafe bs

/-- Bytes are read from their digits in the mail variant and the padding that fills these up. -/
theorem decodeStandard?_encodeStandard (bs : Bytes) :
    decodeStandard? (encodeStandard bs) = some bs := by
  let digits := encodeChars standard bs
  let pads := List.replicate (fill digits.length) '='
  have hbody : (digits ++ pads).reverse.dropWhile (· == '=') = digits.reverse := by
    rw [List.reverse_append, List.reverse_replicate, List.dropWhile_append_of_pos (by simp)]
    exact dropWhile_reverse_encodeChars lawful_standard bs
  have hfits : (digits ++ pads).length - digits.length = fill digits.length := by
    simp [pads]
  rw [decodeStandard?, encodeStandard, String.toList_ofList]
  show decodeChars? standard .required (digits ++ pads) = some bs
  simp only [decodeChars?, hbody, List.reverse_reverse, hfits, decide_true, if_true]
  rw [mapM_value?_encodeChars lawful_standard, Option.bind_eq_bind, Option.bind_some,
    ofSextets?_sextets]

end Passkey.Base64
