import Mathlib.Tactic.SplitIfs
import Passkey.Proofs.Json.Grammar
import Passkey.Proofs.Reading

/-!
# Strings are read as they were written

Every octet of a text is written as itself, by a letter, or by its number (`Escaped`). In each case
the reader of strings takes what was written and goes on with the next octet, and replacing the
escapes gives the octet back. So a text that is escaped reads as that text, whatever it holds.
-/

namespace Passkey.Json

open Reading

/-- How an octet is written. -/
inductive Escaped (b : UInt8) : Bytes → Prop where
  | itself (not_control : ¬ b < 0x20) (not_quote : b ≠ 0x22) (not_backslash : b ≠ 0x5c) :
    Escaped b [b]
  | letter {l : UInt8} (not_number : l ≠ 0x75) (stands : ofEscape? l = some b) :
    Escaped b [0x5c, l]
  | number {x y : UInt8} (digits : ([0x30, 0x30, x, y] : Bytes).all isHexDigit = true)
    (stands : hexUnit? 0x30 0x30 x y = some b.toNat)
    (ascii : Utf8.encode (String.singleton (Char.ofNat b.toNat)) = [b]) :
    Escaped b [0x5c, 0x75, 0x30, 0x30, x, y]

/-- A control character is written by its number, which takes two digits after two zeros. -/
theorem escaped_control {n : Nat} (hn : n < 32) :
    Escaped (UInt8.ofNat n) (Utf8.encode "\\u00" ++ Utf8.encode (Bytes.toHex [UInt8.ofNat n])) := by
  let digit (k : Nat) : UInt8 := UInt8.ofNat (Bytes.hexDigit k).toNat
  have hwritten : ∀ n < 32, Utf8.encode "\\u00" ++ Utf8.encode (Bytes.toHex [UInt8.ofNat n]) =
      [0x5c, 0x75, 0x30, 0x30, digit (n / 16), digit (n % 16)] := by decide
  have hdigits : ∀ n < 32,
      ([0x30, 0x30, digit (n / 16), digit (n % 16)] : Bytes).all isHexDigit = true := by decide
  have hstands : ∀ n < 32,
      hexUnit? 0x30 0x30 (digit (n / 16)) (digit (n % 16)) = some (UInt8.ofNat n).toNat := by decide
  have hascii : ∀ n < 32, Utf8.encode (String.singleton (Char.ofNat (UInt8.ofNat n).toNat)) =
      [UInt8.ofNat n] := by decide
  rw [hwritten n hn]
  exact .number (hdigits n hn) (hstands n hn) (hascii n hn)

theorem escaped_escapeOctet (b : UInt8) : Escaped b (escapeOctet b) := by
  unfold escapeOctet
  split_ifs with quote backslash backspace feed newline carriage tab control
  -- The characters with a letter of their own come first.
  any_goals
    subst b
    exact .letter (by decide) (by decide)
  · have hcontrol : b.toNat < 32 := UInt8.lt_iff_toNat_lt.1 control
    simpa using escaped_control hcontrol
  · exact .itself control quote backslash

/-! ### Reading up to the closing quote -/

section Reading

variable {b l : UInt8} {input : Bytes}

theorem run_readString?_itself (not_control : ¬ b < 0x20) (not_quote : b ≠ 0x22)
    (not_backslash : b ≠ 0x5c) : (of readString?).run (b :: input) =
      ((of readString?).run input).map fun p => (b :: p.1, p.2) := by
  rw [run_of, readString?, if_neg (by simp [not_control, not_backslash])]
  · rw [run_of]
    cases readString? input <;> rfl
  · simpa using not_quote
  · simp [not_backslash]
  · simp [not_backslash]

theorem run_readString?_letter (not_number : l ≠ 0x75) (stands : (ofEscape? l).isSome = true) :
    (of readString?).run (0x5c :: l :: input) =
      ((of readString?).run input).map fun p => (0x5c :: l :: p.1, p.2) := by
  rw [run_of, readString?, if_pos stands]
  · rw [run_of]
    cases readString? input <;> rfl
  · simp [not_number]

theorem run_readString?_number {x y z w : UInt8} (digits : [x, y, z, w].all isHexDigit = true) :
    (of readString?).run (0x5c :: 0x75 :: x :: y :: z :: w :: input) =
      ((of readString?).run input).map fun p => (0x5c :: 0x75 :: x :: y :: z :: w :: p.1, p.2) := by
  rw [run_of, readString?, if_pos digits, run_of]
  cases readString? input <;> rfl

end Reading

theorem run_readString?_quote (rest : Bytes) :
    (of readString?).run (0x22 :: rest) = some ([], rest) := by
  rw [run_of, readString?]
  rfl

/-- What stands between quotes is read up to the closing one. -/
def Quotable (raw : Bytes) : Prop := (of readString?).Reads (raw ++ [0x22]) raw

/-- The letters of escapes do not stand for numbers. -/
theorem ne_of_ofEscape? {l : UInt8} (stands : (ofEscape? l).isSome = true) : l ≠ 0x75 := by
  rintro rfl
  exact absurd stands (by decide)

theorem IsRaw.quotable {raw : Bytes} (h : IsRaw raw) : Quotable raw := by
  induction h with
  | nil => exact run_readString?_quote
  | @plain b raw not_control not_quote not_backslash h ih =>
    intro rest
    show (of readString?).run (b :: (raw ++ [0x22] ++ rest)) = _
    rw [run_readString?_itself not_control not_quote not_backslash, ih rest]
    rfl
  | @letter l raw stands h ih =>
    intro rest
    show (of readString?).run (0x5c :: l :: (raw ++ [0x22] ++ rest)) = _
    rw [run_readString?_letter (ne_of_ofEscape? stands) stands, ih rest]
    rfl
  | @number x y z w raw digits h ih =>
    intro rest
    show (of readString?).run (0x5c :: 0x75 :: x :: y :: z :: w :: (raw ++ [0x22] ++ rest)) = _
    rw [run_readString?_number digits, ih rest]
    rfl

/-- By induction along the reader, of which four cases go on. -/
theorem isRaw_of_run {input raw rest : Bytes} (h : (of readString?).run input = some (raw, rest)) :
    IsRaw raw ∧ input = raw ++ 0x22 :: rest := by
  induction input using readString?.induct generalizing raw rest with
  | case2 left =>
    rw [run_readString?_quote] at h
    cases h
    exact ⟨.nil, rfl⟩
  | case3 x y z w left digits _ _ _ _ ih =>
    rw [run_readString?_number digits] at h
    obtain ⟨⟨inner, _⟩, hinner, heq⟩ := Option.map_eq_some_iff.1 h
    cases heq
    obtain ⟨hraw, rfl⟩ := ih hinner
    exact ⟨.number digits hraw, rfl⟩
  | case6 l left _ stands _ _ _ _ ih =>
    rw [run_readString?_letter (ne_of_ofEscape? stands) stands] at h
    obtain ⟨⟨inner, _⟩, hinner, heq⟩ := Option.map_eq_some_iff.1 h
    cases heq
    obtain ⟨hraw, rfl⟩ := ih hinner
    exact ⟨.letter stands hraw, rfl⟩
  | case10 b left not_quote _ _ hplain _ _ _ _ ih =>
    obtain ⟨not_control, not_backslash⟩ := not_or.1 hplain
    rw [run_readString?_itself not_control not_quote not_backslash] at h
    obtain ⟨⟨inner, _⟩, hinner, heq⟩ := Option.map_eq_some_iff.1 h
    cases heq
    obtain ⟨hraw, rfl⟩ := ih hinner
    exact ⟨.plain not_control not_quote not_backslash hraw, rfl⟩
  | case5 x y z w left digits =>
    rw [run_of, readString?, if_neg digits] at h
    cases h
  | _ => simp_all [run_of, readString?]

theorem quotable_iff {raw : Bytes} : Quotable raw ↔ IsRaw raw :=
  ⟨fun h => (isRaw_of_run (h [])).1, IsRaw.quotable⟩

/-! ### Texts between quotes -/

theorem Escaped.isRaw {b : UInt8} {written raw : Bytes} (h : Escaped b written) (hraw : IsRaw raw) :
    IsRaw (written ++ raw) := by
  cases h with
  | itself not_control not_quote not_backslash =>
    exact .plain not_control not_quote not_backslash hraw
  | letter _ stands => exact .letter (Option.isSome_iff_exists.2 ⟨b, stands⟩) hraw
  | number digits => exact .number digits hraw

theorem isRaw_escape (text : String) : IsRaw (escape text) := by
  unfold escape
  induction Utf8.encode text with
  | nil => exact .nil
  | cons b bs ih => exact (escaped_escapeOctet b).isRaw ih

theorem quotable_escape (text : String) : Quotable (escape text) := (isRaw_escape text).quotable

/-! ### Replacing the escapes -/

theorem unescape?_escaped {b : UInt8} {written raw octets : Bytes} (h : Escaped b written)
    (hrest : unescape? raw = some octets) : unescape? (written ++ raw) = some (b :: octets) := by
  cases h with
  | itself not_control not_quote not_backslash =>
    show unescape? (b :: raw) = _
    rw [unescape?, hrest]
    · rfl
    · simp [not_backslash]
    · simp [not_backslash]
  | @letter l not_number stands =>
    show unescape? (0x5c :: l :: raw) = _
    rw [unescape?, hrest, stands]
    · rfl
    · simp [not_number]
  | @number x y digits stands ascii =>
    show unescape? (0x5c :: 0x75 :: 0x30 :: 0x30 :: x :: y :: raw) = _
    have hlt : b.toNat < 256 := b.toNat_lt_size
    rw [unescape?, stands, Option.bind_eq_bind, Option.bind_some, if_neg (by omega),
      if_neg (by omega), hrest, ascii]
    rfl

/-- A text that is escaped is that text again. -/
@[simp] theorem textOfRaw?_escape (text : String) : textOfRaw? (escape text) = some text := by
  have hunescape : ∀ bs : Bytes, unescape? (bs.flatMap escapeOctet) = some bs := by
    intro bs
    induction bs with
    | nil => rfl
    | cons b bs ih => exact unescape?_escaped (escaped_escapeOctet b) ih
  rw [textOfRaw?, escape, hunescape]
  exact Utf8.decode_encode text

end Passkey.Json
