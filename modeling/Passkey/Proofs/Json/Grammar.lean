import Passkey.Proofs.Json.Numerals

/-!
# What is a text of a value

The grammar of JSON over octets, apart from any reader: which octets are the text of a value
(`IsTextOf`), with blanks wherever they may stand. Strings are only cut out here. Whether one spells
a text is asked when it is used.
-/

namespace Passkey.Json

/-! ### The grammar -/

/-- Nothing but blanks. -/
def Blanks (bs : Bytes) : Prop := ∀ b ∈ bs, isBlank b = true

/-- What may stand between quotes: octets other than quotes, backslashes and control characters, and
escapes, by a letter or by four hexadecimal digits. -/
inductive IsRaw : Bytes → Prop
  | nil : IsRaw []
  | plain {b : UInt8} {raw : Bytes} (not_control : ¬ b < 0x20) (not_quote : b ≠ 0x22)
    (not_backslash : b ≠ 0x5c) (h : IsRaw raw) : IsRaw (b :: raw)
  | letter {l : UInt8} {raw : Bytes} (stands : (ofEscape? l).isSome = true) (h : IsRaw raw) :
    IsRaw (0x5c :: l :: raw)
  | number {x y z w : UInt8} {raw : Bytes} (digits : [x, y, z, w].all isHexDigit = true)
    (h : IsRaw raw) : IsRaw (0x5c :: 0x75 :: x :: y :: z :: w :: raw)

section

variable {α : Type} (P : Bytes → α → Prop)

/-- A text with blanks around it. -/
inductive Placed : Bytes → α → Prop
  | mk {before text after : Bytes} {a : α} (hbefore : Blanks before) (h : P text a)
    (hafter : Blanks after) : Placed (before ++ (text ++ after)) a

/-- Texts with commas between them, one at least. -/
inductive Separated : Bytes → List α → Prop
  | last {text : Bytes} {a : α} (h : P text a) : Separated text [a]
  | more {text body : Bytes} {a : α} {as : List α} (h : P text a)
    (hrest : Separated body as) : Separated (text ++ 0x2c :: body) (a :: as)

/-- A list in brackets: nothing but blanks, or texts with commas between them. -/
inductive Enclosed (opening closing : UInt8) : Bytes → List α → Prop
  | none {blanks : Bytes} (h : Blanks blanks) : Enclosed opening closing
    (opening :: (blanks ++ [closing])) []
  | some {body : Bytes} {as : List α} (h : Separated P body as) : Enclosed opening closing
    (opening :: (body ++ [closing])) as

/-- A name in quotes, a colon and a text. -/
inductive Labelled : Bytes → Bytes × α → Prop
  | mk {name before after text : Bytes} {a : α} (hname : IsRaw name) (hbefore : Blanks before)
    (hafter : Blanks after) (h : P text a) :
    Labelled (0x22 :: (name ++ 0x22 :: (before ++ 0x3a :: (after ++ text)))) (name, a)

end

/-- The octets are the text of the value. -/
inductive IsTextOf : Bytes → Json → Prop
  | null : IsTextOf (Utf8.encode "null") .null
  | true : IsTextOf (Utf8.encode "true") (.bool true)
  | false : IsTextOf (Utf8.encode "false") (.bool false)
  | number {literal : Bytes} (h : Numeral literal) : IsTextOf literal (.number literal)
  | string {raw : Bytes} (h : IsRaw raw) : IsTextOf (quote raw) (.string raw)
  | array {text : Bytes} {items : List Json} (h : Enclosed (Placed IsTextOf) 0x5b 0x5d text items) :
    IsTextOf text (.array items)
  | object {text : Bytes} {members : List (Bytes × Json)}
    (h : Enclosed (Placed (Labelled IsTextOf)) 0x7b 0x7d text members) :
    IsTextOf text (.object members)

/-! ### First octets -/

/-- What is written begins with a token, and not with the end of a list. -/
def Begins (bs : Bytes) : Prop :=
  ∃ b rest, bs = b :: rest ∧ isBlank b = false ∧ b ∉ [0x5d, 0x7d]

/-- An octet of a number begins no token of another kind. -/
theorem first_of_number {b : UInt8} (h : isNumberOctet b = true) :
    isBlank b = false ∧ b ∉ [0x22, 0x5b, 0x5d, 0x7b, 0x7d, 0x6e, 0x74, 0x66] := by
  have hall : ∀ n < 256, isNumberOctet (UInt8.ofNat n) = true → isBlank (UInt8.ofNat n) = false ∧
      UInt8.ofNat n ∉ [0x22, 0x5b, 0x5d, 0x7b, 0x7d, 0x6e, 0x74, 0x66] := by decide +kernel
  have hb := hall b.toNat b.toNat_lt_size
  rw [UInt8.ofNat_toNat] at hb
  exact hb h

theorem Numeral.exists_cons {literal : Bytes} (h : Numeral literal) :
    ∃ b rest, literal = b :: rest ∧ isNumberOctet b = true ∧
      ∀ c ∈ rest, isNumberOctet c = true := by
  have hoctets := h.octets
  cases literal with
  | nil => exact absurd (isNumber_iff.2 h) (by decide)
  | cons b rest => exact ⟨b, rest, rfl, List.forall_mem_cons.1 hoctets⟩

theorem Enclosed.exists_cons {α : Type} {P : Bytes → α → Prop} {opening closing : UInt8}
    {text : Bytes} {as : List α} (h : Enclosed P opening closing text as) :
    ∃ rest, text = opening :: rest := by
  cases h with
  | none => exact ⟨_, rfl⟩
  | some => exact ⟨_, rfl⟩

theorem IsTextOf.begins {text : Bytes} {j : Json} (h : IsTextOf text j) : Begins text := by
  cases h with
  | null => exact ⟨0x6e, _, rfl, by decide, by decide⟩
  | true => exact ⟨0x74, _, rfl, by decide, by decide⟩
  | false => exact ⟨0x66, _, rfl, by decide, by decide⟩
  | number h =>
    obtain ⟨b, rest, rfl, hb, -⟩ := h.exists_cons
    obtain ⟨hblank, hfirst⟩ := first_of_number hb
    exact ⟨b, rest, rfl, hblank, by simp_all⟩
  | string => exact ⟨0x22, _, rfl, by decide, by decide⟩
  | array h =>
    obtain ⟨body, rfl⟩ := h.exists_cons
    exact ⟨0x5b, body, rfl, by decide, by decide⟩
  | object h =>
    obtain ⟨body, rfl⟩ := h.exists_cons
    exact ⟨0x7b, body, rfl, by decide, by decide⟩

theorem Labelled.begins {P : Bytes → Json → Prop} {text : Bytes} {m : Bytes × Json}
    (h : Labelled P text m) : Begins text := by
  cases h
  exact ⟨0x22, _, rfl, by decide, by decide⟩

/-! ### Blanks -/

section

variable {blanks rest : Bytes}

theorem blanks_nil : Blanks [] := fun _ h => nomatch h

theorem skipBlanks_append (h : Blanks blanks) (hrest : Stops isBlank rest) :
    skipBlanks (blanks ++ rest) = rest := dropWhile_append_of_stops h hrest

/-- Skipping blanks takes off blanks. -/
theorem exists_blanks (input : Bytes) :
    ∃ blanks, Blanks blanks ∧ input = blanks ++ skipBlanks input :=
  ⟨input.takeWhile isBlank, List.all_eq_true.1 List.all_takeWhile,
    List.takeWhile_append_dropWhile.symm⟩

theorem Begins.stops {bs : Bytes} (h : Begins bs) (rest : Bytes) : Stops isBlank (bs ++ rest) := by
  obtain ⟨b, tail, rfl, hblank, -⟩ := h
  exact stops_cons hblank (tail ++ rest)

/-- Blanks end a number. -/
theorem Blanks.stops (h : Blanks blanks) (hrest : Stops isNumberOctet rest) :
    Stops isNumberOctet (blanks ++ rest) := by
  cases blanks with
  | nil => exact hrest
  | cons b blanks =>
    refine stops_cons (Bool.eq_false_iff.2 fun hnumber => ?_) _
    obtain ⟨hblank, -⟩ := first_of_number hnumber
    exact Bool.false_ne_true (hblank.symm.trans (h b List.mem_cons_self))

end

end Passkey.Json
