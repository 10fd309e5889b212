import Passkey.Json.Reader

/-!
# Numbers by their grammar

A number is made of a sign, a whole, a fraction and an exponent, of which only the whole must be
there. The check of a literal cuts it into these by taking digits for as long as there are any, and
passes exactly the literals that are made so (`isNumber_iff`). All octets of a number are ones that
may occur in numbers, which is how far the reader looks for its end.
-/

namespace Passkey.Json

/-! ### Cutting where a run of octets ends -/

section

variable {p : UInt8 → Bool} {bs rest : Bytes}

/-- The front of what follows does not go on with a run of such octets. -/
def Stops (p : UInt8 → Bool) (rest : Bytes) : Prop := ∀ b, rest.head? = some b → p b = false

theorem stops_nil : Stops p [] := fun _ h => nomatch h

theorem stops_cons {b : UInt8} (h : p b = false) (rest : Bytes) : Stops p (b :: rest) := by
  rintro _ ⟨⟩
  exact h

theorem takeWhile_of_stops (h : Stops p rest) : rest.takeWhile p = [] := by
  cases rest with
  | nil => rfl
  | cons b rest => exact List.takeWhile_cons_of_neg (by simp [h b rfl])

theorem dropWhile_of_stops (h : Stops p rest) : rest.dropWhile p = rest := by
  cases rest with
  | nil => rfl
  | cons b rest => exact List.dropWhile_cons_of_neg (by simp [h b rfl])

theorem takeWhile_append_of_stops (hbs : ∀ b ∈ bs, p b = true) (h : Stops p rest) :
    (bs ++ rest).takeWhile p = bs := by
  rw [List.takeWhile_append_of_pos hbs, takeWhile_of_stops h, List.append_nil]

theorem dropWhile_append_of_stops (hbs : ∀ b ∈ bs, p b = true) (h : Stops p rest) :
    (bs ++ rest).dropWhile p = rest := by
  rw [List.dropWhile_append_of_pos hbs, dropWhile_of_stops h]

end

/-! ### The grammar -/

/-- Decimal digits, one at least. -/
def Digits (bs : Bytes) : Prop := bs ≠ [] ∧ ∀ b ∈ bs, isDigit b = true

/-- The digits of a whole number, of which zero comes first only if it is the last as well. -/
def Whole (bs : Bytes) : Prop := Digits bs ∧ (bs.head? ≠ some 0x30 ∨ bs.length = 1)

/-- Nothing, or a point and digits. -/
inductive Fraction : Bytes → Prop
  | none : Fraction []
  | point {digits : Bytes} (h : Digits digits) : Fraction (0x2e :: digits)

/-- Nothing, or a mark, perhaps a sign, and digits. -/
inductive Exponent : Bytes → Prop
  | none : Exponent []
  | power {mark : UInt8} {sign digits : Bytes} (hmark : mark = 0x65 ∨ mark = 0x45)
    (hsign : sign = [] ∨ sign = [0x2b] ∨ sign = [0x2d]) (h : Digits digits) :
    Exponent (mark :: (sign ++ digits))

/-- Perhaps a minus, a whole, and what may come after it. -/
inductive Numeral : Bytes → Prop
  | mk {sign whole fraction exponent : Bytes} (hsign : sign = [] ∨ sign = [0x2d])
    (hwhole : Whole whole) (hfraction : Fraction fraction) (hexponent : Exponent exponent) :
    Numeral (sign ++ (whole ++ (fraction ++ exponent)))

theorem Whole.numeral {bs : Bytes} (h : Whole bs) : Numeral bs := by
  simpa using Numeral.mk (.inl rfl) h .none .none

theorem Whole.numeral_minus {bs : Bytes} (h : Whole bs) : Numeral (0x2d :: bs) := by
  simpa using Numeral.mk (.inr rfl) h .none .none

/-! ### The check decides it -/

variable {bs : Bytes}

theorem Digits.exists_cons (h : Digits bs) :
    ∃ b rest, bs = b :: rest ∧ isDigit b = true := by
  cases bs with
  | nil => exact absurd rfl h.1
  | cons b rest => exact ⟨b, rest, rfl, h.2 b List.mem_cons_self⟩

theorem isSome_natural? : (natural? bs).isSome = true ↔ Digits bs := by
  unfold natural? Digits
  split
  · next h => simpa [List.all_eq_true] using h
  · next h => simpa [List.all_eq_true] using h

theorem digits_takeWhile : Digits (bs.takeWhile isDigit) ↔ bs.takeWhile isDigit ≠ [] :=
  and_iff_left (List.all_eq_true.1 List.all_takeWhile)

/-- A digit is no sign. -/
theorem ne_of_isDigit {b : UInt8} (h : isDigit b = true) : b ≠ 0x2b ∧ b ≠ 0x2d := by
  constructor <;>
  · rintro rfl
    exact absurd h (by decide)

/-- Where the digits of an exponent follow its mark at once. -/
theorem isExponent_unsigned {mark b : UInt8} {rest : Bytes} (hplus : b ≠ 0x2b) (hminus : b ≠ 0x2d) :
    isExponent (mark :: b :: rest) =
      ((mark == 0x65 || mark == 0x45) && (natural? (b :: rest)).isSome) := by
  simp only [isExponent]
  split
  · next heq => exact absurd (List.cons_eq_cons.1 heq).1 hplus
  · next heq => exact absurd (List.cons_eq_cons.1 heq).1 hminus
  · rfl

theorem isExponent_iff : isExponent bs = true ↔ Exponent bs := by
  constructor
  · intro h
    cases bs with
    | nil => exact .none
    | cons mark rest =>
      simp only [isExponent, Bool.and_eq_true, Bool.or_eq_true, beq_iff_eq, isSome_natural?] at h
      obtain ⟨hmark, hdigits⟩ := h
      split at hdigits
      · exact .power hmark (.inr (.inl rfl)) hdigits
      · exact .power hmark (.inr (.inr rfl)) hdigits
      · exact .power hmark (.inl rfl) hdigits
  · rintro (_ | @⟨mark, sign, digits, hmark, hsign, h⟩)
    · rfl
    · have hpower : ((mark == 0x65 || mark == 0x45) && (natural? digits).isSome) = true := by
        simpa [isSome_natural?.2 h] using hmark
      rcases hsign with rfl | rfl | rfl
      · obtain ⟨b, rest, rfl, hb⟩ := h.exists_cons
        obtain ⟨hplus, hminus⟩ := ne_of_isDigit hb
        exact (isExponent_unsigned hplus hminus).trans hpower
      · exact hpower
      · exact hpower

theorem Exponent.stops (h : Exponent bs) : Stops isDigit bs := by
  rcases h with _ | ⟨rfl | rfl, -, -⟩
  · exact stops_nil
  · exact stops_cons (by decide) _
  · exact stops_cons (by decide) _

theorem Fraction.stops {exponent : Bytes} (h : Fraction bs) (hexponent : Exponent exponent) :
    Stops isDigit (bs ++ exponent) := by
  cases h with
  | none => exact hexponent.stops
  | point h => exact stops_cons (by decide) _

/-- Where there is no point. -/
theorem isFraction_pointless (h : bs.head? ≠ some 0x2e) : isFraction bs = isExponent bs := by
  unfold isFraction
  split
  · exact absurd rfl h
  · rfl

theorem isFraction_iff :
    isFraction bs = true ↔
      ∃ fraction exponent, Fraction fraction ∧ Exponent exponent ∧ bs = fraction ++ exponent := by
  by_cases hpoint : bs.head? = some 0x2e
  · obtain ⟨rest, rfl⟩ := List.head?_eq_some_iff.1 hpoint
    have hcheck : isFraction (0x2e :: rest) = true ↔
        Digits (rest.takeWhile isDigit) ∧ Exponent (rest.dropWhile isDigit) := by
      simp [isFraction, digits_takeWhile, isExponent_iff]
    rw [hcheck]
    constructor
    · rintro ⟨hdigits, hexponent⟩
      have hcut := List.takeWhile_append_dropWhile (p := isDigit) (l := rest)
      exact ⟨_, _, .point hdigits, hexponent, congrArg (0x2e :: ·) hcut.symm⟩
    · rintro ⟨_, exponent, (_ | ⟨hdigits⟩), hexponent, heq⟩
      · exact absurd hpoint (by rw [heq]; rcases hexponent with _ | ⟨rfl | rfl, -, -⟩ <;> simp)
      · obtain ⟨-, rfl⟩ : _ ∧ rest = _ ++ exponent := List.cons_eq_cons.1 heq
        rw [takeWhile_append_of_stops hdigits.2 hexponent.stops,
          dropWhile_append_of_stops hdigits.2 hexponent.stops]
        exact ⟨hdigits, hexponent⟩
  · rw [isFraction_pointless hpoint, isExponent_iff]
    constructor
    · intro h
      exact ⟨[], bs, .none, h, rfl⟩
    · rintro ⟨_, exponent, (_ | ⟨hdigits⟩), hexponent, rfl⟩
      · exact hexponent
      · exact absurd rfl hpoint

/-- What is checked of a number without its sign. -/
theorem isUnsigned_iff :
    (!(bs.takeWhile isDigit).isEmpty &&
        ((bs.takeWhile isDigit).head? != some 0x30 || (bs.takeWhile isDigit).length == 1) &&
        isFraction (bs.dropWhile isDigit)) = true ↔
      ∃ whole fraction exponent, Whole whole ∧ Fraction fraction ∧ Exponent exponent ∧
        bs = whole ++ (fraction ++ exponent) := by
  have hcheck : (!(bs.takeWhile isDigit).isEmpty &&
      ((bs.takeWhile isDigit).head? != some 0x30 || (bs.takeWhile isDigit).length == 1) &&
      isFraction (bs.dropWhile isDigit)) = true ↔
        Whole (bs.takeWhile isDigit) ∧ isFraction (bs.dropWhile isDigit) = true := by
    simp [Whole, digits_takeWhile]
  rw [hcheck]
  constructor
  · rintro ⟨hwhole, hrest⟩
    obtain ⟨fraction, exponent, hfraction, hexponent, heq⟩ := isFraction_iff.1 hrest
    refine ⟨_, fraction, exponent, hwhole, hfraction, hexponent, ?_⟩
    rw [← heq, List.takeWhile_append_dropWhile]
  · rintro ⟨whole, fraction, exponent, hwhole, hfraction, hexponent, rfl⟩
    have hstops := hfraction.stops hexponent
    rw [takeWhile_append_of_stops hwhole.1.2 hstops, dropWhile_append_of_stops hwhole.1.2 hstops]
    exact ⟨hwhole, isFraction_iff.2 ⟨fraction, exponent, hfraction, hexponent, rfl⟩⟩

theorem isNumber_iff : isNumber bs = true ↔ Numeral bs := by
  constructor
  · intro h
    simp only [isNumber] at h
    split at h
    · obtain ⟨whole, fraction, exponent, hwhole, hfraction, hexponent, rfl⟩ := isUnsigned_iff.1 h
      exact .mk (.inr rfl) hwhole hfraction hexponent
    · obtain ⟨whole, fraction, exponent, hwhole, hfraction, hexponent, rfl⟩ := isUnsigned_iff.1 h
      exact .mk (.inl rfl) hwhole hfraction hexponent
  · rintro ⟨hsign, hwhole, hfraction, hexponent⟩
    have hunsigned := isUnsigned_iff.2 ⟨_, _, _, hwhole, hfraction, hexponent, rfl⟩
    rcases hsign with rfl | rfl
    · obtain ⟨b, rest, rfl, hb⟩ := hwhole.1.exists_cons
      obtain ⟨-, hminus⟩ := ne_of_isDigit hb
      simp only [isNumber]
      split
      · next heq => exact absurd (List.cons_eq_cons.1 heq).1 hminus
      · exact hunsigned
    · exact hunsigned

/-! ### The octets of a number -/

theorem Digits.octets (h : Digits bs) : ∀ b ∈ bs, isNumberOctet b = true := fun b hb => by
  simp [isNumberOctet, h.2 b hb]

theorem Numeral.octets (h : Numeral bs) : ∀ b ∈ bs, isNumberOctet b = true := by
  obtain ⟨hsign, hwhole, hfraction, hexponent⟩ := h
  simp only [List.forall_mem_append]
  refine ⟨?_, hwhole.1.octets, ?_, ?_⟩
  · rcases hsign with rfl | rfl <;> simp [isNumberOctet]
  · cases hfraction with
    | none => exact fun _ h => nomatch h
    | point h => exact List.forall_mem_cons.2 ⟨by decide, h.octets⟩
  · cases hexponent with
    | none => exact fun _ h => nomatch h
    | power hmark hsign h =>
      rw [List.forall_mem_cons, List.forall_mem_append]
      refine ⟨?_, ?_, h.octets⟩
      · rcases hmark with rfl | rfl <;> decide
      · rcases hsign with rfl | rfl | rfl <;> simp [isNumberOctet]

end Passkey.Json
