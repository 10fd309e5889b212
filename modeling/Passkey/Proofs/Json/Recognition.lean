import Passkey.Proofs.Json.Lists
import Passkey.Proofs.Json.Strings

/-!
# The reader recognizes the grammar

The reader gives a value exactly for the texts of that value with blanks around them
(`read?_eq_some`), however deep they are nested. Its readers of strings, words, numbers and members
each take exactly what the grammar says, and values follow by induction on how long the input is.
-/

namespace Passkey.Json

open Reading

/-! ### Words -/

theorem run_readWord?_eq_some {word input left : Bytes} {j k : Json} (hword : word ≠ []) :
    (of (readWord? word j)).run input = some (k, left) ↔ k = j ∧ input = word ++ left := by
  rw [run_of_eq_some, readWord?]
  constructor
  · rintro ⟨hlt, h⟩
    split at h
    · next htake =>
      cases h
      refine ⟨rfl, ?_⟩
      rw [← htake.2.2, List.length_take, Nat.min_eq_left htake.2.1, List.take_append_drop]
    · cases h
  · rintro ⟨rfl, rfl⟩
    have hpos := List.length_pos_iff.2 hword
    refine ⟨by rw [List.length_append]; omega, ?_⟩
    rw [dif_pos ⟨hword, by simp, by simp⟩]
    simp

/-! ### The readers -/

/-- What follows this octet. -/
def after? (b : UInt8) (input : Bytes) : Option Bytes :=
  if input.head? = some b then some input.tail else none

/-- A name in quotes, a colon and a value. -/
def member : Reading (Bytes × Json) := fun input => do
  let (name, middle) ← (of readString?).run (← after? 0x22 input)
  let (j, left) ← (of readValue?).run (skipBlanks (← after? 0x3a (skipBlanks middle)))
  return ((name, j), left)

theorem after?_eq_some {b : UInt8} {input rest : Bytes} :
    after? b input = some rest ↔ input = b :: rest := by
  cases input <;> simp [after?]

theorem after?_eq_none {b : UInt8} {input : Bytes} (h : ∀ rest, input ≠ b :: rest) :
    after? b input = none := by
  cases hafter : after? b input with
  | none => rfl
  | some rest => exact absurd (after?_eq_some.1 hafter) (h rest)

theorem run_member (input : Bytes) : member.run (0x22 :: input) =
    ((of readString?).run input).bind fun p => (after? 0x3a (skipBlanks p.2)).bind fun more =>
      ((of readValue?).run (skipBlanks more)).bind fun q => some ((p.1, q.1), q.2) := rfl

theorem run_member_eq_some {input left name : Bytes} {j : Json} :
    member.run input = some ((name, j), left) ↔ ∃ inside middle more, input = 0x22 :: inside ∧
      (of readString?).run inside = some (name, middle) ∧ skipBlanks middle = 0x3a :: more ∧
      (of readValue?).run (skipBlanks more) = some (j, left) := by
  simp only [member, StateT.run, Option.bind_eq_bind, Option.bind_eq_some_iff, after?_eq_some,
    Prod.exists, Option.pure_def, Option.some.injEq, Prod.mk.injEq]
  constructor
  · rintro ⟨inside, hquote, _, middle, hname, more, hcolon, _, _, hj, ⟨rfl, rfl⟩, rfl⟩
    exact ⟨inside, middle, more, hquote, hname, hcolon, hj⟩
  · rintro ⟨inside, middle, more, hquote, hname, hcolon, hj⟩
    exact ⟨inside, hquote, name, middle, hname, more, hcolon, j, left, hj, ⟨rfl, rfl⟩, rfl⟩

theorem run_readItems? {isFirst : Bool} {input : Bytes} :
    (of (readItems? isFirst)).run input =
      elements 0x5d (of readValue?) (of (readItems? false)) isFirst input := by
  cases input with
  | nil =>
    rw [run_of, readItems?]
    simp [elements, run_of, readValue?]
  | cons first rest =>
    by_cases hfirst : first = 0x5d
    · subst hfirst
      rw [run_of, readItems?, if_pos rfl]
      cases isFirst <;> rfl
    · rw [elements, if_neg (by simpa using hfirst), run_of, run_of, readItems?, if_neg hfirst]
      cases readValue? (first :: rest) with
      | none => rfl
      | some p =>
        dsimp only [Option.map_some, Option.bind_some]
        split
        · next last heq =>
          rw [elementsAfter_closing heq]
          rfl
        · next more heq =>
          rw [elementsAfter_comma (by decide) heq, run_of]
          cases readItems? false (skipBlanks more) <;> rfl
        · next hclosing hcomma =>
          rw [elementsAfter_eq_none hclosing hcomma]
          rfl

theorem run_readMembers? {isFirst : Bool} {input : Bytes} :
    (of (readMembers? isFirst)).run input =
      elements 0x7d member (of (readMembers? false)) isFirst input := by
  cases input with
  | nil =>
    rw [run_of, readMembers?]
    rfl
  | cons first rest =>
    by_cases hfirst : first = 0x7d
    · subst hfirst
      rw [run_of, readMembers?, if_pos rfl]
      cases isFirst <;> rfl
    · rw [elements, if_neg (by simpa using hfirst), run_of, readMembers?, if_neg hfirst]
      by_cases hquote : first = 0x22
      · subst hquote
        rw [if_pos rfl, run_member, run_of]
        cases readString? rest with
        | none => rfl
        | some p =>
          dsimp only [Option.map_some, Option.bind_some]
          split
          · next more hcolon =>
            rw [after?_eq_some.2 hcolon, Option.bind_some, run_of]
            cases readValue? (skipBlanks more) with
            | none => rfl
            | some q =>
              dsimp only [Option.map_some, Option.bind_some]
              split
              · next last heq =>
                rw [elementsAfter_closing heq]
                rfl
              · next more heq =>
                rw [elementsAfter_comma (by decide) heq, run_of]
                cases readMembers? false (skipBlanks more) <;> rfl
              · next hclosing hcomma =>
                rw [elementsAfter_eq_none hclosing hcomma]
                rfl
          · next hother =>
            rw [after?_eq_none hother]
            rfl
      · rw [if_neg hquote]
        show none = (after? 0x22 (first :: rest) >>= _) >>= _
        rw [after?_eq_none fun tail heq => hquote (List.cons_eq_cons.1 heq).1]
        rfl

/-! ### Values -/

theorem run_readValue?_string (input : Bytes) : (of readValue?).run (0x22 :: input) =
    ((of readString?).run input).map fun p => (.string p.1, p.2) := by
  rw [run_of, readValue?, if_pos rfl, run_of]
  cases readString? input <;> rfl

theorem run_readValue?_array (input : Bytes) : (of readValue?).run (0x5b :: input) =
    ((of (readItems? true)).run (skipBlanks input)).map fun p => (.array p.1, p.2) := by
  rw [run_of, readValue?, if_neg (by decide), if_pos rfl, run_of]
  cases readItems? true (skipBlanks input) <;> rfl

theorem run_readValue?_object (input : Bytes) : (of readValue?).run (0x7b :: input) =
    ((of (readMembers? true)).run (skipBlanks input)).map fun p => (.object p.1, p.2) := by
  rw [run_of, readValue?, if_neg (by decide), if_neg (by decide), if_pos rfl, run_of]
  cases readMembers? true (skipBlanks input) <;> rfl

theorem run_readValue?_null (input : Bytes) : (of readValue?).run (0x6e :: input) =
    (of (readWord? (Utf8.encode "null") .null)).run (0x6e :: input) := by
  rw [run_of, readValue?, if_neg (by decide), if_neg (by decide), if_neg (by decide), if_pos rfl,
    run_of]

theorem run_readValue?_true (input : Bytes) : (of readValue?).run (0x74 :: input) =
    (of (readWord? (Utf8.encode "true") (.bool true))).run (0x74 :: input) := by
  rw [run_of, readValue?, if_neg (by decide), if_neg (by decide), if_neg (by decide),
    if_neg (by decide), if_pos rfl, run_of]

theorem run_readValue?_false (input : Bytes) : (of readValue?).run (0x66 :: input) =
    (of (readWord? (Utf8.encode "false") (.bool false))).run (0x66 :: input) := by
  rw [run_of, readValue?, if_neg (by decide), if_neg (by decide), if_neg (by decide),
    if_neg (by decide), if_neg (by decide), if_pos rfl, run_of]

theorem run_readValue?_number {first : UInt8} (input : Bytes)
    (hfirst : first ∉ [0x22, 0x5b, 0x7b, 0x6e, 0x74, 0x66]) :
    (of readValue?).run (first :: input) =
      if isNumber (first :: input.takeWhile isNumberOctet) then
        some (.number (first :: input.takeWhile isNumberOctet), input.dropWhile isNumberOctet)
      else none := by
  simp only [List.mem_cons, List.not_mem_nil, or_false, not_or] at hfirst
  obtain ⟨h₁, h₂, h₃, h₄, h₅, h₆⟩ := hfirst
  rw [run_of, readValue?, if_neg h₁, if_neg h₂, if_neg h₃, if_neg h₄, if_neg h₅, if_neg h₆,
    readNumber?]
  split <;> rfl

section

variable {n : Nat}

theorem recognizes_member (h : Recognizes n (of readValue?) IsTextOf) :
    Recognizes n member (Labelled IsTextOf) where
  begins := Labelled.begins
  sound := by
    rintro input left ⟨name, j⟩ hlt hrun
    obtain ⟨inside, middle, more, rfl, hname, hcolon, hj⟩ := run_member_eq_some.1 hrun
    obtain ⟨hraw, rfl⟩ := isRaw_of_run hname
    obtain ⟨before, hbefore, hmiddle⟩ := exists_blanks middle
    obtain ⟨after, hafter, hmore⟩ := exists_blanks more
    rw [hcolon] at hmiddle
    subst hmiddle
    simp only [List.length_cons, List.length_append] at hlt
    obtain ⟨text, htext, heq⟩ := h.sound (by have := length_skipBlanks_le more; omega) hj
    rw [heq] at hmore
    subst hmore
    exact ⟨_, .mk hraw hbefore hafter htext, by simp⟩
  complete := by
    rintro _ left _ hlt (@⟨name, before, after, text, j, hraw, hbefore, hafter, htext⟩) hleft
    refine run_member_eq_some.2 ⟨_, before ++ 0x3a :: (after ++ text) ++ left,
      after ++ text ++ left, rfl, ?_, ?_, ?_⟩
    · simpa using hraw.quotable (before ++ 0x3a :: (after ++ text) ++ left)
    · rw [List.append_assoc]
      exact skipBlanks_append hbefore (stops_cons (by decide) _)
    · rw [h.skipBlanks_placed hafter htext]
      refine h.complete ?_ htext hleft
      simp only [List.length_cons, List.length_append] at hlt ⊢
      omega

theorem enumerates_items (h : Recognizes n (of readValue?) IsTextOf) :
    Enumerates n 0x5d IsTextOf (of readValue?) fun isFirst => of (readItems? isFirst) where
  closes := by decide
  recognizes := h
  run_eq := fun _ _ => run_readItems?

theorem enumerates_members (h : Recognizes n (of readValue?) IsTextOf) :
    Enumerates n 0x7d (Labelled IsTextOf) member fun isFirst => of (readMembers? isFirst) where
  closes := by decide
  recognizes := recognizes_member h
  run_eq := fun _ _ => run_readMembers?

theorem sound_succ (ih : Recognizes n (of readValue?) IsTextOf) {input left : Bytes} {j : Json}
    (hlt : input.length < n + 1) (hrun : (of readValue?).run input = some (j, left)) :
    ∃ text, IsTextOf text j ∧ input = text ++ left := by
  cases input with
  | nil =>
    rw [run_of, readValue?] at hrun
    cases hrun
  | cons first input =>
    have hshort : input.length < n := Nat.lt_of_succ_lt_succ hlt
    by_cases hfirst : first ∈ [0x22, 0x5b, 0x7b, 0x6e, 0x74, 0x66]
    · simp only [List.mem_cons, List.not_mem_nil, or_false] at hfirst
      rcases hfirst with rfl | rfl | rfl | rfl | rfl | rfl
      -- A string, an array, an object, and the three words.
      · rw [run_readValue?_string] at hrun
        obtain ⟨⟨raw, left⟩, hinside, heq⟩ := Option.map_eq_some_iff.1 hrun
        cases heq
        obtain ⟨hraw, rfl⟩ := isRaw_of_run hinside
        exact ⟨_, .string hraw, by simp [quote]⟩
      · rw [run_readValue?_array] at hrun
        obtain ⟨⟨items, left⟩, hitems, heq⟩ := Option.map_eq_some_iff.1 hrun
        cases heq
        obtain ⟨text, htext, heq⟩ := ((enumerates_items ih).run_enclosed 0x5b hshort).1 hitems
        exact ⟨text, .array htext, heq⟩
      · rw [run_readValue?_object] at hrun
        obtain ⟨⟨members, left⟩, hmembers, heq⟩ := Option.map_eq_some_iff.1 hrun
        cases heq
        obtain ⟨text, htext, heq⟩ := ((enumerates_members ih).run_enclosed 0x7b hshort).1 hmembers
        exact ⟨text, .object htext, heq⟩
      · rw [run_readValue?_null] at hrun
        obtain ⟨rfl, heq⟩ := (run_readWord?_eq_some (by decide)).1 hrun
        exact ⟨_, .null, heq⟩
      · rw [run_readValue?_true] at hrun
        obtain ⟨rfl, heq⟩ := (run_readWord?_eq_some (by decide)).1 hrun
        exact ⟨_, .true, heq⟩
      · rw [run_readValue?_false] at hrun
        obtain ⟨rfl, heq⟩ := (run_readWord?_eq_some (by decide)).1 hrun
        exact ⟨_, .false, heq⟩
    -- Anything else must be a number, which the reader looks for the end of before it checks it.
    · rw [run_readValue?_number input hfirst] at hrun
      split at hrun
      · next hshape =>
        cases hrun
        exact ⟨_, .number (isNumber_iff.1 hshape),
          congrArg (first :: ·) List.takeWhile_append_dropWhile.symm⟩
      · cases hrun

theorem complete_succ (ih : Recognizes n (of readValue?) IsTextOf) {text left : Bytes} {j : Json}
    (hlt : (text ++ left).length < n + 1) (htext : IsTextOf text j)
    (hleft : Stops isNumberOctet left) :
    (of readValue?).run (text ++ left) = some (j, left) := by
  cases htext with
  | null =>
    exact (run_readValue?_null _).trans ((run_readWord?_eq_some (by decide)).2 ⟨rfl, rfl⟩)
  | true =>
    exact (run_readValue?_true _).trans ((run_readWord?_eq_some (by decide)).2 ⟨rfl, rfl⟩)
  | false =>
    exact (run_readValue?_false _).trans ((run_readWord?_eq_some (by decide)).2 ⟨rfl, rfl⟩)
  | number h =>
    obtain ⟨b, rest, rfl, hb, hrest⟩ := h.exists_cons
    obtain ⟨-, hfirst⟩ := first_of_number hb
    rw [List.cons_append, run_readValue?_number _ (by simp_all),
      takeWhile_append_of_stops hrest hleft, dropWhile_append_of_stops hrest hleft,
      if_pos (isNumber_iff.2 h)]
  | @string raw h =>
    show (of readValue?).run (0x22 :: (raw ++ [0x22] ++ left)) = _
    rw [run_readValue?_string, h.quotable left]
    rfl
  | array h =>
    obtain ⟨body, rfl⟩ := h.exists_cons
    have hshort : (body ++ left).length < n := Nat.lt_of_succ_lt_succ hlt
    have hitems := ((enumerates_items ih).run_enclosed 0x5b hshort).2 ⟨_, h, rfl⟩
    rw [List.cons_append, run_readValue?_array, hitems]
    rfl
  | object h =>
    obtain ⟨body, rfl⟩ := h.exists_cons
    have hshort : (body ++ left).length < n := Nat.lt_of_succ_lt_succ hlt
    have hmembers := ((enumerates_members ih).run_enclosed 0x7b hshort).2 ⟨_, h, rfl⟩
    rw [List.cons_append, run_readValue?_object, hmembers]
    rfl

end

/-- By induction on the length of the input, which every bracket shortens. -/
theorem recognizes_value (n : Nat) : Recognizes n (of readValue?) IsTextOf := by
  induction n with
  | zero => exact ⟨IsTextOf.begins, fun h => absurd h (by omega), fun h => absurd h (by omega)⟩
  | succ n ih => exact ⟨IsTextOf.begins, sound_succ ih, complete_succ ih⟩

/-- A value is read exactly from the texts of it, with blanks around them. -/
theorem read?_eq_some {text : Bytes} {j : Json} :
    read? text = some j ↔ Placed IsTextOf text j := by
  have hplaced := (recognizes_value (text.length + 1)).run_placed (x := j) stops_nil stops_nil
    (Nat.lt_succ_self text.length)
  simp only [List.append_nil, exists_eq_right'] at hplaced
  rw [← hplaced, read?]
  constructor
  · intro h
    split at h
    · next k left hlt hread =>
      split at h
      · next hleft =>
        cases h
        exact ⟨left, run_of_eq_some.2 ⟨hlt, hread⟩, hleft⟩
      · cases h
    · cases h
  · rintro ⟨left, hread, hleft⟩
    obtain ⟨hlt, hread⟩ := run_of_eq_some.1 hread
    rw [hread]
    exact if_pos hleft

/-- No text is the text of two values. -/
theorem value_unique {text : Bytes} {j k : Json} (hj : Placed IsTextOf text j)
    (hk : Placed IsTextOf text k) : j = k :=
  Option.some.inj ((read?_eq_some.2 hj).symm.trans (read?_eq_some.2 hk))

end Passkey.Json
