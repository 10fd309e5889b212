import Passkey.Proofs.Json.Grammar
import Passkey.Proofs.Reading

/-!
# Lists in brackets are recognized

Items of arrays and members of objects follow one another in the same way (`elements`). A reading
recognizes texts of some kind (`Recognizes`) if it takes only such texts and takes each of them,
whatever follows. Where an element is recognized in all inputs that are shorter than some length, so
are lists of elements in brackets (`Enumerates.run_enclosed`), which is the step that readers of
nested values make.
-/

namespace Passkey.Json

open Reading

/-! ### What a reading recognizes -/

/-- Of inputs that are shorter than this, the reading takes texts of such a kind. It takes every
such text off, unless what follows goes on with a number. -/
structure Recognizes {α : Type} (n : Nat) (read : Reading α) (P : Bytes → α → Prop) : Prop where
  begins : ∀ {text a}, P text a → Begins text
  sound : ∀ {input left a}, input.length < n → read.run input = some (a, left) →
    ∃ text, P text a ∧ input = text ++ left
  complete : ∀ {text left a}, (text ++ left).length < n → P text a → Stops isNumberOctet left →
    read.run (text ++ left) = some (a, left)

/-! ### Elements with commas between them -/

section Elements

variable {α : Type} {closing : UInt8} {one : Reading α} {later : Reading (List α)}
  {isFirst : Bool} {x : α} {xs : List α} {input left rest : Bytes}

/-- What is read after an element of a list: the closing bracket, or a comma and the elements that
come later. -/
def elementsAfter (closing : UInt8) (later : Reading (List α)) (x : α) (left : Bytes) :
    Option (List α × Bytes) :=
  match skipBlanks left with
  | [] => none
  | b :: rest =>
    if b = closing then some ([x], rest)
    else if b = 0x2c then (later.run (skipBlanks rest)).map fun p => (x :: p.1, p.2)
    else none

/-- How a list is read from where an element may begin. The closing bracket may come at once only
before the first. -/
def elements (closing : UInt8) (one : Reading α) (later : Reading (List α)) (isFirst : Bool)
    (input : Bytes) : Option (List α × Bytes) :=
  if input.head? = some closing then if isFirst then some ([], input.tail) else none
  else (one.run input).bind fun p => elementsAfter closing later p.1 p.2

theorem elementsAfter_closing (h : skipBlanks left = closing :: rest) :
    elementsAfter closing later x left = some ([x], rest) := by
  simp [elementsAfter, h]

theorem elementsAfter_comma (hclosing : closing ≠ 0x2c) (h : skipBlanks left = 0x2c :: rest) :
    elementsAfter closing later x left =
      (later.run (skipBlanks rest)).map fun p => (x :: p.1, p.2) := by
  simp [elementsAfter, h, hclosing.symm]

theorem elementsAfter_eq_none (hclosing : ∀ rest, skipBlanks left ≠ closing :: rest)
    (hcomma : ∀ rest, skipBlanks left ≠ 0x2c :: rest) :
    elementsAfter closing later x left = none := by
  unfold elementsAfter
  split
  · rfl
  · next b rest heq =>
    rw [if_neg, if_neg]
    · rintro rfl
      exact hcomma rest heq
    · rintro rfl
      exact hclosing rest heq

theorem elementsAfter_eq_some (hcomma : closing ≠ 0x2c) :
    elementsAfter closing later x left = some (xs, rest) ↔
      (xs = [x] ∧ skipBlanks left = closing :: rest) ∨
        ∃ more ys, xs = x :: ys ∧ skipBlanks left = 0x2c :: more ∧
          later.run (skipBlanks more) = some (ys, rest) := by
  cases hleft : skipBlanks left with
  | nil => simp [elementsAfter, hleft]
  | cons b tail =>
    by_cases hclosing : b = closing
    · subst hclosing
      rw [elementsAfter_closing hleft]
      simp [hcomma, eq_comm]
    · by_cases hb : b = 0x2c
      · subst hb
        rw [elementsAfter_comma hcomma hleft, Option.map_eq_some_iff]
        constructor
        · rintro ⟨⟨ys, last⟩, hlater, heq⟩
          cases heq
          exact .inr ⟨tail, ys, rfl, rfl, hlater⟩
        · rintro (⟨-, heq⟩ | ⟨more, ys, rfl, heq, hlater⟩)
          · exact absurd (List.cons_eq_cons.1 heq).1 hclosing
          · obtain ⟨-, rfl⟩ := List.cons_eq_cons.1 heq
            exact ⟨(ys, rest), hlater, rfl⟩
      · simp [elementsAfter, hleft, hclosing, hb]

theorem elements_eq_nil (hcomma : closing ≠ 0x2c) :
    elements closing one later isFirst input = some ([], rest) ↔
      isFirst = true ∧ input = closing :: rest := by
  unfold elements
  split
  · next h =>
    obtain ⟨tail, rfl⟩ := List.head?_eq_some_iff.1 h
    cases isFirst <;> simp
  · next h =>
    simp only [Option.bind_eq_some_iff, elementsAfter_eq_some hcomma]
    constructor
    · rintro ⟨_, -, ⟨h, -⟩ | ⟨_, _, h, -⟩⟩ <;> cases h
    · rintro ⟨-, rfl⟩
      exact absurd rfl h

theorem elements_eq_cons (hcomma : closing ≠ 0x2c) :
    elements closing one later isFirst input = some (x :: xs, rest) ↔
      input.head? ≠ some closing ∧ ∃ left, one.run input = some (x, left) ∧
        ((xs = [] ∧ skipBlanks left = closing :: rest) ∨
          ∃ more, skipBlanks left = 0x2c :: more ∧
            later.run (skipBlanks more) = some (xs, rest)) := by
  unfold elements
  split
  · next h =>
    cases isFirst <;> simp [h]
  · next h =>
    simp only [Option.bind_eq_some_iff, elementsAfter_eq_some hcomma]
    constructor
    · rintro ⟨⟨y, left⟩, hone, ⟨heq, hclose⟩ | ⟨more, ys, heq, hmore, hlater⟩⟩
      · obtain ⟨rfl, rfl⟩ := List.cons_eq_cons.1 heq
        exact ⟨h, left, hone, .inl ⟨rfl, hclose⟩⟩
      · obtain ⟨rfl, rfl⟩ := List.cons_eq_cons.1 heq
        exact ⟨h, left, hone, .inr ⟨more, hmore, hlater⟩⟩
    · rintro ⟨-, left, hone, ⟨rfl, hclose⟩ | ⟨more, hmore, hlater⟩⟩
      · exact ⟨(x, left), hone, .inl ⟨rfl, hclose⟩⟩
      · exact ⟨(x, left), hone, .inr ⟨more, xs, rfl, hmore, hlater⟩⟩

end Elements

/-! ### Lists in brackets -/

section Recognized

variable {α : Type} {n : Nat} {closing b : UInt8} {one : Reading α} {P : Bytes → α → Prop}
  {read : Bool → Reading (List α)} {isFirst : Bool} {x : α} {xs : List α} {input rest : Bytes}

namespace Recognizes

theorem skipBlanks_placed (h : Recognizes n one P) {before text : Bytes} (hbefore : Blanks before)
    (htext : P text x) (rest : Bytes) : skipBlanks (before ++ text ++ rest) = text ++ rest := by
  rw [List.append_assoc]
  exact skipBlanks_append hbefore ((h.begins htext).stops rest)

/-- An element with the blanks on both sides of it, up to what no element goes on with. -/
theorem run_placed (h : Recognizes n one P) (hblank : Stops isBlank rest)
    (hnumber : Stops isNumberOctet rest) (hlt : input.length < n) :
    (∃ left, one.run (skipBlanks input) = some (x, left) ∧ skipBlanks left = rest) ↔
      ∃ text, Placed P text x ∧ input = text ++ rest := by
  constructor
  · rintro ⟨left, hone, hleft⟩
    have hshort := Nat.lt_of_le_of_lt (length_skipBlanks_le input) hlt
    obtain ⟨text, htext, heq⟩ := h.sound hshort hone
    obtain ⟨before, hbefore, hinput⟩ := exists_blanks input
    obtain ⟨after, hafter, hrest⟩ := exists_blanks left
    refine ⟨_, .mk hbefore htext hafter, ?_⟩
    rw [hinput, heq, hrest, hleft]
    simp
  · rintro ⟨_, @⟨before, text, after, _, hbefore, htext, hafter⟩, rfl⟩
    have hskip := h.skipBlanks_placed hbefore htext (after ++ rest)
    have hshort := Nat.lt_of_le_of_lt (length_skipBlanks_le _) hlt
    simp only [List.append_assoc] at hskip hshort ⊢
    rw [hskip] at hshort ⊢
    exact ⟨after ++ rest, h.complete hshort htext (hafter.stops hnumber),
      skipBlanks_append hafter hblank⟩

end Recognizes

/-- Lists of what a reading recognizes are read up to a closing bracket. -/
structure Enumerates (n : Nat) (closing : UInt8) (P : Bytes → α → Prop) (one : Reading α)
    (read : Bool → Reading (List α)) : Prop where
  closes : closing ∈ [0x5d, 0x7d]
  recognizes : Recognizes n one P
  run_eq : ∀ isFirst input, (read isFirst).run input =
    elements closing one (read false) isFirst input

theorem closing_cases (h : closing ∈ [0x5d, 0x7d]) :
    closing ≠ 0x2c ∧ isBlank closing = false ∧ isNumberOctet closing = false := by
  simp only [List.mem_cons, List.not_mem_nil, or_false] at h
  rcases h with rfl | rfl <;> decide

namespace Enumerates

/-- An element up to the octet that comes after it. -/
theorem run_one (h : Enumerates n closing P one read) (hblank : isBlank b = false)
    (hnumber : isNumberOctet b = false) (hlt : input.length < n) :
    ((skipBlanks input).head? ≠ some closing ∧
        ∃ left, one.run (skipBlanks input) = some (x, left) ∧ skipBlanks left = b :: rest) ↔
      ∃ text, Placed P text x ∧ input = text ++ b :: rest := by
  rw [h.recognizes.run_placed (stops_cons hblank rest) (stops_cons hnumber rest) hlt]
  refine and_iff_right_of_imp ?_
  rintro ⟨_, @⟨before, text, after, _, hbefore, htext, hafter⟩, rfl⟩
  have hskip := h.recognizes.skipBlanks_placed hbefore htext (after ++ b :: rest)
  obtain ⟨c, tail, rfl, -, hc⟩ := h.recognizes.begins htext
  simp only [List.append_assoc] at hskip ⊢
  rw [hskip]
  rintro ⟨⟩
  exact hc h.closes

/-- The first element and what comes after it. -/
theorem run_cons (h : Enumerates n closing P one read) (hlt : input.length < n) :
    (read isFirst).run (skipBlanks input) = some (x :: xs, rest) ↔
      (xs = [] ∧ ∃ text, Placed P text x ∧ input = text ++ closing :: rest) ∨
        ∃ text more, Placed P text x ∧ input = text ++ 0x2c :: more ∧
          (read false).run (skipBlanks more) = some (xs, rest) := by
  obtain ⟨hcomma, hblank, hnumber⟩ := closing_cases h.closes
  rw [h.run_eq, elements_eq_cons hcomma]
  constructor
  · rintro ⟨hhead, left, hone, ⟨rfl, hclose⟩ | ⟨more, hmore, hlater⟩⟩
    · exact .inl ⟨rfl, (h.run_one hblank hnumber hlt).1 ⟨hhead, left, hone, hclose⟩⟩
    · obtain ⟨text, htext, heq⟩ :=
        (h.run_one (by decide) (by decide) hlt).1 ⟨hhead, left, hone, hmore⟩
      exact .inr ⟨text, more, htext, heq, hlater⟩
  · rintro (⟨rfl, hclose⟩ | ⟨text, more, htext, heq, hlater⟩)
    · obtain ⟨hhead, left, hone, hclose⟩ := (h.run_one hblank hnumber hlt).2 hclose
      exact ⟨hhead, left, hone, .inl ⟨rfl, hclose⟩⟩
    · obtain ⟨hhead, left, hone, hmore⟩ :=
        (h.run_one (by decide) (by decide) hlt).2 ⟨text, htext, heq⟩
      exact ⟨hhead, left, hone, .inr ⟨more, hmore, hlater⟩⟩

theorem run_nil (h : Enumerates n closing P one read) :
    (read isFirst).run (skipBlanks input) = some ([], rest) ↔
      isFirst = true ∧ ∃ blanks, Blanks blanks ∧ input = blanks ++ closing :: rest := by
  obtain ⟨hcomma, hblank, -⟩ := closing_cases h.closes
  rw [h.run_eq, elements_eq_nil hcomma]
  refine and_congr_right fun _ => ⟨fun heq => ?_, ?_⟩
  · obtain ⟨blanks, hblanks, hinput⟩ := exists_blanks input
    exact ⟨blanks, hblanks, heq ▸ hinput⟩
  · rintro ⟨blanks, hblanks, rfl⟩
    exact skipBlanks_append hblanks (stops_cons hblank rest)

/-- By induction on the elements that are left after the first. -/
theorem run_separated (h : Enumerates n closing P one read) (hlt : input.length < n) :
    (read isFirst).run (skipBlanks input) = some (x :: xs, rest) ↔
      ∃ body, Separated (Placed P) body (x :: xs) ∧ input = body ++ closing :: rest := by
  induction xs generalizing x isFirst input with
  | nil =>
    rw [h.run_cons hlt]
    constructor
    · rintro (⟨-, text, htext, rfl⟩ | ⟨text, more, -, -, hlater⟩)
      · exact ⟨text, .last htext, rfl⟩
      · exact absurd (h.run_nil.1 hlater).1 Bool.false_ne_true
    · rintro ⟨body, hbody, rfl⟩
      cases hbody with
      | last htext => exact .inl ⟨rfl, body, htext, rfl⟩
      | more htext hrest => cases hrest
  | cons y ys ih =>
    rw [h.run_cons hlt]
    constructor
    · rintro (⟨⟨⟩, -⟩ | ⟨text, more, htext, rfl, hlater⟩)
      have hshort : more.length < n := by
        simp only [List.length_append, List.length_cons] at hlt
        omega
      obtain ⟨body, hbody, rfl⟩ := (ih hshort).1 hlater
      exact ⟨_, .more htext hbody, by simp⟩
    · rintro ⟨body, hbody, rfl⟩
      cases hbody with
      | @more text body _ _ htext hrest =>
        have hshort : (body ++ closing :: rest).length < n := by
          simp only [List.length_append, List.length_cons] at hlt ⊢
          omega
        refine .inr ⟨text, body ++ closing :: rest, htext, by simp, ?_⟩
        exact (ih hshort).2 ⟨body, hrest, rfl⟩

/-- What stands in brackets is read up to the closing one. -/
theorem run_enclosed (h : Enumerates n closing P one read) (opening : UInt8)
    (hlt : input.length < n) :
    (read true).run (skipBlanks input) = some (xs, rest) ↔
      ∃ text, Enclosed (Placed P) opening closing text xs ∧ opening :: input = text ++ rest := by
  cases xs with
  | nil =>
    rw [h.run_nil]
    constructor
    · rintro ⟨-, blanks, hblanks, rfl⟩
      exact ⟨_, .none hblanks, by simp⟩
    · rintro ⟨text, hlist, heq⟩
      refine ⟨rfl, ?_⟩
      cases hlist with
      | none hblanks => exact ⟨_, hblanks, by simpa using heq⟩
      | some hbody => cases hbody
  | cons x xs =>
    rw [h.run_separated hlt]
    constructor
    · rintro ⟨body, hbody, rfl⟩
      exact ⟨_, .some hbody, by simp⟩
    · rintro ⟨text, hlist, heq⟩
      cases hlist with
      | some hbody => exact ⟨_, hbody, by simpa using heq⟩

end Enumerates

end Recognized

end Passkey.Json
