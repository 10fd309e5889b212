import Passkey.Proofs.Json.Recognition

/-!
# Values are read as they were written

A tree that has a spelling is read back from what is written for it: its numbers look like numbers
and its strings and names can stand between quotes. What is written for a tree is a text of it, and
the texts of a value are what it is read from.
-/

namespace Passkey.Json

/-! ### Lists -/

section Lists

variable {α : Type} {opening closing : UInt8} {write : α → Bytes} {writeAll : List α → Bytes}

/-- How lists in brackets are written: elements with commas between them, up to a closing bracket.
-/
structure Joins (closing : UInt8) (write : α → Bytes) (writeAll : List α → Bytes) : Prop where
  nil : writeAll [] = [closing]
  last : ∀ x, writeAll [x] = write x ++ [closing]
  more : ∀ x y xs, writeAll (x :: y :: xs) = write x ++ 0x2c :: writeAll (y :: xs)

theorem joins_items : Joins 0x5d Json.write writeItems where
  nil := by rw [writeItems]
  last := fun j => by rw [writeItems]
  more := fun j k items => by simp [writeItems]

theorem joins_members : Joins 0x7d writeMember writeMembers where
  nil := by rw [writeMembers]
  last := fun m => by rw [writeMembers]
  more := fun m k members => by simp [writeMembers]

variable {P : Bytes → α → Prop} {x : α} {xs : List α}

/-- Nothing is written around a text. -/
theorem placed_self {text : Bytes} {a : α} (h : P text a) : Placed P text a := by
  simpa using Placed.mk blanks_nil h blanks_nil

theorem Joins.separated (h : Joins closing write writeAll) (hwrite : ∀ y ∈ x :: xs, P (write y) y) :
    ∃ body, Separated (Placed P) body (x :: xs) ∧ writeAll (x :: xs) = body ++ [closing] := by
  obtain ⟨hx, hxs⟩ := List.forall_mem_cons.1 hwrite
  induction xs generalizing x with
  | nil => exact ⟨_, .last (placed_self hx), h.last x⟩
  | cons y ys ih =>
    obtain ⟨hy, hys⟩ := List.forall_mem_cons.1 hxs
    obtain ⟨body, hbody, heq⟩ := ih hxs hy hys
    exact ⟨_, .more (placed_self hx) hbody, by rw [h.more, heq]; simp⟩

theorem Joins.enclosed (h : Joins closing write writeAll) (hwrite : ∀ x ∈ xs, P (write x) x) :
    Enclosed (Placed P) opening closing (opening :: writeAll xs) xs := by
  cases xs with
  | nil =>
    rw [h.nil]
    exact .none blanks_nil
  | cons x xs =>
    obtain ⟨body, hbody, heq⟩ := h.separated hwrite
    rw [heq]
    exact .some hbody

end Lists

/-! ### Values -/

/-- Values that have a spelling. -/
inductive Spelled : Json → Prop where
  | null : Spelled .null
  | bool (b : Bool) : Spelled (.bool b)
  | number {literal : Bytes} (shape : isNumber literal = true)
    (octets : literal.all isNumberOctet = true) : Spelled (.number literal)
  | string {raw : Bytes} (quotable : Quotable raw) : Spelled (.string raw)
  | array {items : List Json} (spelled : ∀ j ∈ items, Spelled j) : Spelled (.array items)
  | object {members : List (Bytes × Json)} (quotable : ∀ m ∈ members, Quotable m.1)
    (spelled : ∀ m ∈ members, Spelled m.2) : Spelled (.object members)

/-- By induction on the tree, with the elements of a list written one after the other. -/
theorem Spelled.isTextOf {j : Json} (h : j.Spelled) : IsTextOf j.write j := by
  induction h with
  | null => exact .null
  | bool b =>
    cases b with
    | true => exact .true
    | false => exact .false
  | number shape octets => exact .number (isNumber_iff.1 shape)
  | string quotable => exact .string (quotable_iff.1 quotable)
  | array spelled ih => exact .array (joins_items.enclosed ih)
  | object quotable spelled ih =>
    refine .object (joins_members.enclosed fun m hm => ?_)
    obtain ⟨name, j⟩ := m
    simpa [writeMember, quote] using
      Labelled.mk (quotable_iff.1 (quotable _ hm)) blanks_nil blanks_nil (ih _ hm)

/-- A value that has a spelling is read from it. -/
theorem read?_write {j : Json} (h : j.Spelled) : read? j.write = some j :=
  read?_eq_some.2 (placed_self h.isTextOf)

end Passkey.Json
