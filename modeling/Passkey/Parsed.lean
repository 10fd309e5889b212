import Passkey.Bytes

/-!
# Results of readers

A reader takes something off the front of a byte string. Its result carries the unread rest and a
proof that nothing was added to it, which is what the loops over inputs recurse on.
-/

namespace Passkey

/-- Something read off the front of an input, and what is left of it. -/
structure Parsed (α : Type) (input : Bytes) where
  value : α
  rest : Bytes
  shorter : rest.length < input.length

/-- As `Parsed`, for a reader that may consume nothing. -/
structure Consumed (α : Type) (input : Bytes) where
  value : α
  rest : Bytes
  noLonger : rest.length ≤ input.length

namespace Parsed

variable {b : UInt8} {rest rest' : Bytes}

theorem length_lt_cons : rest.length < (b :: rest).length :=
  Nat.lt_succ_self _

theorem length_lt_cons_of_le (h : rest'.length ≤ rest.length) :
    rest'.length < (b :: rest).length :=
  Nat.lt_succ_of_le h

theorem length_drop_lt_cons (n : Nat) : (rest.drop n).length < (b :: rest).length :=
  length_lt_cons_of_le (by simp)

theorem length_drop_lt_cons_of_lt (n : Nat) (h : rest'.length < rest.length) :
    (rest'.drop n).length < (b :: rest).length := by
  rw [List.length_drop, List.length_cons]
  omega

end Parsed

end Passkey
