import Passkey.Json.Value
import Passkey.Parsed

/-!
# Reading JSON texts

Reads the tree of a JSON text. Brackets, literals, the shape of numbers, and the shape of escapes
are checked here; whether a string is well-formed text is checked where it is asked for. The depth
of a value is not limited.
-/

namespace Passkey.Json

/-- Whether an octet is a blank between tokens. -/
def isBlank (b : UInt8) : Bool := b == 0x20 || b == 0x0a || b == 0x09 || b == 0x0d

/-- The input without the blanks at its front. -/
def skipBlanks (input : Bytes) : Bytes := input.dropWhile isBlank

theorem length_skipBlanks_le (input : Bytes) : (skipBlanks input).length ≤ input.length :=
  (List.dropWhile_sublist _).length_le

theorem length_lt_of_skipBlanks {input rest : Bytes} {b : UInt8}
    (h : skipBlanks input = b :: rest) : rest.length < input.length := by
  have := length_skipBlanks_le input
  rw [h, List.length_cons] at this
  omega

/-- Whether an octet is a hexadecimal digit. -/
def isHexDigit (b : UInt8) : Bool := (Bytes.hexValue? (Char.ofNat b.toNat)).isSome

/-- The inside of a string up to its closing quote, which is taken off. -/
def readString? : (input : Bytes) → Option (Parsed Bytes input)
  | [] => none
  | 0x22 :: rest => some ⟨[], rest, by simp⟩
  | 0x5c :: 0x75 :: a :: b :: c :: d :: rest =>
    if [a, b, c, d].all isHexDigit then
      match readString? rest with
      | some ⟨raw, left, h⟩ =>
        some ⟨0x5c :: 0x75 :: a :: b :: c :: d :: raw, left, by simp; omega⟩
      | none => none
    else none
  | 0x5c :: letter :: rest =>
    if (ofEscape? letter).isSome then
      match readString? rest with
      | some ⟨raw, left, h⟩ => some ⟨0x5c :: letter :: raw, left, by simp; omega⟩
      | none => none
    else none
  | b :: rest =>
    if b < 0x20 ∨ b = 0x5c then none
    else
      match readString? rest with
      | some ⟨raw, left, h⟩ => some ⟨b :: raw, left, by simp; omega⟩
      | none => none

/-- Whether an octet may occur in a number. -/
def isNumberOctet (b : UInt8) : Bool :=
  isDigit b || b == 0x2d || b == 0x2b || b == 0x2e || b == 0x65 || b == 0x45

/-- An exponent: a mark, perhaps a sign, and digits. Nothing is one too. -/
def isExponent : Bytes → Bool
  | [] => true
  | mark :: rest =>
    let digits := match rest with
      | 0x2b :: digits => digits
      | 0x2d :: digits => digits
      | _ => rest
    (mark == 0x65 || mark == 0x45) && (natural? digits).isSome

/-- A fraction, a point and digits, and then an exponent. Neither need be there. -/
def isFraction : Bytes → Bool
  | 0x2e :: rest => !(rest.takeWhile isDigit).isEmpty && isExponent (rest.dropWhile isDigit)
  | rest => isExponent rest

/-- The shape of a number: perhaps a minus, digits that do not start with a needless zero, then a
fraction and an exponent. -/
def isNumber (literal : Bytes) : Bool :=
  let body := match literal with
    | 0x2d :: body => body
    | _ => literal
  let whole := body.takeWhile isDigit
  !whole.isEmpty && (whole.head? != some 0x30 || whole.length == 1)
    && isFraction (body.dropWhile isDigit)

/-- The number at the front of an input that starts with an octet of one. -/
def readNumber? (first : UInt8) (rest : Bytes) : Option (Parsed Json (first :: rest)) :=
  let literal := first :: rest.takeWhile isNumberOctet
  if isNumber literal then
    some ⟨.number literal, rest.dropWhile isNumberOctet,
      Nat.lt_succ_of_le (List.dropWhile_sublist _).length_le⟩
  else none

/-- Takes a word off the front of an input. -/
def readWord? (word : Bytes) (j : Json) (input : Bytes) : Option (Parsed Json input) :=
  if h : word ≠ [] ∧ word.length ≤ input.length ∧ input.take word.length = word then
    some ⟨j, input.drop word.length, by
      have : 0 < word.length := List.length_pos_iff.mpr h.1
      simp only [List.length_drop]; omega⟩
  else none

mutual

/-- The value at the front of an input that does not start with a blank. -/
def readValue? (input : Bytes) : Option (Parsed Json input) :=
  match input with
  | [] => none
  | first :: rest =>
    if first = 0x22 then
      match readString? rest with
      | some ⟨raw, left, h⟩ => some ⟨.string raw, left, by simp; omega⟩
      | none => none
    else if first = 0x5b then
      match readItems? true (skipBlanks rest) with
      | some ⟨items, left, h⟩ =>
        some ⟨.array items, left, by
          have := length_skipBlanks_le rest
          simp only [List.length_cons]; omega⟩
      | none => none
    else if first = 0x7b then
      match readMembers? true (skipBlanks rest) with
      | some ⟨members, left, h⟩ =>
        some ⟨.object members, left, by
          have := length_skipBlanks_le rest
          simp only [List.length_cons]; omega⟩
      | none => none
    else if first = 0x6e then readWord? (Utf8.encode "null") .null (first :: rest)
    else if first = 0x74 then readWord? (Utf8.encode "true") (.bool true) (first :: rest)
    else if first = 0x66 then readWord? (Utf8.encode "false") (.bool false) (first :: rest)
    else readNumber? first rest
termination_by (input.length, 0)
decreasing_by
  all_goals
    have := length_skipBlanks_le rest
    simp_wf
    omega

/-- The items of an array up to its closing bracket. Only before the first may it stand at once. -/
def readItems? (isFirst : Bool) (input : Bytes) : Option (Parsed (List Json) input) :=
  match input with
  | [] => none
  | first :: rest =>
    if first = 0x5d then if isFirst then some ⟨[], rest, by simp⟩ else none
    else
      match readValue? (first :: rest) with
      | none => none
      | some ⟨j, left, h⟩ =>
        match h₁ : skipBlanks left with
        | 0x5d :: last => some ⟨[j], last, Nat.lt_trans (length_lt_of_skipBlanks h₁) h⟩
        | 0x2c :: more =>
          match readItems? false (skipBlanks more) with
          | none => none
          | some ⟨items, last, h₂⟩ => some ⟨j :: items, last, by
              have := length_lt_of_skipBlanks h₁
              have := length_skipBlanks_le more
              omega⟩
        | _ => none
termination_by (input.length, 1)
decreasing_by
  · exact Prod.Lex.right _ Nat.zero_lt_one
  · have := length_lt_of_skipBlanks h₁
    have := length_skipBlanks_le more
    simp_wf
    grind

/-- The members of an object up to its closing brace. Only before the first may it stand at once. -/
def readMembers? (isFirst : Bool) (input : Bytes) : Option (Parsed (List (Bytes × Json)) input) :=
  match input with
  | [] => none
  | first :: rest =>
    if first = 0x7d then if isFirst then some ⟨[], rest, by simp⟩ else none
    else if first = 0x22 then
      match readString? rest with
      | none => none
      | some ⟨name, left, h⟩ =>
        match h₁ : skipBlanks left with
        | 0x3a :: more =>
          match readValue? (skipBlanks more) with
          | none => none
          | some ⟨j, after, h₂⟩ =>
            match h₃ : skipBlanks after with
            | 0x7d :: last => some ⟨[(name, j)], last, by
                have := length_lt_of_skipBlanks h₁
                have := length_skipBlanks_le more
                have := length_lt_of_skipBlanks h₃
                simp only [List.length_cons]
                omega⟩
            | 0x2c :: next =>
              match readMembers? false (skipBlanks next) with
              | none => none
              | some ⟨members, last, h₄⟩ => some ⟨(name, j) :: members, last, by
                  have := length_lt_of_skipBlanks h₁
                  have := length_skipBlanks_le more
                  have := length_lt_of_skipBlanks h₃
                  have := length_skipBlanks_le next
                  simp only [List.length_cons]
                  omega⟩
            | _ => none
        | _ => none
    else none
termination_by (input.length, 1)
decreasing_by
  · have := length_lt_of_skipBlanks h₁
    have := length_skipBlanks_le more
    simp_wf
    grind
  · have := length_lt_of_skipBlanks h₁
    have := length_skipBlanks_le more
    have := length_lt_of_skipBlanks h₃
    have := length_skipBlanks_le next
    simp_wf
    grind

end

/-- The value that a text consists of, with blanks around it. -/
def read? (text : Bytes) : Option Json :=
  match readValue? (skipBlanks text) with
  | some ⟨j, left, _⟩ => if skipBlanks left = [] then some j else none
  | none => none

end Passkey.Json
