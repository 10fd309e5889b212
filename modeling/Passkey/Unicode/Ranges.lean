/-!
# Sets and maps of characters

A set of characters is kept as ranges of their numbers, a map as ranges with what they are mapped
to. Tables of standards are written as text and read once: numbers are hexadecimal, a hyphen stands
between the ends of a range, and what a range is mapped to comes after a colon if it is the same for
the whole range and after a plus sign if it rises along the range.
-/

namespace Passkey.Unicode

/-- A range of character numbers, both ends included. -/
structure Range where
  first : Nat
  last : Nat
  deriving DecidableEq, Repr

/-- A set of characters by ranges in rising order. -/
abbrev Ranges := List Range

/-- A range and what its characters are mapped to. -/
structure CharMap.Entry where
  range : Range
  /-- Whether the target rises along the range. -/
  rising : Bool
  target : List Nat
  deriving DecidableEq, Repr

/-- A map from characters to lists of numbers, by ranges in rising order. -/
abbrev CharMap := List CharMap.Entry

/-! ### Reading tables -/

/-- The value of a hexadecimal digit, in lowercase. -/
def hexDigitValue (c : Char) : Nat :=
  if c.isDigit then c.toNat - '0'.toNat else c.toNat - 'a'.toNat + 10

/-- The number that hexadecimal digits spell. -/
def hexNumber (digits : List Char) : Nat :=
  digits.foldl (fun n c => n * 16 + hexDigitValue c) 0

/-- The words of a text. -/
def words (text : List Char) : List (List Char) :=
  (text.splitBy fun a b => !a.isWhitespace && !b.isWhitespace).filter fun word =>
    !word.any Char.isWhitespace

/-- A range as it is written in a table. -/
def Range.ofWord (word : List Char) : Range :=
  let first := word.takeWhile (· ≠ '-')
  match word.dropWhile (· ≠ '-') with
  | [] => ⟨hexNumber first, hexNumber first⟩
  | _ :: last => ⟨hexNumber first, hexNumber last⟩

/-- Reads the table of a set. -/
def Ranges.ofText (text : String) : Ranges := (words text.toList).map Range.ofWord

/-- An entry as it is written in a table. -/
def CharMap.Entry.ofWord (word : List Char) : CharMap.Entry :=
  let isMark (c : Char) : Bool := c == ':' || c == '+'
  let target := word.dropWhile (!isMark ·)
  ⟨Range.ofWord (word.takeWhile (!isMark ·)), target.head? == some '+',
    ((target.drop 1).splitOn '.').map hexNumber⟩

/-- Reads the table of a map. -/
def CharMap.ofText (text : String) : CharMap := (words text.toList).map CharMap.Entry.ofWord

/-! ### Looking up -/

/-- Whether a number is in one of the ranges. They rise, so the search ends at the first that
starts above it. -/
def Ranges.contains : Ranges → Nat → Bool
  | [], _ => false
  | r :: rest, n => if n < r.first then false else n ≤ r.last || contains rest n

/-- What a number in the range of an entry is mapped to. -/
def CharMap.Entry.targetOf (e : CharMap.Entry) (n : Nat) : List Nat :=
  if e.rising then e.target.map (· + (n - e.range.first)) else e.target

/-- What a number is mapped to. -/
def CharMap.find? : CharMap → Nat → Option (List Nat)
  | [], _ => none
  | e :: rest, n =>
    if n < e.range.first then none
    else if n ≤ e.range.last then some (e.targetOf n)
    else find? rest n

end Passkey.Unicode
