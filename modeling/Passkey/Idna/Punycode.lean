/-!
# Punycode

Writes any label in ASCII: first its ASCII characters, then, in rising order, where each of the
others is to be inserted, as differences in digits of base 36 whose weights adapt to the label.
-/

namespace Passkey.Idna.Punycode

/-- The digit for a number below 36. -/
def digit (n : Nat) : Char :=
  if n < 26 then Char.ofNat ('a'.toNat + n) else Char.ofNat ('0'.toNat + (n - 26))

/-- The number that a digit of either case stands for. -/
def value? (c : Char) : Option Nat :=
  if 'a' ≤ c ∧ c ≤ 'z' then some (c.toNat - 'a'.toNat)
  else if 'A' ≤ c ∧ c ≤ 'Z' then some (c.toNat - 'A'.toNat)
  else if '0' ≤ c ∧ c ≤ '9' then some (c.toNat - '0'.toNat + 26)
  else none

/-- The least digit that does not end a number at this place. -/
def threshold (place bias : Nat) : Nat :=
  if place ≤ bias then 1 else min 26 (place - bias)

theorem threshold_pos (place bias : Nat) : 0 < threshold place bias := by
  unfold threshold; split <;> omega

/-- Halves a difference by steps of 35 until it is small, and counts the places. -/
def shrink (delta places : Nat) : Nat :=
  if 455 < delta then shrink (delta / 35) (places + 36) else places + 36 * delta / (delta + 38)
termination_by delta
decreasing_by omega

/-- The bias after a difference, where the label now has `count` characters. -/
def adapt (delta count : Nat) (isFirst : Bool) : Nat :=
  let start := if isFirst then delta / 700 else delta / 2
  shrink (start + start / count) 0

/-- The first character that is not ASCII. -/
def firstExtended : Nat := 0x80

/-- The bias at the start. -/
def initialBias : Nat := 72

/-- The bits of a number in the digits that the bias asks for. -/
def writeNumber (bias place n : Nat) : List Char :=
  let t := threshold place bias
  if n < t then [digit n]
  else digit (t + (n - t) % (36 - t)) :: writeNumber bias (place + 36) ((n - t) / (36 - t))
termination_by n
decreasing_by
  have := threshold_pos place bias
  exact Nat.lt_of_le_of_lt (Nat.div_le_self _ _) (by omega)

/-- Writing in progress. -/
structure Writer where
  next : Nat
  delta : Nat
  bias : Nat
  handled : Nat
  output : List Char

/-- Passes over a character while the insertions of `code` are written. -/
def Writer.pass (basic code : Nat) (w : Writer) (c : Char) : Writer :=
  if c.toNat < code then { w with delta := w.delta + 1 }
  else if c.toNat = code then
    { w with
      delta := 0
      bias := adapt w.delta (w.handled + 1) (w.handled == basic)
      handled := w.handled + 1
      output := w.output ++ writeNumber w.bias 36 w.delta }
  else w

/-- Writes the insertions of a character. -/
def Writer.insertions (basic : Nat) (label : List Char) (w : Writer) (code : Nat) : Writer :=
  let start := { w with delta := w.delta + (code - w.next) * (w.handled + 1) }
  let w := label.foldl (Writer.pass basic code) start
  { w with delta := w.delta + 1, next := code + 1 }

/-- A label in ASCII. -/
def encode (label : List Char) : List Char :=
  let basic := label.filter (·.toNat < firstExtended)
  let codes := ((label.map Char.toNat).filter (firstExtended ≤ ·)).eraseDups.mergeSort
  let start : Writer :=
    ⟨firstExtended, 0, initialBias, basic.length, if basic.isEmpty then [] else basic ++ ['-']⟩
  (codes.foldl (Writer.insertions basic.length label) start).output

/-- Reads a number off the front of digits: its value on top of `n`, and the rest. -/
def readNumber? (bias place weight n : Nat) :
    (digits : List Char) → Option (Nat × { rest : List Char // rest.length < digits.length })
  | [] => none
  | c :: digits => do
    let d ← value? c
    let t := threshold place bias
    let n := n + d * weight
    if d < t then return (n, ⟨digits, by simp⟩)
    else
      let (n, ⟨rest, h⟩) ← readNumber? bias (place + 36) (weight * (36 - t)) n digits
      return (n, ⟨rest, Nat.lt_succ_of_lt h⟩)

/-- Makes the insertions that digits spell. -/
def insertAll? (next place bias : Nat) (isFirst : Bool) (label : List Char)
    (digits : List Char) : Option (List Char) :=
  match digits with
  | [] => some label
  | c :: digits =>
    match readNumber? bias 36 1 place (c :: digits) with
    | none => none
    | some (n, ⟨rest, _⟩) =>
      let count := label.length + 1
      let code := next + n / count
      let place' := n % count
      if code.isValidChar then
        let inserted := label.take place' ++ Char.ofNat code :: label.drop place'
        insertAll? code (place' + 1) (adapt (n - place) count isFirst) false inserted rest
      else none
termination_by digits.length
decreasing_by assumption

/-- The label that ASCII spells. The last hyphen, unless it comes first, ends the characters that
stand for themselves. -/
def decode? (text : List Char) : Option (List Char) :=
  let digits := (text.reverse.takeWhile (· ≠ '-')).reverse
  let basic := text.take (text.length - digits.length - 1)
  if basic.any (firstExtended ≤ ·.toNat) then none
  else if basic.isEmpty then insertAll? firstExtended 0 initialBias true [] text
  else insertAll? firstExtended 0 initialBias true basic digits

end Passkey.Idna.Punycode
