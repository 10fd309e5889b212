/-!
# IPv4 addresses

An address is one number below 2^32. In an address bar it may be spelled by up to four numbers, each
in decimal, octal or hexadecimal, of which the last fills all bytes that are left.
-/

namespace Passkey.Url.Ipv4

/-- The value of a digit in a base of at most sixteen. -/
def digit? (base : Nat) (c : Char) : Option Nat :=
  let value? : Option Nat :=
    if '0' ≤ c ∧ c ≤ '9' then some (c.toNat - '0'.toNat)
    else if 'a' ≤ c ∧ c ≤ 'f' then some (c.toNat - 'a'.toNat + 10)
    else if 'A' ≤ c ∧ c ≤ 'F' then some (c.toNat - 'A'.toNat + 10)
    else none
  value?.filter (· < base)

/-- The number that digits spell, zero if there are none. -/
def numeral? (base : Nat) (digits : List Char) : Option Nat := do
  let values ← digits.mapM (digit? base)
  return values.foldl (· * base + ·) 0

/-- A number as it may stand in an address: hexadecimal after `0x`, octal after another zero. -/
def number? : List Char → Option Nat
  | [] => none
  | '0' :: 'x' :: digits | '0' :: 'X' :: digits => numeral? 16 digits
  | '0' :: c :: digits => numeral? 8 (c :: digits)
  | digits => numeral? 10 digits

/-- The labels of a name, without the empty one after a final dot. -/
def labels (name : List Char) : List (List Char) :=
  let all := name.splitOn '.'
  if all.getLast? == some [] then all.dropLast else all

/-- Whether a name has to be read as an address: its last label is a number, or looks like one. -/
def isNumeric (name : List Char) : Bool :=
  (labels name).getLast?.any fun last =>
    (!last.isEmpty && last.all Char.isDigit) || (number? last).isSome

/-- The address that numbers spell: all but the last are bytes, and the last fills the rest. -/
def ofNumbers? : (bytesLeft : Nat) → List Nat → Option Nat
  | 0, _ | _, [] => none
  | left, [n] => if n < 1 <<< (8 * left) then some n else none
  | left + 1, n :: rest => do
    let low ← ofNumbers? left rest
    if n < 256 then some ((n <<< (8 * left)) + low) else none

/-- The address that a name spells. -/
def ofName? (name : List Char) : Option UInt32 := do
  let numbers ← (labels name).mapM number?
  return UInt32.ofNat (← ofNumbers? 4 numbers)

/-- The bytes of an address. -/
def bytes (address : UInt32) : List Nat :=
  [24, 16, 8, 0].map fun shift => (address.toNat >>> shift) % 256

/-- An address as its four bytes in decimal. -/
def write (address : UInt32) : List Char :=
  (((bytes address).map Nat.repr).map String.toList).intersperse ['.'] |>.flatten

end Passkey.Url.Ipv4
