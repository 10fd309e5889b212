import Passkey.Url.Ipv4

/-!
# IPv6 addresses

An address is eight groups of sixteen bits, written in hexadecimal with colons between them. Two
colons stand once for groups that are zero, and the last two groups may be written as an IPv4
address.
-/

namespace Passkey.Url.Ipv6

/-- How many groups there are. -/
def groupCount : Nat := 8

/-- A group of one to four hexadecimal digits. -/
def group? (digits : List Char) : Option UInt16 :=
  if digits.isEmpty ∨ 4 < digits.length then none
  else (Ipv4.numeral? 16 digits).map UInt16.ofNat

/-- A byte in decimal without zeros in front. -/
def byte? (digits : List Char) : Option Nat :=
  if digits.isEmpty ∨ (digits.head? = some '0' ∧ 1 < digits.length) then none
  else (Ipv4.numeral? 10 digits).filter (· < 256)

/-- The two groups that four bytes in decimal fill. -/
def embedded? (text : List Char) : Option (List UInt16) := do
  match ← (text.splitOn '.').mapM byte? with
  | [a, b, c, d] => some [UInt16.ofNat (a * 256 + b), UInt16.ofNat (c * 256 + d)]
  | _ => none

/-- Groups with colons between them, none if there is no text. Only at the end of an address may an
IPv4 address stand. -/
def groups? (atEnd : Bool) (text : List Char) : Option (List UInt16) :=
  if text.isEmpty then some []
  else
    let parts := text.splitOn ':'
    let last := parts.getLast?.getD []
    if atEnd && last.contains '.' then do
      return (← parts.dropLast.mapM group?) ++ (← embedded? last)
    else parts.mapM group?

/-- Cuts a text at the first two colons. -/
def cut? : List Char → Option (List Char × List Char)
  | ':' :: ':' :: rest => some ([], rest)
  | c :: rest => (cut? rest).map fun (before, after) => (c :: before, after)
  | [] => none

/-- The address that a text spells. Two colons stand for one group at least. -/
def ofText? (text : List Char) : Option (List UInt16) := do
  match cut? text with
  | none =>
    let groups ← groups? true text
    if groups.length = groupCount then some groups else none
  | some (before, after) =>
    let before ← groups? false before
    let after ← groups? true after
    let known := before.length + after.length
    if known < groupCount then some (before ++ List.replicate (groupCount - known) 0 ++ after)
    else none

/-- A group without zeros in front. -/
def writeGroup (g : UInt16) : List Char := Nat.toDigits 16 g.toNat

/-- Groups with colons between them. -/
def writeGroups (groups : List UInt16) : List Char :=
  ((groups.map writeGroup).intersperse [':']).flatten

/-- How many zeros a list starts with. -/
def leadingZeros (groups : List UInt16) : Nat := (groups.takeWhile (· == 0)).length

/-- Where the first of the longest runs of zeros starts, and how long it is. -/
def zeroRun (groups : List UInt16) : Nat × Nat :=
  let step (best : Nat × Nat) (start : Nat) : Nat × Nat :=
    let length := leadingZeros (groups.drop start)
    if best.2 < length then (start, length) else best
  (List.range groups.length).foldl step (0, 0)

/-- An address as text: the first of the longest runs of two zeros or more is left out. -/
def write (groups : List UInt16) : List Char :=
  let (start, length) := zeroRun groups
  if length < 2 then writeGroups groups
  else writeGroups (groups.take start) ++ [':', ':'] ++ writeGroups (groups.drop (start + length))

end Passkey.Url.Ipv6
