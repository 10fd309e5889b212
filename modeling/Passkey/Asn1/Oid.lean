import Passkey.Asn1.Der

/-!
# Object identifiers

An identifier is kept by the octets of its encoding, so two are equal exactly if they are encoded
alike; `arcs` and `toString` give the numbers behind them.
-/

namespace Passkey

/-- An object identifier by its content octets. -/
structure Oid where
  octets : Bytes
  deriving DecidableEq, Repr

namespace Oid

/-- The longest encoding. -/
def maxOctets : Nat := 39

/-- The base-128 digits of a number, most significant first, all but the last marked. -/
def arcOctets (n : Nat) : Bytes :=
  if n < 128 then [UInt8.ofNat n]
  else (arcOctets (n / 128)).map (· ||| 0x80) ++ [UInt8.ofNat (n % 128)]
termination_by n
decreasing_by omega

/-- The identifier with these numbers. -/
def ofArcs : List Nat → Oid
  | first :: second :: rest => ⟨arcOctets (first * 40 + second) ++ rest.flatMap arcOctets⟩
  | _ => ⟨[]⟩

/-- The numbers after the first octet. The state is the number begun and its octets so far. A
number takes at most five octets, the fifth at most 15; nothing may be left unfinished. -/
def laterArcs? (number count : Nat) : Bytes → Option (List Nat)
  | [] => if count = 0 then some [] else none
  | b :: rest =>
    let number := (number * 128 + b.toNat % 128) % 0x100000000
    if count ≥ 4 ∧ b ≥ 0x10 then none
    else if b ≥ 0x80 then laterArcs? number (count + 1) rest
    else (laterArcs? 0 0 rest).map (number :: ·)

/-- The numbers of an encoding. The first octet holds the first two. -/
def arcsOfOctets? : Bytes → Option (List Nat)
  | [] => none
  | root :: rest =>
    if root < 120 then
      (laterArcs? 0 0 rest).map fun arcs => root.toNat / 40 :: root.toNat % 40 :: arcs
    else none

/-- The numbers of the identifier. -/
def arcs (o : Oid) : List Nat := (arcsOfOctets? o.octets).getD []

/-- Reads an identifier of at least three numbers. -/
def ofOctets? (octets : Bytes) : Option Oid :=
  if 3 ≤ octets.length ∧ octets.length ≤ maxOctets ∧ (arcsOfOctets? octets).isSome then
    some ⟨octets⟩
  else none

/-- The numbers with dots between them. -/
protected def toString (o : Oid) : String := ".".intercalate (o.arcs.map toString)

/-- Reads numbers with dots between them: at least three, the first below 3, the second below 40. -/
def ofText? (text : String) : Option Oid := do
  let part (digits : List Char) : Option Nat :=
    if digits ≠ [] ∧ digits.all Char.isDigit ∧ (digits.head? ≠ some '0' ∨ digits.length = 1) then
      some (digits.foldl (fun n c => n * 10 + (c.toNat - '0'.toNat)) 0)
    else none
  let arcs ← (text.toList.splitOn '.').mapM part
  match arcs with
  | first :: second :: _ :: _ =>
    let oid := ofArcs arcs
    if first < 3 ∧ second < 40 ∧ arcs.all (· < 0x100000000) ∧ oid.octets.length ≤ maxOctets then
      some oid
    else none
  | _ => none

/-- The element that holds an identifier. -/
def write (o : Oid) : Bytes := Der.tlv Der.Tag.objectIdentifier o.octets

end Oid

/-- The identifier in an element. -/
def Der.Element.oid? (e : Der.Element) : Option Oid :=
  e.content? Der.Tag.objectIdentifier >>= Oid.ofOctets?

end Passkey
