import Passkey.Parsed

/-!
# DER elements

The tag-length-value layer of the distinguished encoding: one element has one spelling, because a
length must take the fewest octets. An element's content stays bytes; the readers below give it a
type on demand. Structures are read by cutting a content into elements (`elements?`) and matching
on the list.
-/

namespace Passkey.Der

/-- A tag and its content. -/
structure Element where
  tag : UInt8
  content : Bytes
  deriving DecidableEq, Repr

/-! ### Tags, each by its octet -/

namespace Tag

def boolean : UInt8 := 0x01
def integer : UInt8 := 0x02
def bitString : UInt8 := 0x03
def octetString : UInt8 := 0x04
def null : UInt8 := 0x05
def objectIdentifier : UInt8 := 0x06
def enumerated : UInt8 := 0x0a
def utf8String : UInt8 := 0x0c
def printableString : UInt8 := 0x13
def teletexString : UInt8 := 0x14
def ia5String : UInt8 := 0x16
def utcTime : UInt8 := 0x17
def generalizedTime : UInt8 := 0x18
def sequence : UInt8 := 0x30
def set : UInt8 := 0x31

/-- A context-specific tag around another element or over several. -/
def context (number : UInt8) : UInt8 := 0xa0 + number

/-- A context-specific tag in place of a primitive one. -/
def contextPrimitive (number : UInt8) : UInt8 := 0x80 + number

/-- The universal types that are understood, beside which every type of the other classes is. -/
def universal : List UInt8 :=
  [boolean, integer, bitString, octetString, null, objectIdentifier, 0x09, enumerated, utf8String,
    0x12, printableString, teletexString, 0x15, ia5String, utcTime, generalizedTime, 0x1a, 0x1e,
    sequence, set]

/-- Whether an octet is a tag that may appear. Tags of more than one octet may not. -/
def isKnown (tag : UInt8) : Bool :=
  universal.contains tag || (tag ≥ 0x40 && tag &&& 0x1f != 0x1f)

end Tag

/-- The longest content, and the longest input, as a number of octets. -/
def maxLength : Nat := 0xfffffff

/-- The length octets of a content: one below 128, otherwise a count and the fewest octets. -/
def lengthOctets (n : Nat) : Bytes :=
  if n < 0x80 then [UInt8.ofNat n]
  else
    let octets := Bytes.trim (Bytes.ofNat 8 n)
    UInt8.ofNat (0x80 + octets.length) :: octets

/-- An element's octets. -/
def tlv (tag : UInt8) (content : Bytes) : Bytes := tag :: lengthOctets content.length ++ content

/-- An element's octets. -/
def Element.write (e : Element) : Bytes := tlv e.tag e.content

/-- The length at the front of an input, if it is written in the fewest octets, at most four. -/
def readLength? : (input : Bytes) → Option (Parsed Nat input)
  | [] => none
  | first :: rest =>
    if first < 0x80 then some ⟨first.toNat, rest, Parsed.length_lt_cons⟩
    else
      let count := first.toNat - 0x80
      let n := Bytes.toNat (rest.take count)
      if 1 ≤ count ∧ count ≤ 4 ∧ count ≤ rest.length ∧ n ≤ maxLength
          ∧ lengthOctets n = first :: rest.take count then
        some ⟨n, rest.drop count, Parsed.length_drop_lt_cons count⟩
      else none

/-- The element at the front of an input. -/
def readElement? : (input : Bytes) → Option (Parsed Element input)
  | [] => none
  | tag :: rest =>
    if Tag.isKnown tag then
      match readLength? rest with
      | none => none
      | some ⟨n, body, h⟩ =>
        if n ≤ body.length then
          some ⟨⟨tag, body.take n⟩, body.drop n, Parsed.length_drop_lt_cons_of_lt n h⟩
        else none
    else none

/-- The elements that fill a content. -/
def elements? (content : Bytes) : Option (List Element) :=
  match content with
  | [] => some []
  | b :: bs =>
    match readElement? (b :: bs) with
    | none => none
    | some ⟨e, rest, _⟩ => (elements? rest).map (e :: ·)
termination_by content.length
decreasing_by assumption

/-- The one element that an input consists of. An input that is too long is not read at all. -/
def element? (input : Bytes) : Option Element :=
  if input.length ≤ maxLength then
    match readElement? input with
    | some ⟨e, [], _⟩ => some e
    | _ => none
  else none

/-- The content of an element with this tag. -/
def Element.content? (tag : UInt8) (e : Element) : Option Bytes :=
  if e.tag = tag then some e.content else none

/-- The members of a sequence. -/
def Element.sequence? (e : Element) : Option (List Element) :=
  e.content? Tag.sequence >>= elements?

/-- The members of a set, in the order in which they were written. -/
def Element.set? (e : Element) : Option (List Element) :=
  e.content? Tag.set >>= elements?

/-- Whether octets are the shortest form of a signed integer. -/
def isMinimalInteger : Bytes → Bool
  | [] => false
  | [_] => true
  | a :: b :: _ => !(a = 0x00 && b < 0x80) && !(a = 0xff && b ≥ 0x80)

/-- The octets of an integer. -/
def Element.integer? (e : Element) : Option Bytes := do
  let octets ← e.content? Tag.integer
  if isMinimalInteger octets then some octets else none

/-- The value of an integer that is not negative. -/
def Element.natural? (e : Element) : Option Nat := do
  let octets ← e.integer?
  if octets.headD 0 < 0x80 then some (Bytes.toNat octets) else none

/-- A truth value: all bits clear or all set. -/
def Element.boolean? (e : Element) : Option Bool :=
  match e.content? Tag.boolean with
  | some [0x00] => some false
  | some [0xff] => some true
  | _ => none

/-- The content of an octet string. -/
def Element.octetString? (e : Element) : Option Bytes := e.content? Tag.octetString

/-- A string of bits: the octets that hold it and how many bits of the last are not used. -/
structure BitString where
  unused : Nat
  octets : Bytes
  deriving DecidableEq, Repr

/-- Reads a bit string from a content, whatever its tag. -/
def BitString.ofContent? : Bytes → Option BitString
  | [] => none
  | unused :: octets =>
    if unused ≤ 7 ∧ (unused = 0 ∨ octets ≠ []) then some ⟨unused.toNat, octets⟩ else none

/-- The bit string in an element. -/
def Element.bitString? (e : Element) : Option BitString :=
  e.content? Tag.bitString >>= BitString.ofContent?

/-! ### Writing -/

/-- A sequence of elements that are already written. -/
def sequence (members : List Bytes) : Bytes := tlv Tag.sequence members.flatten

/-- An octet string. -/
def octetString (content : Bytes) : Bytes := tlv Tag.octetString content

/-- A bit string that fills its octets. -/
def bitString (octets : Bytes) : Bytes := tlv Tag.bitString (0 :: octets)

/-- A non-negative integer given by its octets, most significant first. -/
def unsigned (octets : Bytes) : Bytes :=
  match Bytes.trim octets with
  | [] => tlv Tag.integer [0]
  | b :: bs => tlv Tag.integer (if b < 0x80 then b :: bs else 0 :: b :: bs)

/-- A truth value. -/
def boolean (b : Bool) : Bytes := tlv Tag.boolean [if b then 0xff else 0x00]

end Passkey.Der
