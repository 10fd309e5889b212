import Passkey.Idna.MappingTables
import Passkey.Idna.Punycode
import Passkey.Text.Utf8
import Passkey.Unicode.Direction
import Passkey.Unicode.Normalize

/-!
# Domain names in ASCII

A name is mapped to its usual spelling, cut into labels, and each label that is not ASCII is written
in Punycode. Labels that come in Punycode must decode to a label in usual spelling. Nothing is
asked of hyphens and lengths.
-/

namespace Passkey.Idna

/-- What a character is mapped to; nothing if it may not appear. -/
def mapChar? (c : Char) : Option (List Char) :=
  if c.toNat < 0x80 then some [c.toLower]
  else if ignored.contains c.toNat then some []
  else if disallowed.contains c.toNat then none
  else
    match replacements.find? c.toNat with
    | some target => some (target.map Char.ofNat)
    | none => some [c]

/-- A name in its usual spelling. -/
def map? (name : List Char) : Option (List Char) := do
  return Unicode.normalize (← name.mapM mapChar?).flatten

/-- The ASCII characters that may not stand in a host: those that mean something around one,
blanks and controls. -/
def isForbidden (c : Char) : Bool :=
  c.toNat ≤ 0x20 || c.toNat = 0x7f || "%#/:<>?@[\\]^|".toList.contains c

/-- Whether a label is in its usual spelling. -/
def isMapped (label : List Char) : Bool :=
  label.all (fun c => mapChar? c == some [c]) && Unicode.normalize label == label

/-- The combining class of signs that join letters. -/
def joiningClass : Nat := 9

/-- Whether the nearest character that joining does not pass over is in a set. -/
def joins (set : Char → Bool) (near : List Char) : Bool :=
  (near.find? fun c => set c || !Unicode.transparent.contains c.toNat).any set

/-- Whether invisible joiners stand only where they change how letters are written: after a sign
that joins, or, for the one that separates, between letters that would join. `before` are the
characters before, backwards. -/
def joinersFit (before : List Char) : List Char → Bool
  | [] => true
  | c :: rest =>
    let fits : Bool :=
      if c = '\u200c' ∨ c = '\u200d' then
        before.head?.any (Unicode.combiningClass · == joiningClass)
          || (c = '\u200c' && !before.isEmpty
            && joins (fun d => Unicode.leftJoining.contains d.toNat
              || Unicode.dualJoining.contains d.toNat) before
            && joins (fun d => Unicode.rightJoining.contains d.toNat
              || Unicode.dualJoining.contains d.toNat) rest)
      else true
    fits && joinersFit (c :: before) rest

/-- Whether a label may appear: no forbidden character, no mark at the start, and joiners where
they fit. -/
def isValid (label : List Char) : Bool :=
  !label.any isForbidden
    && !(label.head?.any fun c => Unicode.marks.contains c.toNat)
    && joinersFit [] label

/-- Marks a label that is written in Punycode. -/
def acePrefix : List Char := "xn--".toList

/-- Whether a label is ASCII. -/
def isAscii (label : List Char) : Bool := label.all (·.toNat < 0x80)

/-- A label in usual spelling as its characters, Punycode undone. -/
def labelChars? (label : List Char) : Option (List Char) :=
  if acePrefix.isPrefixOf label then do
    let body := label.drop acePrefix.length
    if !isAscii body || body.isEmpty || body.getLast? == some '-' then none
    let decoded ← Punycode.decode? body
    if isMapped decoded && !decoded.contains '.' && isValid decoded then some decoded else none
  else if isValid label then some label
  else none

/-- A label in ASCII. -/
def labelAscii (label : List Char) : List Char :=
  if isAscii label then label else acePrefix ++ Punycode.encode label

/-- Whether every label keeps to one direction, where some character is written from right to
left. -/
def directionsHold (labels : List (List Char)) : Bool :=
  !(labels.any (·.any fun c => (Unicode.Direction.ofChar c).isRightToLeft))
    || labels.all Unicode.Direction.holds

/-- The ASCII form of a domain name that is given in UTF-8. -/
def toAscii? (name : Bytes) : Option (List Char) := do
  let mapped ← map? (← Utf8.decode? name).toList
  let labels := mapped.splitOn '.'
  let chars ← labels.mapM labelChars?
  if directionsHold chars then
    some ((labels.map labelAscii).intersperse ['.']).flatten
  else none

end Passkey.Idna
