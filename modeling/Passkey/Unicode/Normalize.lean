import Passkey.Unicode.NormalizationTables

/-!
# Canonical composition

The normal form in which equivalent texts are equal: decompose every character, put combining
characters into the order of their classes, and compose what can be composed. Hangul syllables are
computed from their letters.
-/

namespace Passkey.Unicode

/-- The class of a combining character, zero for all others. -/
def combiningClass (c : Char) : Nat :=
  ((combiningClasses.find? c.toNat).bind (·.head?)).getD 0

namespace Hangul

def syllableBase : Nat := 0xac00
def leadBase : Nat := 0x1100
def vowelBase : Nat := 0x1161
/-- One below the first trailing consonant, so that no consonant is number zero. -/
def trailBase : Nat := 0x11a7
def leadCount : Nat := 19
def vowelCount : Nat := 21
def trailCount : Nat := 28

/-- The letters of a syllable. -/
def letters? (c : Char) : Option (List Char) :=
  let index := c.toNat - syllableBase
  if syllableBase ≤ c.toNat ∧ index < leadCount * vowelCount * trailCount then
    let lead := Char.ofNat (leadBase + index / (vowelCount * trailCount))
    let vowel := Char.ofNat (vowelBase + index / trailCount % vowelCount)
    let trail := index % trailCount
    some (lead :: vowel :: if trail = 0 then [] else [Char.ofNat (trailBase + trail)])
  else none

/-- The syllable of a leading consonant and a vowel, or of such a syllable and a trailing
consonant. -/
def compose? (a b : Char) : Option Char :=
  let lead := a.toNat - leadBase
  let vowel := b.toNat - vowelBase
  let syllable := a.toNat - syllableBase
  let trail := b.toNat - trailBase
  if leadBase ≤ a.toNat ∧ lead < leadCount ∧ vowelBase ≤ b.toNat ∧ vowel < vowelCount then
    some (Char.ofNat (syllableBase + (lead * vowelCount + vowel) * trailCount))
  else if syllableBase ≤ a.toNat ∧ syllable < leadCount * vowelCount * trailCount
      ∧ syllable % trailCount = 0 ∧ trailBase < b.toNat ∧ trail < trailCount then
    some (Char.ofNat (a.toNat + trail))
  else none

end Hangul

/-- Decomposes a character in at most so many steps. -/
def decomposeIn : (steps : Nat) → Char → List Char
  | 0, c => [c]
  | steps + 1, c =>
    match decompositions.find? c.toNat with
    | some parts => (parts.map Char.ofNat).flatMap (decomposeIn steps)
    | none => [c]

/-- The longest chain of decompositions. -/
def maxSteps : Nat := 4

/-- Decomposes a character. Below the first character that decomposes there is nothing to do. -/
def decompose (c : Char) : List Char :=
  if c.toNat < 0xc0 then [c] else (Hangul.letters? c).getD (decomposeIn maxSteps c)

/-- Puts a combining character before those with a greater class at the end of a text, which is
given backwards. -/
def placeBack (c : Char) (k : Nat) : List Char → List Char
  | [] => [c]
  | d :: rest => if k < combiningClass d then d :: placeBack c k rest else c :: d :: rest

/-- Puts combining characters into the order of their classes. -/
def canonicalOrder (text : List Char) : List Char :=
  let step (done : List Char) (c : Char) : List Char :=
    let k := combiningClass c
    if k = 0 then c :: done else placeBack c k done
  (text.foldl step []).reverse

/-- The character that two characters compose to. -/
def compose? (a b : Char) : Option Char :=
  match Hangul.compose? a b with
  | some c => some c
  | none =>
    let isWanted (e : CharMap.Entry) : Bool :=
      e.target == [a.toNat, b.toNat] && !compositionExclusions.contains e.range.first
    let entry := List.find? isWanted decompositions
    entry.map fun e => Char.ofNat e.range.first

/-- Composes what follows a starter. `between` are, backwards, the characters after the starter
that stay, and `last` is the class of the nearest; a character can reach the starter only past
characters of lower classes. -/
def composeFrom (starter : Char) (between : List Char) (last : Nat) : List Char → List Char
  | [] => starter :: between.reverse
  | c :: rest =>
    let k := combiningClass c
    let composed := if between.isEmpty ∨ last < k then compose? starter c else none
    match composed with
    | some p => composeFrom p between last rest
    | none =>
      if k = 0 then starter :: between.reverse ++ composeFrom c [] 0 rest
      else composeFrom starter (c :: between) k rest

/-- Composes a text in canonical order. -/
def composeAll : List Char → List Char
  | [] => []
  | c :: rest => if combiningClass c = 0 then composeFrom c [] 0 rest else c :: composeAll rest

/-- The composed normal form. -/
def normalize (text : List Char) : List Char :=
  if text.all (·.toNat < 0x80) then text
  else composeAll (canonicalOrder (text.flatMap decompose))

end Passkey.Unicode
