import Passkey.Cbor.Value
import Passkey.Parsed

/-!
# Reading CBOR

Any width of a head, indefinite lengths and keys of any type are read. A reader returns what it
read together with the unread rest, and the rest is shorter by construction (`Parsed`), which is
why the loops over items end. Containers and tags may nest `maxDepth` deep.

Big numbers, tags 2 and 3 over a definite byte string of at most sixteen bytes, are integers where
the plain integer types reach them, and otherwise tags over the bytes without leading zeros.
-/

namespace Passkey.Cbor

/-- The two kinds of string. -/
inductive StringKind where
  | bytes
  | text
  deriving DecidableEq, Repr

/-- The first bytes of an item, decoded. A missing length stands for an indefinite one. -/
inductive Head where
  | positive (n : Nat)
  /-- The integer `-1 - n`. -/
  | negative (n : Nat)
  | string (kind : StringKind) (length : Option Nat)
  | array (length : Option Nat)
  | map (length : Option Nat)
  | tag (number : Nat)
  | simple (n : Nat)
  | float (bits : UInt64)
  /-- The end of an indefinite item. -/
  | stop
  deriving DecidableEq, Repr

/-- A number of `width` bytes at the front of an input. -/
def readNat? (width : Nat) (input : Bytes) : Option (Consumed Nat input) :=
  if width ≤ input.length then
    some ⟨Bytes.toNat (input.take width), input.drop width, by simp⟩
  else none

/-- How many bytes the argument of a head takes, by the low five bits of its first byte. -/
def argumentWidth? (info : Nat) : Option Nat :=
  match info with
  | 24 => some 1
  | 25 => some 2
  | 26 => some 4
  | 27 => some 8
  | _ => none

/-- The head that a major type and a definite argument make. -/
def Head.ofArgument (major : Nat) (n : Nat) : Head :=
  match major with
  | 0 => .positive n
  | 1 => .negative n
  | 2 => .string .bytes (some n)
  | 3 => .string .text (some n)
  | 4 => .array (some n)
  | 5 => .map (some n)
  | 6 => .tag n
  | _ => .simple n

/-- The head that a major type makes with an indefinite length. -/
def Head.indefinite? (major : Nat) : Option Head :=
  match major with
  | 2 => some (.string .bytes none)
  | 3 => some (.string .text none)
  | 4 => some (.array none)
  | 5 => some (.map none)
  | 7 => some .stop
  | _ => none

/-- The head of the next item. -/
def readHead? : (input : Bytes) → Option (Parsed Head input)
  | [] => none
  | b :: rest =>
    let major := b.toNat / 32
    let info := b.toNat % 32
    if info < 24 then some ⟨.ofArgument major info, rest, Parsed.length_lt_cons⟩
    else if info = 31 then (Head.indefinite? major).map fun head =>
      ⟨head, rest, Parsed.length_lt_cons⟩
    else do
      let width ← argumentWidth? info
      let ⟨n, rest', h⟩ ← readNat? width rest
      let head : Head :=
        if major = 7 ∧ width = 2 then .float (FloatForm.half.widen n)
        else if major = 7 ∧ width = 4 then .float (FloatForm.single.widen n)
        else if major = 7 ∧ width = 8 then .float (UInt64.ofNat n)
        else .ofArgument major n
      return ⟨head, rest', Parsed.length_lt_cons_of_le h⟩

/-- The definite pieces up to the end of an indefinite string. Pieces may themselves be indefinite
strings of the same kind; `level` counts those that are still open inside the outermost. -/
def readPieces? (kind : StringKind) (level : Nat) (input : Bytes) :
    Option (Parsed (List Bytes) input) :=
  match readHead? input with
  | none => none
  | some ⟨head, rest, h⟩ =>
    match head with
    | .stop =>
      match level with
      | 0 => some ⟨[], rest, h⟩
      | level + 1 => (readPieces? kind level rest).map fun r =>
        ⟨r.value, r.rest, Nat.lt_trans r.shorter h⟩
    | .string other length =>
      if other ≠ kind then none
      else match length with
        | none => (readPieces? kind (level + 1) rest).map fun r =>
          ⟨r.value, r.rest, Nat.lt_trans r.shorter h⟩
        | some n =>
          if n ≤ rest.length then
            have shorter : (rest.drop n).length < input.length := by
              rw [List.length_drop]; omega
            (readPieces? kind level (rest.drop n)).map fun r =>
              ⟨rest.take n :: r.value, r.rest, Nat.lt_trans r.shorter shorter⟩
          else none
    | _ => none
termination_by input.length

/-- The pieces of a string after its head: one if the length is definite. -/
def readString? (kind : StringKind) (length : Option Nat) (input : Bytes) :
    Option (Consumed (List Bytes) input) :=
  match length with
  | some n =>
    if n ≤ input.length then some ⟨[input.take n], input.drop n, by simp⟩ else none
  | none => (readPieces? kind 0 input).map fun r => ⟨r.value, r.rest, Nat.le_of_lt r.shorter⟩

/-- Exactly `n` things in a row. -/
def readMany? {α : Type} (one : (input : Bytes) → Option (Parsed α input)) :
    (n : Nat) → (input : Bytes) → Option (Consumed (List α) input)
  | 0, input => some ⟨[], input, Nat.le_refl _⟩
  | n + 1, input =>
    match one input with
    | none => none
    | some ⟨x, rest, h⟩ => (readMany? one n rest).map fun r =>
      ⟨x :: r.value, r.rest, Nat.le_trans r.noLonger (Nat.le_of_lt h)⟩

/-- Things in a row up to the end of an indefinite container. -/
def readUntilStop? {α : Type} (one : (input : Bytes) → Option (Parsed α input))
    (input : Bytes) : Option (Consumed (List α) input) :=
  match input with
  | 0xff :: rest => some ⟨[], rest, by simp⟩
  | input =>
    match one input with
    | none => none
    | some ⟨x, rest, h⟩ => (readUntilStop? one rest).map fun r =>
      ⟨x :: r.value, r.rest, Nat.le_trans r.noLonger (Nat.le_of_lt h)⟩
termination_by input.length

/-- The contents of a container after its head. -/
def readAll? {α : Type} (one : (input : Bytes) → Option (Parsed α input))
    (length : Option Nat) (input : Bytes) : Option (Consumed (List α) input) :=
  match length with
  | some n => readMany? one n input
  | none => readUntilStop? one input

/-- Two things, the second right after the first. -/
def readPair? {α : Type} (one : (input : Bytes) → Option (Parsed α input))
    (input : Bytes) : Option (Parsed (α × α) input) :=
  match one input with
  | none => none
  | some ⟨k, rest, h⟩ => (one rest).map fun r => ⟨(k, r.value), r.rest, Nat.lt_trans r.shorter h⟩

/-- One above the greatest signed number of 128 bits. -/
def signedBound : Nat := 0x80000000000000000000000000000000

/-- The item that a big number stands for: tag 2 for `n`, tag 3 for `-1 - n`. Negative numbers
below the signed 128-bit range are refused. -/
def bigNumber? (negative : Bool) (content : Bytes) : Option Value :=
  let n := Bytes.toNat content
  if negative ∧ signedBound ≤ n then none
  else if n < 0x10000000000000000 then some (.int (if negative then -1 - n else n))
  else some (.tag (if negative then 3 else 2) (.bytes (Bytes.trim content)))

/-- The number that a simple value stands for; `undefined` reads as null. -/
def simpleValue? (n : Nat) : Option Value :=
  match n with
  | 20 => some (.bool false)
  | 21 => some (.bool true)
  | 22 => some .null
  | 23 => some .null
  | _ => none

/-- The contents of a big number, if the input continues as one under tag 2 or 3. -/
def readBigContent? (number : Nat) (input : Bytes) : Option (Consumed Bytes input) :=
  if number = 2 ∨ number = 3 then
    match readHead? input with
    | some ⟨.string .bytes (some n), rest, h⟩ =>
      if n ≤ 16 ∧ n ≤ rest.length then
        some ⟨rest.take n, rest.drop n, by rw [List.length_drop]; omega⟩
      else none
    | _ => none
  else none

/-- The next item, with at most `depth` containers and tags around one another. -/
def readItem? (depth : Nat) (input : Bytes) : Option (Parsed Value input) :=
  match readHead? input with
  | none => none
  | some ⟨head, rest, h⟩ =>
    match head with
    | .positive n => some ⟨.int n, rest, h⟩
    | .negative n => some ⟨.int (-1 - n), rest, h⟩
    | .float bits => some ⟨.float bits, rest, h⟩
    | .simple n => (simpleValue? n).map fun v => ⟨v, rest, h⟩
    | .stop => none
    | .string .bytes length => (readString? .bytes length rest).map fun r =>
      ⟨.bytes r.value.flatten, r.rest, Nat.lt_of_le_of_lt r.noLonger h⟩
    | .string .text length =>
      match readString? .text length rest with
      | none => none
      | some r => (r.value.mapM Utf8.decode?).map fun pieces =>
        ⟨.text (String.join pieces), r.rest, Nat.lt_of_le_of_lt r.noLonger h⟩
    | .array length =>
      match depth with
      | 0 => none
      | depth + 1 => (readAll? (readItem? depth) length rest).map fun r =>
        ⟨.array r.value, r.rest, Nat.lt_of_le_of_lt r.noLonger h⟩
    | .map length =>
      match depth with
      | 0 => none
      | depth + 1 => (readAll? (readPair? (readItem? depth)) length rest).map fun r =>
        ⟨.map r.value, r.rest, Nat.lt_of_le_of_lt r.noLonger h⟩
    | .tag number =>
      match readBigContent? number rest with
      | some big => (bigNumber? (number = 3) big.value).map fun v =>
        ⟨v, big.rest, Nat.lt_of_le_of_lt big.noLonger h⟩
      | none =>
        match depth with
        | 0 => none
        | depth + 1 => (readItem? depth rest).map fun r =>
          ⟨.tag number r.value, r.rest, Nat.lt_trans r.shorter h⟩

/-- How deep containers and tags may nest. -/
def maxDepth : Nat := 256

/-- The item at the front of an input and how many bytes it takes. -/
def decodePrefix? (input : Bytes) : Option (Value × Nat) :=
  (readItem? maxDepth input).map fun r => (r.value, input.length - r.rest.length)

/-- Why an input is not exactly one item. -/
inductive Defect where
  /-- There is no well-formed item at the front. -/
  | unreadable
  /-- This many bytes follow the item. -/
  | trailing (count : Nat)
  deriving DecidableEq, Repr

/-- The item that the whole input encodes. -/
def decode (input : Bytes) : Except Defect Value :=
  match readItem? maxDepth input with
  | none => .error .unreadable
  | some r => if r.rest = [] then .ok r.value else .error (.trailing r.rest.length)

/-- The byte string at the front of an input, beneath any number of tags. -/
def decodeByteString? (input : Bytes) : Option Bytes :=
  match readHead? input with
  | some ⟨.tag _, rest, _⟩ => decodeByteString? rest
  | some ⟨.string .bytes length, rest, _⟩ =>
    (readString? .bytes length rest).map (·.value.flatten)
  | _ => none
termination_by input.length

end Passkey.Cbor
