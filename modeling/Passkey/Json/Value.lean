import Passkey.Text.Utf8

/-!
# JSON values

The tree behind a JSON text, close to its spelling: a string keeps its escapes and a number its
digits, so that a value which nobody asks for is never interpreted. `Json.ofText` and `Json.text?`
go between texts and strings; `Json.write` writes a tree without blanks.
-/

namespace Passkey

/-- A JSON value. -/
inductive Json where
  | null
  | bool (b : Bool)
  /-- A number as it is spelled. -/
  | number (literal : Bytes)
  /-- A string as it stands between its quotes. -/
  | string (raw : Bytes)
  | array (items : List Json)
  /-- Members in the order in which they were written, with names as they stand between quotes. -/
  | object (members : List (Bytes × Json))
  deriving Repr

namespace Json

/-! ### Strings -/

/-- The escapes of one letter: the letter and the character that it stands for. -/
def letterEscapes : List (UInt8 × UInt8) :=
  [(0x22, 0x22), (0x5c, 0x5c), (0x2f, 0x2f), (0x62, 0x08), (0x66, 0x0c), (0x6e, 0x0a),
    (0x72, 0x0d), (0x74, 0x09)]

/-- The character that a letter stands for after a backslash. -/
def ofEscape? (letter : UInt8) : Option UInt8 :=
  (letterEscapes.find? (·.1 = letter)).map (·.2)

/-- An octet of a text as it is written between quotes. Quotes, backslashes and control characters
are escaped, and nothing else is. -/
def escapeOctet (b : UInt8) : Bytes :=
  if b = 0x22 then [0x5c, 0x22]
  else if b = 0x5c then [0x5c, 0x5c]
  else if b = 0x08 then [0x5c, 0x62]
  else if b = 0x0c then [0x5c, 0x66]
  else if b = 0x0a then [0x5c, 0x6e]
  else if b = 0x0d then [0x5c, 0x72]
  else if b = 0x09 then [0x5c, 0x74]
  else if b < 0x20 then Utf8.encode "\\u00" ++ Utf8.encode (Bytes.toHex [b])
  else [b]

/-- A text as it is written between quotes. -/
def escape (text : String) : Bytes := (Utf8.encode text).flatMap escapeOctet

/-- The string that spells a text. -/
def ofText (text : String) : Json := .string (escape text)

/-- A number of four hexadecimal digits. -/
def hexUnit? (a b c d : UInt8) : Option Nat := do
  let octets ← Bytes.ofHexChars? ([a, b, c, d].map fun digit => Char.ofNat digit.toNat)
  return Bytes.toNat octets

/-- The octets of the character that two halves of a pair stand for. -/
def pairOctets (high low : Nat) : Bytes :=
  Utf8.encode (String.singleton (Char.ofNat (0x10000 + (high - 0xd800) * 0x400 + (low - 0xdc00))))

/-- Replaces the escapes of a string. A number above the first plane takes two escapes; half of
such a pair stands for nothing. -/
def unescape? : Bytes → Option Bytes
  | [] => some []
  | 0x5c :: 0x75 :: a :: b :: c :: d :: rest => do
    let unit ← hexUnit? a b c d
    if 0xdc00 ≤ unit ∧ unit < 0xe000 then none
    else if 0xd800 ≤ unit ∧ unit < 0xdc00 then
      match rest with
      | 0x5c :: 0x75 :: a :: b :: c :: d :: rest => do
        let low ← hexUnit? a b c d
        if 0xdc00 ≤ low ∧ low < 0xe000 then
          return pairOctets unit low ++ (← unescape? rest)
        else none
      | _ => none
    else return Utf8.encode (String.singleton (Char.ofNat unit)) ++ (← unescape? rest)
  | 0x5c :: letter :: rest => do
    return (← ofEscape? letter) :: (← unescape? rest)
  | b :: rest => (unescape? rest).map (b :: ·)

/-- The text that stands between quotes, if it is one. -/
def textOfRaw? (raw : Bytes) : Option String := unescape? raw >>= Utf8.decode?

/-- The text of a string. -/
def text? : Json → Option String
  | .string raw => textOfRaw? raw
  | _ => none

/-! ### Numbers and truth values -/

/-- The digits of a natural number. -/
def digits (n : Nat) : Bytes := (Nat.toDigits 10 n).map fun c => UInt8.ofNat c.toNat

/-- An integer. -/
def ofInt : Int → Json
  | .ofNat n => .number (digits n)
  | .negSucc n => .number (0x2d :: digits (n + 1))

/-- Whether an octet is a decimal digit. -/
def isDigit (b : UInt8) : Bool := 0x30 ≤ b && b ≤ 0x39

/-- The number that decimal digits spell. -/
def natural? (digits : Bytes) : Option Nat :=
  if digits ≠ [] ∧ digits.all isDigit then
    some (digits.foldl (fun n b => n * 10 + (b.toNat - 0x30)) 0)
  else none

/-- An integer that is spelled without fraction or exponent. Zero has no sign. -/
def int? : Json → Option Int
  | .number (0x2d :: digits) => do
    let n ← natural? digits
    if n = 0 then none else return -n
  | .number digits => (natural? digits).map Int.ofNat
  | _ => none

/-- A truth value. -/
def bool? : Json → Option Bool
  | .bool b => some b
  | _ => none

/-! ### Writing -/

/-- A string in its quotes. -/
def quote (raw : Bytes) : Bytes := 0x22 :: raw ++ [0x22]

mutual

/-- The octets of a value, without blanks. -/
def write : Json → Bytes
  | .null => Utf8.encode "null"
  | .bool true => Utf8.encode "true"
  | .bool false => Utf8.encode "false"
  | .number literal => literal
  | .string raw => quote raw
  | .array items => 0x5b :: writeItems items
  | .object members => 0x7b :: writeMembers members

/-- Items with commas between them, and the closing bracket. -/
def writeItems : List Json → Bytes
  | [] => [0x5d]
  | [j] => j.write ++ [0x5d]
  | j :: rest => j.write ++ 0x2c :: writeItems rest

/-- Members with commas between them, and the closing brace. -/
def writeMembers : List (Bytes × Json) → Bytes
  | [] => [0x7d]
  | [m] => writeMember m ++ [0x7d]
  | m :: rest => writeMember m ++ 0x2c :: writeMembers rest

/-- A name and its value. -/
def writeMember : Bytes × Json → Bytes
  | (name, j) => quote name ++ 0x3a :: j.write

end

/-- The text of a value. -/
def render (j : Json) : String := (Utf8.decode? j.write).getD ""

end Json

end Passkey
