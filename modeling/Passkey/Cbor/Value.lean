import Passkey.Cbor.Float
import Passkey.Text.Utf8

/-!
# CBOR data items

The tree that a CBOR item stands for, and its written form. Map entries keep the order in which
they were written and may repeat a key; a look-up finds the first. Numbers are written in the
shortest form that holds them and every length is definite.
-/

namespace Passkey.Cbor

/-- A data item. -/
inductive Value where
  /-- An integer between `-2 ^ 64` and `2 ^ 64 - 1`. -/
  | int (n : Int)
  | bytes (content : Bytes)
  | text (content : String)
  /-- A floating-point number by the bits of its 64-bit form. -/
  | float (bits : UInt64)
  | bool (b : Bool)
  | null
  | tag (number : Nat) (content : Value)
  | array (items : List Value)
  | map (entries : List (Value × Value))
  deriving Repr

/-- The entries of a map, in the order in which they were written. -/
abbrev Entries := List (Value × Value)

/-- Whether an item is this integer. -/
def Value.isInt (n : Int) : Value → Bool
  | .int m => m = n
  | _ => false

/-- Whether an item is this text. -/
def Value.isText (s : String) : Value → Bool
  | .text t => t = s
  | _ => false

/-- The integer that an item holds. -/
def Value.int? : Value → Option Int
  | .int n => some n
  | _ => none

/-- The byte string that an item holds. -/
def Value.bytes? : Value → Option Bytes
  | .bytes bs => some bs
  | _ => none

/-- The text that an item holds. -/
def Value.text? : Value → Option String
  | .text s => some s
  | _ => none

/-- The elements of an array. -/
def Value.array? : Value → Option (List Value)
  | .array items => some items
  | _ => none

/-- What the first entry with this integer key holds. -/
def Entries.atInt? (entries : Entries) (key : Int) : Option Value :=
  (entries.find? (·.1.isInt key)).map (·.2)

/-- What the first entry with this text key holds. -/
def Entries.atText? (entries : Entries) (key : String) : Option Value :=
  (entries.find? (·.1.isText key)).map (·.2)

/-! ### Writing -/

/-- The first bytes of an item: its major type and the shortest form of its argument. -/
def writeHead (major : Nat) (n : Nat) : Bytes :=
  let first (info : Nat) : UInt8 := UInt8.ofNat (major * 32 + info)
  if n < 24 then [first n]
  else if n < 0x100 then first 24 :: Bytes.ofNat 1 n
  else if n < 0x10000 then first 25 :: Bytes.ofNat 2 n
  else if n < 0x100000000 then first 26 :: Bytes.ofNat 4 n
  else first 27 :: Bytes.ofNat 8 n

mutual

/-- The bytes of an item. -/
def Value.write : Value → Bytes
  | .int (.ofNat n) => writeHead 0 n
  | .int (.negSucc n) => writeHead 1 n
  | .bytes bs => writeHead 2 bs.length ++ bs
  | .text s => writeHead 3 (Utf8.encode s).length ++ Utf8.encode s
  | .array items => writeHead 4 items.length ++ writeItems items
  | .map entries => writeHead 5 entries.length ++ writeEntries entries
  | .tag n content => writeHead 6 n ++ content.write
  | .bool false => [0xf4]
  | .bool true => [0xf5]
  | .null => [0xf6]
  | .float bits => writeFloat bits

/-- Items one after another. -/
def writeItems : List Value → Bytes
  | [] => []
  | v :: vs => v.write ++ writeItems vs

/-- Entries one after another, each key before its value. -/
def writeEntries : List (Value × Value) → Bytes
  | [] => []
  | e :: es => writeEntry e ++ writeEntries es

/-- A key and its value. -/
def writeEntry : Value × Value → Bytes
  | (k, v) => k.write ++ v.write

end

end Passkey.Cbor
