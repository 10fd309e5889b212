import Passkey.Bytes

/-!
# Base64

Bytes as digits of six bits. Writing takes three bytes to four digits; reading goes back quad by
quad and refuses a last digit whose unused bits are set, so a byte string has one spelling up to
padding. An `Alphabet` names the two digits on which the web and the mail variant differ.
-/

namespace Passkey.Base64

/-- The digits for 62 and 63. -/
structure Alphabet where
  digit62 : Char
  digit63 : Char

/-- The alphabet that is safe in addresses and file names. -/
def urlSafe : Alphabet := ⟨'-', '_'⟩

/-- The alphabet of mail and certificates. -/
def standard : Alphabet := ⟨'+', '/'⟩

/-- Whether the input must be filled up to whole quads. -/
inductive Padding where
  /-- Some or none of the padding may be missing. -/
  | optional
  /-- The last quad must be complete. -/
  | required
  deriving DecidableEq, Repr

/-- The digit for a number below 64. -/
def digit (a : Alphabet) (n : Nat) : Char :=
  if n < 26 then Char.ofNat ('A'.toNat + n)
  else if n < 52 then Char.ofNat ('a'.toNat + (n - 26))
  else if n < 62 then Char.ofNat ('0'.toNat + (n - 52))
  else if n = 62 then a.digit62
  else a.digit63

/-- The number that a digit stands for. -/
def value? (a : Alphabet) (c : Char) : Option Nat :=
  if 'A' ≤ c ∧ c ≤ 'Z' then some (c.toNat - 'A'.toNat)
  else if 'a' ≤ c ∧ c ≤ 'z' then some (c.toNat - 'a'.toNat + 26)
  else if '0' ≤ c ∧ c ≤ '9' then some (c.toNat - '0'.toNat + 52)
  else if c = a.digit62 then some 62
  else if c = a.digit63 then some 63
  else none

/-- Three bytes become four numbers below 64, a shorter last group as many as it needs. -/
def sextets : Bytes → List Nat
  | [] => []
  | [x] => [x.toNat / 4, x.toNat % 4 * 16]
  | [x, y] => [x.toNat / 4, x.toNat % 4 * 16 + y.toNat / 16, y.toNat % 16 * 4]
  | x :: y :: z :: rest =>
    x.toNat / 4 :: (x.toNat % 4 * 16 + y.toNat / 16) :: (y.toNat % 16 * 4 + z.toNat / 64)
      :: z.toNat % 64 :: sextets rest

/-- Four numbers below 64 become three bytes. A last group of two or three numbers must leave its
unused low bits clear, and one number alone spells nothing. -/
def ofSextets? : List Nat → Option Bytes
  | [] => some []
  | [_] => none
  | [p, q] => if q % 16 = 0 then some [UInt8.ofNat (p * 4 + q / 16)] else none
  | [p, q, r] =>
    if r % 4 = 0 then some [UInt8.ofNat (p * 4 + q / 16), UInt8.ofNat (q % 16 * 16 + r / 4)]
    else none
  | p :: q :: r :: s :: rest => do
    let bs ← ofSextets? rest
    return UInt8.ofNat (p * 4 + q / 16) :: UInt8.ofNat (q % 16 * 16 + r / 4)
      :: UInt8.ofNat (r % 4 * 64 + s) :: bs

/-- The digits of a byte string, without padding. -/
def encodeChars (a : Alphabet) (bs : Bytes) : List Char := (sextets bs).map (digit a)

/-- How many padding characters fill `n` digits up to whole quads. -/
def fill (n : Nat) : Nat := (4 - n % 4) % 4

/-- Digits, then padding as the policy allows, then nothing. -/
def decodeChars? (a : Alphabet) (padding : Padding) (text : List Char) : Option Bytes :=
  let body := text.reverse.dropWhile (· == '=') |>.reverse
  let pads := text.length - body.length
  let fits : Bool := match padding with
    | .optional => pads ≤ fill body.length
    | .required => pads = fill body.length
  if fits then body.mapM (value? a) >>= ofSextets? else none

/-- Unpadded text in the alphabet that is safe in addresses. -/
def encodeUrl (bs : Bytes) : String := String.ofList (encodeChars urlSafe bs)

/-- Reads text in the alphabet that is safe in addresses, with or without padding. -/
def decodeUrl? (text : String) : Option Bytes := decodeChars? urlSafe .optional text.toList

/-- Padded text in the standard alphabet. -/
def encodeStandard (bs : Bytes) : String :=
  let digits := encodeChars standard bs
  String.ofList (digits ++ List.replicate (fill digits.length) '=')

/-- Reads padded text in the standard alphabet. -/
def decodeStandard? (text : String) : Option Bytes :=
  decodeChars? standard .required text.toList

end Passkey.Base64
