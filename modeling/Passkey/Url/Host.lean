import Passkey.Idna.Ascii
import Passkey.Url.Ipv6

/-!
# Hosts

The host of a location is a domain name or an address. Where locations of a kind name machines of
the network, names are brought into one spelling; elsewhere a host is any text.
-/

namespace Passkey.Url

/-- Why a text is not a location. -/
inductive UrlError where
  | relativeWithoutBase
  | emptyHost
  | invalidDomain
  | invalidOpaqueHost
  | invalidIpv4
  | invalidIpv6
  | invalidPort
  deriving DecidableEq, Repr

/-- The wording of an error. -/
def UrlError.message : UrlError → String
  | .relativeWithoutBase => "relative URL without a base"
  | .emptyHost => "empty host"
  | .invalidDomain => "invalid international domain name"
  | .invalidOpaqueHost => "invalid domain character"
  | .invalidIpv4 => "invalid IPv4 address"
  | .invalidIpv6 => "invalid IPv6 address"
  | .invalidPort => "invalid port number"

/-- A host. -/
inductive Host where
  | domain (name : List Char)
  | ipv4 (address : UInt32)
  | ipv6 (groups : List UInt16)
  deriving DecidableEq, Repr

namespace Host

/-- A host as text. -/
def text : Host → String
  | .domain name => String.ofList name
  | .ipv4 address => String.ofList (Ipv4.write address)
  | .ipv6 groups => String.ofList ('[' :: Ipv6.write groups ++ [']'])

/-- Undoes escapes: a percent sign and two hexadecimal digits are a byte. -/
def unescape : Bytes → Bytes
  | [] => []
  | b :: hi :: lo :: rest =>
    let digit? (d : UInt8) := Bytes.hexValue? (Char.ofNat d.toNat)
    match b == 0x25, digit? hi, digit? lo with
    | true, some h, some l => UInt8.ofNat (h * 16 + l) :: unescape rest
    | _, _, _ => b :: unescape (hi :: lo :: rest)
  | b :: rest => b :: unescape rest

/-- Reads an address between brackets. -/
def bracketed? (text : List Char) : Except UrlError Host :=
  if text.getLast? == some ']' then
    match Ipv6.ofText? text.dropLast with
    | some groups => .ok (.ipv6 groups)
    | none => .error .invalidIpv6
  else .error .invalidIpv6

/-- Reads the name or address of a machine. -/
def ofNetwork? : List Char → Except UrlError Host
  | '[' :: text => bracketed? text
  | text => do
    match Idna.toAscii? (unescape (Utf8.encode (String.ofList text))) with
    | none => .error .invalidDomain
    | some [] => .error .emptyHost
    | some name =>
      if Ipv4.isNumeric name then
        match Ipv4.ofName? name with
        | some address => .ok (.ipv4 address)
        | none => .error .invalidIpv4
      else .ok (.domain name)

/-- The characters that no host may have. -/
def isForbidden (c : Char) : Bool := "\x00\t\n\r #/:<>?@[\\]^|".toList.contains c

/-- A byte as an escape. -/
def escapeByte (b : UInt8) : List Char := '%' :: (Bytes.hexChars [b]).map Char.toUpper

/-- Escapes what is not printable ASCII. -/
def escape (text : List Char) : List Char :=
  text.flatMap fun c =>
    if 0x20 ≤ c.toNat ∧ c.toNat < 0x7f then [c]
    else (Utf8.encode c.toString).flatMap escapeByte

/-- Reads a host where any text is one. -/
def ofOpaque? : List Char → Except UrlError Host
  | '[' :: text => bracketed? text
  | text =>
    if text.any isForbidden then .error .invalidOpaqueHost else .ok (.domain (escape text))

end Host

end Passkey.Url
