import Passkey.X509.Name

/-!
# Names from text

Reads the text form of a name: levels apart by commas, last first, attributes of a level apart by
plus signs, `type=value` each. A separator after a backslash does not separate.
-/

namespace Passkey.X509

/-- Cuts a text at a separator that has no backslash before it, or two. The state is the piece
begun, backwards, and the last two characters. -/
def splitUnescaped (separator : Char) (piece : List Char) (before last : Char) :
    List Char → List (List Char)
  | [] => [piece.reverse]
  | c :: rest =>
    if c = separator ∧ (last ≠ '\\' ∨ before = '\\') then
      piece.reverse :: splitUnescaped separator [] last c rest
    else splitUnescaped separator (c :: piece) last c rest

/-- The pieces of a text between separators. -/
def pieces (separator : Char) (text : List Char) : List (List Char) :=
  splitUnescaped separator [] '\x00' '\x00' text

/-- The characters that a backslash makes stand for themselves. -/
def escapable : List Char := ['#', '=', '"', '+', ',', ';', '<', '>', '\\', ' ']

/-- Octets of a value: a backslash takes a character or two hexadecimal digits. An escape that the
value ends in the midst of is dropped. -/
def unescape? : List Char → Option Bytes
  | [] => some []
  | ['\\'] => some []
  | '\\' :: c :: rest =>
    if escapable.contains c then (unescape? rest).map (Utf8.encode (String.singleton c) ++ ·)
    else
      match rest with
      | [] => (Bytes.hexValue? c).map fun _ => []
      | d :: rest => do
        let octet ← Bytes.ofHexChars? [c, d]
        return octet ++ (← unescape? rest)
  | c :: rest => (unescape? rest).map (Utf8.encode (String.singleton c) ++ ·)

/-- The string type in which a value of this attribute type is written. -/
def stringTag (type : Oid) : UInt8 :=
  if type = countryName ∨ type = serialNumber then Der.Tag.printableString
  else if type = domainComponent then Der.Tag.ia5String
  else Der.Tag.utf8String

/-- The attribute type with this name, in letters of either case, or with these numbers. -/
def attributeType? (key : String) : Option Oid :=
  match attributeNames.find? fun entry => entry.2.toLower == key.toLower with
  | some (type, _) => some type
  | none => Oid.ofText? key

/-- Reads an attribute: `type=value`, or `type=#` and the octets of the value. -/
def Attribute.ofText? (text : List Char) : Option Attribute := do
  let key := text.takeWhile (· ≠ '=')
  match text.dropWhile (· ≠ '=') with
  | [] => none
  | _ :: value =>
    let type ← attributeType? (String.ofList key)
    match value with
    | '#' :: digits => return ⟨type, ← Bytes.ofHexChars? digits >>= Der.element?⟩
    | _ => return ⟨type, ⟨stringTag type, ← unescape? value⟩⟩

/-- Reads a name. -/
def Name.ofText? (text : String) : Option Name := do
  let levels ← (pieces ',' text.toList).mapM fun level =>
    (pieces '+' level).mapM Attribute.ofText? >>= RelativeName.ofAttributes?
  return ⟨levels.reverse⟩

end Passkey.X509
