import Passkey.Asn1.Oid
import Passkey.Text.Utf8

/-!
# Distinguished names

A name is a sequence of relative names, each a set of attributes. Two names are equal if their
attributes are encoded alike, so the string type of a value matters. `Name.text` writes a name for
people, last relative name first.
-/

namespace Passkey.X509

/-- A type and a value, which stays an element of whatever string type it was written in. -/
structure Attribute where
  type : Oid
  value : Der.Element
  deriving DecidableEq, Repr

/-- The attributes of one level. -/
abbrev RelativeName := List Attribute

/-- A name, from the root of the directory down. -/
structure Name where
  levels : List RelativeName
  deriving DecidableEq, Repr

/-! ### Attribute types with a name -/

/-- The attribute type that names a person or a host. -/
def commonName : Oid := .ofArcs [2, 5, 4, 3]

/-- The attribute type of a country code. -/
def countryName : Oid := .ofArcs [2, 5, 4, 6]

/-- The attribute type of a device's serial number. -/
def serialNumber : Oid := .ofArcs [2, 5, 4, 5]

/-- The attribute type of a part of a domain name. -/
def domainComponent : Oid := .ofArcs [0, 9, 2342, 19200300, 100, 1, 25]

/-- The attribute type of an address for mail. -/
def emailAddress : Oid := .ofArcs [1, 2, 840, 113549, 1, 9, 1]

/-- The attribute types of the directory standard by their last number. -/
def directoryNames : List (Nat × String) :=
  [(0, "objectClass"), (1, "aliasedObjectName"), (2, "knowledgeInformation"), (3, "cn"),
    (3, "commonName"), (4, "sn"), (4, "surname"), (5, "serialNumber"), (6, "c"),
    (6, "countryName"), (7, "l"), (7, "localityName"), (8, "st"), (9, "street"), (10, "o"),
    (10, "organizationName"), (11, "ou"), (11, "organizationalUnitName"), (12, "title"),
    (13, "description"), (14, "searchGuide"), (15, "businessCategory"), (16, "postalAddress"),
    (17, "postalCode"), (18, "postOfficeBox"), (19, "physicalDeliveryOfficeName"),
    (20, "telephoneNumber"), (21, "telexNumber"), (22, "teletexTerminalIdentifier"),
    (23, "facsimileTelephoneNumber"), (24, "x121Address"), (25, "internationaliSDNNumber"),
    (26, "registeredAddress"), (27, "destinationIndicator"), (28, "preferredDeliveryMethod"),
    (29, "presentationAddress"), (30, "supportedApplicationContext"), (31, "member"),
    (32, "owner"), (33, "roleOccupant"), (34, "seeAlso"), (35, "userPassword"),
    (36, "userCertificate"), (37, "cACertificate"), (38, "authorityRevocationList"),
    (39, "certificateRevocationList"), (40, "crossCertificatePair"), (41, "name"), (42, "gn"),
    (42, "givenName"), (43, "initials"), (44, "generationQualifier"),
    (45, "x500UniqueIdentifier"), (46, "dnQualifier"), (47, "enhancedSearchGuide"),
    (48, "protocolInformation"), (49, "distinguishedName"), (50, "uniqueMember"),
    (51, "houseIdentifier"), (52, "supportedAlgorithms"), (53, "deltaRevocationList"),
    (54, "dmdName"), (65, "pseudonym")]

/-- The attribute types of the directory pilot by their last number. -/
def pilotNames : List (Nat × String) :=
  [(1, "uid"), (1, "userId"), (2, "textEncodedORAddress"), (3, "mail"), (3, "RFC822Mailbox"),
    (4, "info"), (5, "drink"), (5, "favouriteDrink"), (6, "roomNumber"), (7, "photo"),
    (8, "userClass"), (9, "host"), (10, "manager"), (11, "documentIdentifier"),
    (12, "documentTitle"), (13, "documentVersion"), (14, "documentAuthor"),
    (15, "documentLocation"), (20, "homePhone"), (20, "homeTelephoneNumber"), (21, "secretary"),
    (22, "otherMailbox"), (25, "dc"), (25, "domainComponent"), (37, "associatedDomain"),
    (38, "associatedName"), (39, "homePostalAddress"), (40, "personalTitle"), (41, "mobile"),
    (41, "mobileTelephoneNumber"), (42, "pager"), (42, "pagerTelephoneNumber"), (43, "co"),
    (43, "friendlyCountryName"), (44, "uniqueIdentifier"), (45, "organizationalStatus"),
    (46, "janetMailbox"), (47, "mailPreferenceOption"), (48, "buildingName"), (49, "dSAQuality"),
    (50, "singleLevelQuality"), (51, "subtreeMinimumQuality"), (52, "subtreeMaximumQuality"),
    (53, "personalSignature"), (54, "dITRedirect"), (55, "audio"), (56, "documentPublisher"),
    (60, "jpegPhoto")]

/-- The names of attribute types. A type may have several; its shortest comes first. -/
def attributeNames : List (Oid × String) :=
  directoryNames.map (fun (n, name) => (.ofArcs [2, 5, 4, n], name))
    ++ pilotNames.map (fun (n, name) => (.ofArcs [0, 9, 2342, 19200300, 100, 1, n], name))
    ++ [(emailAddress, "email"), (emailAddress, "emailAddress")]

/-- The shortest name of an attribute type. -/
def shortName? (type : Oid) : Option String :=
  (attributeNames.find? (·.1 = type)).map (·.2)

/-! ### Text of an attribute -/

/-- Whether an octet may stand in a printable string. -/
def isPrintableOctet (b : UInt8) : Bool :=
  (0x41 ≤ b && b ≤ 0x5a) || (0x61 ≤ b && b ≤ 0x7a) || (0x30 ≤ b && b ≤ 0x39)
    || (Utf8.encode " '()+,-./:=?").contains b

/-- The text of an element of one of the string types that are shown as text. -/
def stringValue? (e : Der.Element) : Option String :=
  let allowed : Bool :=
    if e.tag = Der.Tag.printableString then e.content.all isPrintableOctet
    else if e.tag = Der.Tag.ia5String || e.tag = Der.Tag.teletexString then
      e.content.all (· < 0x80)
    else e.tag = Der.Tag.utf8String
  if allowed then Utf8.decode? e.content else none

/-- The characters that stand for themselves nowhere in a shown value. -/
def specialChars : List Char := ['"', '+', ',', ';', '<', '>', '\\']

/-- A character of a shown value that is neither first nor last: separators get a backslash and
control characters are given by their number. -/
def escapeInner (c : Char) : List Char :=
  if specialChars.contains c then ['\\', c]
  else if c.toNat < 0x20 ∨ c.toNat = 0x7f then '\\' :: Bytes.hexChars [UInt8.ofNat c.toNat]
  else [c]

/-- All characters but the first. A space at the end gets a backslash. -/
def escapeRest : List Char → List Char
  | [] => []
  | [' '] => ['\\', ' ']
  | c :: rest => escapeInner c ++ escapeRest rest

/-- A value as it is shown. A number sign or a space at the start gets a backslash. -/
def escapeValue : List Char → List Char
  | [] => []
  | c :: rest => (if c = '#' ∨ c = ' ' then ['\\', c] else escapeInner c) ++ escapeRest rest

/-- An attribute as text: name and value where both have one, otherwise the type's numbers and the
octets of the value. -/
def Attribute.text (a : Attribute) : String :=
  match shortName? a.type, stringValue? a.value with
  | some name, some value =>
    name.toUpper ++ "=" ++ String.ofList (escapeValue value.toList)
  | _, _ => a.type.toString ++ "=#" ++ Bytes.toHex a.value.write

/-- A relative name as text. -/
def RelativeName.text (r : RelativeName) : String := "+".intercalate (r.map Attribute.text)

/-- A name as text, last level first. -/
def Name.text (n : Name) : String := ",".intercalate (n.levels.reverse.map RelativeName.text)

/-! ### Encoding -/

/-- The octets of an attribute. -/
def Attribute.write (a : Attribute) : Bytes := Der.sequence [a.type.write, a.value.write]

/-- Lexicographic order of octets. -/
def precedes : Bytes → Bytes → Bool
  | [], _ => true
  | _ :: _, [] => false
  | a :: as, b :: bs => a < b || (a = b && precedes as bs)

/-- The attributes of a level in the order of their octets, if no two are equal. -/
def RelativeName.ofAttributes? (attributes : List Attribute) : Option RelativeName :=
  if attributes.Nodup then some (attributes.mergeSort fun a b => precedes a.write b.write)
  else none

/-- The attribute in an element. -/
def Attribute.ofElement? (e : Der.Element) : Option Attribute := do
  match ← e.sequence? with
  | [type, value] => return ⟨← type.oid?, value⟩
  | _ => none

/-- The relative name in an element. -/
def RelativeName.ofElement? (e : Der.Element) : Option RelativeName :=
  e.set? >>= List.mapM Attribute.ofElement? >>= RelativeName.ofAttributes?

/-- The name in an element. -/
def Name.ofElement? (e : Der.Element) : Option Name := do
  return ⟨← (← e.sequence?).mapM RelativeName.ofElement?⟩

/-- The octets of a name. -/
def Name.write (n : Name) : Bytes :=
  Der.sequence (n.levels.map fun level => Der.tlv Der.Tag.set (level.flatMap Attribute.write))

end Passkey.X509
