import Passkey.Report.Record
import Passkey.X509.Issuance

/-!
# Reports of certificates

Parts that must be read first are reported as their values or as what is wrong with them.
-/

namespace Passkey.Report

open X509 (Certificate CertificateDefect Extension)

/-- A part of a certificate that must be read first. -/
def part {α : Type} (write : α → Json) (part : Except CertificateDefect α) : Json :=
  result certificateError write part

/-- Whether a certificate is valid at the start of each of some seconds. -/
def validAt (c : Certificate) (moments : List Nat) : Json :=
  arr (fun s => .bool (c.isValidAt (Instant.ofSeconds s))) moments

/-- The model that a certificate is for. -/
def model (c : Certificate) : Json := part (opt fun a => str a.toString) c.aaguid

/-- What is common to all reports of certificates. -/
def certificateMembers (c : Certificate) : List (String × Json) :=
  [("v3", .bool c.isV3), ("debug", str c.describe), ("is_ca", part .bool c.isCa),
    ("path_len", part (opt num) c.pathLength), ("public_key", part publicKey c.publicKey)]

/-- A certificate as its holder looks at it: whom it names, what it is for, and whether it goes by
some names, is valid at some moments and has some extensions. -/
def certificate (c : Certificate) (names : List String) (moments : List Nat) (ids : List Oid) :
    Json :=
  obj (certificateMembers c
    ++ [("subject", str c.subject), ("issuer", str c.issuer),
      ("empty_subject", .bool c.hasEmptySubject), ("der_len", num c.der.length),
      ("eku", part (arr fun o => str o.toString) c.extendedKeyUsage), ("aaguid", model c),
      ("names", obj (names.map fun name => (name, .bool (c.hasCommonName name)))),
      ("valid_at", validAt c moments),
      ("extensions", obj (ids.map fun id => (id.toString, opt hex (c.extension? id))))])

/-- A certificate as its issuer looks at it. -/
def issuedMembers (issuer c : Certificate) : List (String × Json) :=
  certificateMembers c
    ++ [("serial", hex c.content.serial), ("issued_by", .bool (c.isIssuedBy issuer)),
      ("extensions", arr (fun (e : Extension) => .array [str e.id.toString, .bool e.critical])
        c.content.extensions)]

end Passkey.Report
