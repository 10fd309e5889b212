import Passkey.Proofs.Attestation.TpmFields
import Passkey.Proofs.Cose.GenuineKeys

/-!
# Public areas of keys on a curve

Such an area declares two coordinates, each after its length. Their lengths are not checked one by
one: both are joined, and the key has the halves of the whole. So an area is accepted as soon as the
coordinates together are those of a point, and the key has the coordinates that are declared exactly
if each of them has the size that the curve asks for (`declared_coordinates_decided`).
-/

namespace Passkey

theorem PublicKey.ofOctets_uncompressed_eq_ok {curve : Curve} {x y : Bytes} {key : PublicKey} :
    ofOctets curve (0x04 :: x ++ y) = .ok key ↔
      ∃ x' y' Q, key = .ec2 curve x' y' ∧ curve.Encodes x' y' Q ∧
        x'.length = curve.coordinateSize ∧ y'.length = curve.coordinateSize ∧
        x' ++ y' = x ++ y := by
  have hlength (n : Nat) : (curve.coordinate n).length = curve.coordinateSize :=
    Bytes.length_ofNat ..
  unfold ofOctets
  constructor
  · intro h
    split at h
    · next px py hpoint =>
      obtain ⟨hoctets, hcontains⟩ := Curve.ofOctets?_uncompressed.1 hpoint
      obtain ⟨hx, hy, hequation⟩ := Curve.contains_iff_equation.1 hcontains
      have hcurve := WeierstrassCurve.Affine.equation_iff_nonsingular.1 hequation
      cases h
      exact ⟨_, _, _, rfl, .mk hx hy hcurve rfl, hlength px, hlength py, hoctets.symm⟩
    · cases h
  · rintro ⟨x', y', _, rfl, ⟨hx, hy, hcurve, hoctets⟩, hx', -, hjoined⟩
    obtain ⟨rfl, rfl⟩ := List.append_inj hoctets (hx'.trans (hlength _).symm)
    have hpoint := Curve.ofOctets?_uncompressed.2
      ⟨hjoined.symm, Curve.contains_iff_equation.2 ⟨hx, hy, hcurve.1⟩⟩
    rw [hpoint]

/-- The identifier of a curve in a public area. -/
def Curve.tpmId : Curve → UInt16
  | .p256 => 3
  | .p384 => 4
  | .p521 => 5

namespace Attestation

open TpmReader

theorem tpmCurve_eq_ok {id : Nat} {curve : Curve} :
    tpmCurve id = .ok curve ↔ id = curve.tpmId.toNat := by
  unfold tpmCurve
  constructor
  · intro h
    split at h
    · cases h
      assumption
    · split at h
      · cases h
        assumption
      · obtain ⟨hid, h⟩ := require_eq_ok.1 h
        cases h
        exact hid
  · rintro rfl
    cases curve <;> rfl

/-- What follows the header in a public area of a key on a curve. -/
structure EccFields where
  symmetric : SchemeField symmetricDetails
  scheme : SchemeField schemeDetails
  curve : Curve
  derivation : SchemeField schemeDetails
  x : SizedBytes
  y : SizedBytes

namespace EccFields

/-- The fields, one after another. -/
def write (fields : EccFields) : Bytes :=
  fields.symmetric.write ++ (fields.scheme.write ++ (Bytes.ofNat 2 fields.curve.tpmId.toNat ++
    (fields.derivation.write ++ (fields.x.write ++ fields.y.write))))

/-- The key is the point whose coordinates, each at its full size, are together what is declared as
both coordinates together. -/
def Describes (fields : EccFields) (key : PublicKey) : Prop :=
  ∃ x y Q, key = .ec2 fields.curve x y ∧ fields.curve.Encodes x y Q ∧
    x.length = fields.curve.coordinateSize ∧ y.length = fields.curve.coordinateSize ∧
    x ++ y = fields.x.content ++ fields.y.content

/-- The key has the coordinates that are declared exactly if these are as long as coordinates of the
curve are. -/
theorem Describes.declared_iff {fields : EccFields} {key : PublicKey} (h : fields.Describes key) :
    key = .ec2 fields.curve fields.x.content fields.y.content ↔
      fields.x.content.length = fields.curve.coordinateSize ∧
        fields.y.content.length = fields.curve.coordinateSize := by
  obtain ⟨x, y, -, rfl, -, hx, hy, hjoined⟩ := h
  constructor
  · intro heq
    obtain ⟨-, rfl, rfl⟩ := PublicKey.ec2.inj heq
    exact ⟨hx, hy⟩
  · rintro ⟨hx', -⟩
    obtain ⟨rfl, rfl⟩ := List.append_inj hjoined (hx.trans hx'.symm)
    rfl

theorem write_inj {fields fields' : EccFields} (h : fields.write = fields'.write) :
    fields = fields' := by
  obtain ⟨symmetric, scheme, curve, derivation, x, y⟩ := fields
  obtain ⟨symmetric', scheme', curve', derivation', x', y'⟩ := fields'
  simp only [write] at h
  obtain ⟨hsymmetric, h⟩ := SchemeField.write_append_inj h
  obtain ⟨hscheme, h⟩ := SchemeField.write_append_inj h
  obtain ⟨hid, h⟩ := Bytes.ofNat_append_inj curve.tpmId.toNat_lt curve'.tpmId.toNat_lt h
  obtain ⟨hderivation, h⟩ := SchemeField.write_append_inj h
  obtain ⟨hx, h⟩ := SizedBytes.write_append_inj h
  obtain ⟨hy, -⟩ := SizedBytes.write_append_inj (congrArg (· ++ []) h)
  have hcurve : curve = curve' := by
    have hsame := tpmCurve_eq_ok.2 hid
    rw [tpmCurve_eq_ok.2 rfl] at hsame
    exact Except.ok.inj hsame
  rw [hsymmetric, hscheme, hcurve, hderivation, hx, hy]

end EccFields

theorem run_readEccKey {input rest : Bytes} {key : PublicKey} :
    readEccKey.run input = .ok (key, rest) ↔
      ∃ fields : EccFields, input = fields.write ++ rest ∧ fields.Describes key := by
  simp only [readEccKey, run_bind, run_scheme, run_number, run_lift, run_sized, tpmCurve_eq_ok,
    EccFields.Describes, ← PublicKey.ofOctets_uncompressed_eq_ok]
  constructor
  · rintro ⟨_, _, ⟨symmetric, rfl⟩, _, _, ⟨scheme, rfl⟩, _, _, ⟨-, rfl⟩, curve, _, ⟨rfl, rfl⟩, _, _,
      ⟨derivation, rfl⟩, _, _, ⟨x, rfl, rfl⟩, _, middle, ⟨y, rfl, rfl⟩, h⟩
    split at h
    · next found hkey =>
      obtain ⟨rfl, rfl⟩ := run_pure.1 h
      refine ⟨⟨symmetric, scheme, curve, derivation, x, y⟩, ?_, hkey⟩
      simp only [EccFields.write, List.append_assoc]
    · cases h
  · rintro ⟨fields, rfl, hkey⟩
    simp only [EccFields.write, List.append_assoc]
    refine ⟨(), _, ⟨fields.symmetric, rfl⟩, (), _, ⟨fields.scheme, rfl⟩, _, _,
      ⟨fields.curve.tpmId.toNat_lt, rfl⟩, fields.curve, _, ⟨rfl, rfl⟩, (), _,
      ⟨fields.derivation, rfl⟩, _, _, ⟨fields.x, rfl, rfl⟩, _, _, ⟨fields.y, rfl, rfl⟩, ?_⟩
    rw [hkey]
    exact run_pure.2 ⟨rfl, rfl⟩

/-- The octets are an area of a key on a curve with this header and these fields. -/
def IsEccArea (bs : Bytes) (header : AreaHeader) (fields : EccFields) : Prop :=
  bs = header.write 0x0023 ++ fields.write

theorem IsEccArea.unique {bs : Bytes} {header header' : AreaHeader} {fields fields' : EccFields}
    (h : IsEccArea bs header fields) (h' : IsEccArea bs header' fields') :
    header = header' ∧ fields = fields' := by
  obtain ⟨-, hheader, hfields⟩ := AreaHeader.write_append_inj (h.symm.trans h')
  exact ⟨hheader, EccFields.write_inj hfields⟩

theorem AreaHeader.take_write_append {type : UInt16} {header : AreaHeader} {octets : Bytes} :
    (header.write type ++ octets).take 2 = [0x00, 0x23] ↔ type = 0x0023 := by
  have htake : (header.write type ++ octets).take 2 = Bytes.ofNat 2 type.toNat := by
    rw [AreaHeader.write, List.append_assoc, List.take_left' (by simp)]
  have hspell : [0x00, 0x23] = Bytes.ofNat 2 (0x0023 : UInt16).toNat := by decide
  rw [htake, hspell]
  constructor
  · intro h
    obtain ⟨htype, -⟩ := Bytes.ofNat_append_inj type.toNat_lt (UInt16.toNat_lt 0x0023)
      (congrArg (· ++ []) h)
    exact UInt16.toNat_inj.1 htype
  · rintro rfl
    rfl

theorem decode_eccArea_eq_ok {bs : Bytes} {area : PublicArea} :
    PublicArea.decode bs = .ok area ∧ bs.take 2 = [0x00, 0x23] ↔
      ∃ header fields, IsEccArea bs header fields ∧ fields.Describes area.key ∧
        area.nameAlgorithm = header.nameAlgorithm.toNat := by
  have hread (octets : Bytes) : (readTpmKey (0x0023 : UInt16).toNat).run octets = .ok (area.key, [])
      ↔ ∃ fields : EccFields, octets = fields.write ∧ fields.Describes area.key := by
    have hecc : readTpmKey (0x0023 : UInt16).toNat = readEccKey := rfl
    simp only [hecc, run_readEccKey, List.append_nil]
  rw [PublicArea.decode_eq_ok]
  constructor
  · rintro ⟨⟨type, header, octets, rfl, hkey, hname⟩, htype⟩
    obtain rfl := AreaHeader.take_write_append.1 htype
    obtain ⟨fields, rfl, hdescribes⟩ := (hread octets).1 hkey
    exact ⟨header, fields, rfl, hdescribes, hname⟩
  · rintro ⟨header, fields, rfl, hdescribes, hname⟩
    have hkey := (hread fields.write).2 ⟨fields, rfl, hdescribes⟩
    exact ⟨⟨0x0023, header, fields.write, rfl, hkey, hname⟩, AreaHeader.take_write_append.2 rfl⟩

/-- Octets are decoded as an area of a key on a curve exactly if they consist of a header and of
fields that describe a key. They do so in one way only, and the key has the coordinates that are
declared exactly if these are as long as coordinates of the curve are. -/
theorem declared_coordinates_decided (bs : Bytes) :
    (∀ area, PublicArea.decode bs = .ok area ∧ bs.take 2 = [0x00, 0x23] ↔
      ∃ header fields, IsEccArea bs header fields ∧ fields.Describes area.key ∧
        area.nameAlgorithm = header.nameAlgorithm.toNat) ∧
    (∀ header fields header' fields', IsEccArea bs header fields → IsEccArea bs header' fields' →
      header = header' ∧ fields = fields') ∧
    ∀ header fields area, IsEccArea bs header fields → PublicArea.decode bs = .ok area →
      (area.key = .ec2 fields.curve fields.x.content fields.y.content ↔
        fields.x.content.length = fields.curve.coordinateSize ∧
          fields.y.content.length = fields.curve.coordinateSize) := by
  refine ⟨fun _ => decode_eccArea_eq_ok, fun _ _ _ _ => IsEccArea.unique, ?_⟩
  intro header fields area h harea
  have htype : bs.take 2 = [0x00, 0x23] := by
    rw [h]
    exact AreaHeader.take_write_append.2 rfl
  obtain ⟨header', fields', h', hdescribes, -⟩ := decode_eccArea_eq_ok.1 ⟨harea, htype⟩
  obtain ⟨-, rfl⟩ := h.unique h'
  exact hdescribes.declared_iff

/-- A header that names SHA-256 and has no policy. -/
def plainHeader : AreaHeader where
  nameAlgorithm := 0x000b
  attributes := [0x00, 0x06, 0x04, 0x72]
  attributes_length := rfl
  policy := ⟨[], by decide⟩

/-- The coordinates of the base point of P-256, one after the other. -/
def baseCoordinates : Bytes :=
  Curve.p256.coordinate 0x6b17d1f2e12c4247f8bce6e563a440f277037d812deb33a0f4a13945d898c296 ++
    Curve.p256.coordinate 0x4fe342e2fe1a7f9b8ee7eb4a7c0f9e162bce33576b315ececbb6406837bf51f5

/-- The base point, with the last octet of one coordinate declared as the first of the other. -/
def shiftedFields : EccFields where
  symmetric := .null
  scheme := .null
  curve := .p256
  derivation := .null
  x := ⟨baseCoordinates.take 31, by decide⟩
  y := ⟨baseCoordinates.drop 31, by decide⟩

theorem shifted_coordinates_accepted :
    let x := baseCoordinates.take 32
    let y := baseCoordinates.drop 32
    PublicArea.decode (plainHeader.write 0x0023 ++ shiftedFields.write)
        = .ok ⟨0x000b, .ec2 .p256 x y⟩ ∧
      shiftedFields.x.content.length = 31 ∧ shiftedFields.y.content.length = 33 ∧
      shiftedFields.x.content ≠ x ∧ shiftedFields.y.content ≠ y := by
  refine ⟨by decide +kernel, by decide, by decide, by decide, by decide⟩

end Attestation

end Passkey
