import Passkey.Proofs.Authenticator.KeyBytes
import Passkey.Proofs.Cbor.RoundTrip
import Passkey.Proofs.Cose.UsableKeys

/-!
# Keys are read as they were written

The checked constructors bring a key into one form: a point by both of its coordinates at full size,
a modulus and an exponent without leading zeros. A key in that form is given back by the constructor
of its kind, so what is written for it is read as the same key. Hence writing what was read gives
one written form, in which any other spelling of the key is lost.
-/

namespace Passkey

@[simp] theorem Curve.ofId?_id (c : Curve) : Curve.ofId? c.id = some c := by
  cases c <;> rfl

@[simp] theorem Curve.length_coordinate (c : Curve) (n : Nat) :
    (c.coordinate n).length = c.coordinateSize :=
  Bytes.length_ofNat ..

theorem Curve.coordinateSize_le (c : Curve) : c.coordinateSize ≤ 66 := by
  cases c <;> decide

theorem Cbor.Entries.atInt?_cons (m key : Int) (v : Value) (entries : Entries) :
    atInt? ((.int m, v) :: entries) key = if m = key then some v else atInt? entries key := by
  by_cases h : m = key
  · simp [atInt?, Value.isInt, h]
  · simp [atInt?, Value.isInt, h]

/-! ### The form that constructors give -/

namespace PublicKey

/-- The constructor of the key's kind gives the key back from its own octets. -/
def Canonical : PublicKey → Prop
  | .ec2 curve x y => x.length = curve.coordinateSize ∧ y.length = curve.coordinateSize ∧
    ofOctets curve (0x04 :: x ++ y) = .ok (.ec2 curve x y)
  | .rsa n e => ofRsa n e = .ok (.rsa n e)
  | .ed25519 x => ofEd25519 x = .ok (.ed25519 x)

variable {key : PublicKey}

theorem ofRsa_eq_ok {n e : Bytes} : ofRsa n e = .ok key ↔
    key = .rsa (Bytes.trim n) (Bytes.trim e) ∧ Bytes.trim n ≠ [] ∧ Bytes.trim e ≠ [] ∧
      (Rsa.Key.mk (Bytes.toNat (Bytes.trim n)) (Bytes.toNat (Bytes.trim e))).defect? = none := by
  rw [ofRsa, refuse_eq_ok, not_or]
  cases (Rsa.Key.mk (Bytes.toNat (Bytes.trim n)) (Bytes.toNat (Bytes.trim e))).defect? with
  | none =>
    simp only [Except.ok.injEq, and_true]
    tauto
  | some defect => simp only [reduceCtorEq, and_false]

example : ofRsa [0, 0, 15] [0, 3] = .ok (.rsa [15] [3]) := by cbv

theorem ofEd25519_eq_ok {octets : Bytes} : ofEd25519 octets = .ok key ↔
    key = .ed25519 octets ∧ octets.length = 32 ∧ (Edwards.decode? octets).isSome = true := by
  simp only [ofEd25519, refuse_eq_ok, Option.isNone_iff_eq_none, Except.ok.injEq, ne_eq,
    Decidable.not_not, Option.isSome_iff_ne_none]
  constructor
  · rintro ⟨hlength, hpoint, rfl⟩
    exact ⟨rfl, hlength, hpoint⟩
  · rintro ⟨rfl, hlength, hpoint⟩
    exact ⟨hlength, hpoint, rfl⟩

theorem canonical_of_ofOctets {curve : Curve} {octets : Bytes}
    (h : ofOctets curve octets = .ok key) : key.Canonical := by
  unfold ofOctets at h
  split at h
  · next x y hpoint =>
    cases h
    have hcontains := Curve.contains_of_ofOctets? hpoint
    refine ⟨curve.length_coordinate x, curve.length_coordinate y, ?_⟩
    rw [ofOctets, Curve.ofOctets?_coordinates hcontains]
  · cases h

theorem Built.canonical (h : key.Built) : key.Canonical := by
  cases h with
  | ofOctets h => exact canonical_of_ofOctets h
  | ofRsa h =>
    obtain ⟨rfl, hn, he, hdefect⟩ := ofRsa_eq_ok.1 h
    refine ofRsa_eq_ok.2 ?_
    simp only [Bytes.trim_trim]
    exact ⟨trivial, hn, he, hdefect⟩
  | ofEd25519 h =>
    obtain ⟨rfl, hpoint⟩ := ofEd25519_eq_ok.1 h
    exact ofEd25519_eq_ok.2 ⟨rfl, hpoint⟩

theorem trim_of_canonical_rsa {n e : Bytes} (h : (rsa n e).Canonical) :
    Bytes.trim n = n ∧ Bytes.trim e = e := by
  obtain ⟨hn, he⟩ := PublicKey.rsa.inj (ofRsa_eq_ok.1 h).1
  exact ⟨hn.symm, he.symm⟩

/-- The numbers of an RSA key that can be used are of bounded size. -/
theorem length_le_of_canonical_rsa {n e : Bytes} (h : (rsa n e).Canonical) :
    n.length ≤ 512 ∧ e.length ≤ 8 := by
  obtain ⟨hn, he⟩ := trim_of_canonical_rsa h
  obtain ⟨-, -, -, hdefect⟩ := ofRsa_eq_ok.1 h
  rw [hn, he] at hdefect
  obtain ⟨hmodulus, -, -, -, hexponent, -⟩ := (Rsa.Key.defect?_eq_none_iff _).1 hdefect
  have hoctets (count : Nat) : 2 ^ (8 * count) = 256 ^ count := Nat.pow_mul 2 8 count
  rw [show 4096 = 8 * 512 from rfl, hoctets] at hmodulus
  refine ⟨Bytes.length_le_of_toNat_lt hn hmodulus, ?_⟩
  exact Bytes.length_le_of_toNat_lt he (Nat.lt_trans hexponent (by decide))

end PublicKey

/-! ### Writing and reading a key -/

namespace CoseKey

variable {k : CoseKey}

theorem inRange_iff {id : Int} :
    CoseAlgorithm.inRange id = true ↔ -2 ^ 63 ≤ id ∧ id < 2 ^ 63 := by
  simp [CoseAlgorithm.inRange]

theorem integer_eq_ok {entries : Cbor.Entries} {label n : Int} {field : String} :
    refuse (integer entries label field) = .ok n ↔ entries.atInt? label = some (.int n) := by
  rw [refuse_eq_ok_iff, integer]
  rcases entries.atInt? label with _ | (_ | _ | _ | _ | _ | _ | _ | _ | _) <;>
    simp [Cbor.Value.int?]

theorem byteString_eq_ok {entries : Cbor.Entries} {label : Int} {field : String} {bs : Bytes} :
    refuse (byteString entries label field) = .ok bs ↔
      entries.atInt? label = some (.bytes bs) := by
  rw [refuse_eq_ok_iff, byteString]
  rcases entries.atInt? label with _ | (_ | _ | _ | _ | _ | _ | _ | _ | _) <;>
    simp [Cbor.Value.bytes?]

section Fields

variable {entries : Cbor.Entries}

theorem ofEc2_of_fields {curve : Curve} {x y : Bytes} (h : (PublicKey.ec2 curve x y).Canonical)
    (hcurve : entries.atInt? (-1) = some (.int curve.id))
    (hx : entries.atInt? (-2) = some (.bytes x)) (hy : entries.atInt? (-3) = some (.bytes y)) :
    ofEc2 entries = .ok (.ec2 curve x y) := by
  obtain ⟨hxlen, hylen, hpoint⟩ := h
  refine bind_eq_ok.2 ⟨curve.id, integer_eq_ok.2 hcurve, ?_⟩
  rw [Curve.ofId?_id]
  refine bind_eq_ok.2 ⟨x, byteString_eq_ok.2 hx, bind_eq_ok.2 ⟨y, byteString_eq_ok.2 hy, ?_⟩⟩
  exact Passkey.refuse_eq_ok.2 ⟨by simp [hxlen, hylen], refuse_eq_ok_iff.2 hpoint⟩

theorem ofRsa_of_fields {n e : Bytes} (h : (PublicKey.rsa n e).Canonical)
    (hn : entries.atInt? (-1) = some (.bytes n)) (he : entries.atInt? (-2) = some (.bytes e)) :
    ofRsa entries = .ok (.rsa n e) := by
  refine bind_eq_ok.2 ⟨n, byteString_eq_ok.2 hn, bind_eq_ok.2 ⟨e, byteString_eq_ok.2 he, ?_⟩⟩
  exact refuse_eq_ok_iff.2 h

theorem ofOkp_of_fields {x : Bytes} (h : (PublicKey.ed25519 x).Canonical)
    (hcurve : entries.atInt? (-1) = some (.int 6)) (hx : entries.atInt? (-2) = some (.bytes x)) :
    ofOkp entries = .ok (.ed25519 x) := by
  refine bind_eq_ok.2 ⟨6, integer_eq_ok.2 hcurve, require_eq_ok.2 ⟨rfl, ?_⟩⟩
  exact bind_eq_ok.2 ⟨x, byteString_eq_ok.2 hx, refuse_eq_ok_iff.2 h⟩

end Fields

/-- A key is written as a map of integers and byte strings. -/
theorem plain_toValue (h : k.Built) : k.toValue.Plain Cbor.maxDepth := by
  obtain ⟨algorithm, key⟩ := k
  obtain ⟨hkey, id, hid, rfl : algorithm = .ofId id⟩ := h
  have hlabel {n : Int} (hlow : -6 ≤ n) (hhigh : n ≤ 6) : (Cbor.Value.int n).Plain 255 :=
    .int (by omega) (by omega)
  have halgorithm : (Cbor.Value.int id).Plain 255 := by
    obtain ⟨hlow, hhigh⟩ := inRange_iff.1 hid
    exact .int (by omega) (by omega)
  have hmap {entries : Cbor.Entries} (hplain : ∀ e ∈ entries, e.1.Plain 255 ∧ e.2.Plain 255) :
      (Cbor.Value.map entries).Plain Cbor.maxDepth :=
    .map (fun e he => (hplain e he).1) fun e he => (hplain e he).2
  cases key with
  | ec2 curve x y =>
    have hcurve : (Cbor.Value.int curve.id).Plain 255 := by
      cases curve <;> exact hlabel (by decide) (by decide)
    exact hmap (by simp [hlabel, halgorithm, hcurve, Cbor.Value.Plain.bytes])
  | rsa n e => exact hmap (by simp [hlabel, halgorithm, Cbor.Value.Plain.bytes])
  | ed25519 x => exact hmap (by simp [hlabel, halgorithm, Cbor.Value.Plain.bytes])

/-- What is written for a key is short, since no part of a key is long. -/
theorem length_encode_lt (h : k.Built) : k.encode.length < 2 ^ 64 := by
  have hcanonical := h.key.canonical
  obtain ⟨algorithm, key⟩ := k
  have hint (n : Int) : (Cbor.Value.int n).write.length ≤ 521 :=
    Nat.le_trans (Cbor.length_write_int n) (by decide)
  have hbytes (bs : Bytes) (hbs : bs.length ≤ 512) : (Cbor.Value.bytes bs).write.length ≤ 521 :=
    Nat.le_trans (Cbor.length_write_bytes bs) (Nat.add_le_add_left hbs 9)
  have hmap {entries : Cbor.Entries} (hfew : entries.length ≤ 5)
      (hshort : ∀ e ∈ entries, e.1.write.length ≤ 521 ∧ e.2.write.length ≤ 521) :
      (Cbor.Value.map entries).write.length < 2 ^ 64 := by
    have hentry : ∀ e ∈ entries, (e.1.write ++ e.2.write).length ≤ 1042 := fun e he => by
      have := hshort e he
      rw [List.length_append]
      omega
    have hwhole := Cbor.length_write_map hentry
    omega
  cases key with
  | ec2 curve x y =>
    obtain ⟨hx, hy, -⟩ := hcanonical
    have hsize := curve.coordinateSize_le
    have hpoint := And.intro (hbytes x (by omega)) (hbytes y (by omega))
    exact hmap (by simp) (by simp [hint, hpoint])
  | rsa n e =>
    obtain ⟨hn, he⟩ := PublicKey.length_le_of_canonical_rsa hcanonical
    have hnumbers := And.intro (hbytes n hn) (hbytes e (by omega))
    exact hmap (by simp) (by simp [hint, hnumbers])
  | ed25519 x =>
    obtain ⟨-, hx, -⟩ := PublicKey.ofEd25519_eq_ok.1 hcanonical
    have hpoint := hbytes x (by omega)
    exact hmap (by simp) (by simp [hint, hpoint])

theorem ofValue_of_fields {entries : Cbor.Entries} (kty : Int) {id : Int} {key : PublicKey}
    (hkty : entries.atInt? 1 = some (.int kty)) (halg : entries.atInt? 3 = some (.int id))
    (hid : CoseAlgorithm.inRange id = true)
    (hkey : (if kty = 2 then ofEc2 entries else if kty = 3 then ofRsa entries
      else if kty = 1 then ofOkp entries else .error (.unsupported (.keyType kty))) = .ok key) :
    ofValue (.map entries) = .ok ⟨.ofId id, key⟩ := by
  refine bind_eq_ok.2 ⟨kty, integer_eq_ok.2 hkty, bind_eq_ok.2 ⟨id, integer_eq_ok.2 halg, ?_⟩⟩
  rw [CoseAlgorithm.ofId?, if_pos hid]
  dsimp only
  split_ifs at hkey ⊢
  · exact bind_eq_ok.2 ⟨key, hkey, rfl⟩
  · exact bind_eq_ok.2 ⟨key, hkey, rfl⟩
  · exact bind_eq_ok.2 ⟨key, hkey, rfl⟩

theorem ofValue_toValue (h : k.Built) : ofValue k.toValue = .ok k := by
  obtain ⟨algorithm, key⟩ := k
  obtain ⟨hkey, id, hid, rfl : algorithm = .ofId id⟩ := h
  have hcanonical := hkey.canonical
  cases key with
  | ec2 curve x y =>
    refine ofValue_of_fields 2 ?_ ?_ hid (ofEc2_of_fields hcanonical ?_ ?_ ?_) <;>
      simp [Cbor.Entries.atInt?_cons]
  | rsa n e =>
    refine ofValue_of_fields 3 ?_ ?_ hid (ofRsa_of_fields hcanonical ?_ ?_) <;>
      simp [Cbor.Entries.atInt?_cons]
  | ed25519 x =>
    refine ofValue_of_fields 1 ?_ ?_ hid (ofOkp_of_fields hcanonical ?_ ?_) <;>
      simp [Cbor.Entries.atInt?_cons]

/-- A key that went through a constructor is read from what is written for it. -/
theorem decode_encode (h : k.Built) : decode k.encode = .ok k := by
  rw [decode, encode, Cbor.decode_write (plain_toValue h) (length_encode_lt h)]
  exact ofValue_toValue h

/-- The ways to come by a key: reading it, as the whole of some bytes or at their front, or putting
what a checked constructor gives together with the algorithm of any identifier in range. -/
inductive Obtained : CoseKey → Prop where
  | decoded {bs : Bytes} {k : CoseKey} (h : decode bs = .ok k) : Obtained k
  | front {bs : Bytes} {k : CoseKey} {consumed : Nat} (h : decodePrefix bs = .ok (k, consumed)) :
    Obtained k
  | octets {id : Int} (hid : CoseAlgorithm.inRange id = true) {curve : Curve} {octets : Bytes}
    {key : PublicKey} (h : PublicKey.ofOctets curve octets = .ok key) : Obtained ⟨.ofId id, key⟩
  | rsa {id : Int} (hid : CoseAlgorithm.inRange id = true) {n e : Bytes} {key : PublicKey}
    (h : PublicKey.ofRsa n e = .ok key) : Obtained ⟨.ofId id, key⟩
  | rsaDer {id : Int} (hid : CoseAlgorithm.inRange id = true) {der : Bytes} {key : PublicKey}
    (h : PublicKey.ofRsaDer der = .ok key) : Obtained ⟨.ofId id, key⟩
  | ed25519 {id : Int} (hid : CoseAlgorithm.inRange id = true) {octets : Bytes} {key : PublicKey}
    (h : PublicKey.ofEd25519 octets = .ok key) : Obtained ⟨.ofId id, key⟩

theorem built_of_ofRsaDer {der : Bytes} {key : PublicKey} (h : PublicKey.ofRsaDer der = .ok key) :
    key.Built := by
  unfold PublicKey.ofRsaDer at h
  split at h
  · cases h
  · split at h
    · cases h
    · exact .ofRsa h

theorem Obtained.built (h : Obtained k) : k.Built := by
  cases h with
  | decoded h => exact built_of_decode h
  | front h => exact built_of_decode (decode_take_of_decodePrefix h)
  | octets hid h => exact ⟨.ofOctets h, _, hid, rfl⟩
  | rsa hid h => exact ⟨.ofRsa h, _, hid, rfl⟩
  | rsaDer hid h => exact ⟨built_of_ofRsaDer h, _, hid, rfl⟩
  | ed25519 hid h => exact ⟨.ofEd25519 h, _, hid, rfl⟩

/-- However a key was obtained, it is read from what is written for it. What is written for a key
that was read is a normal form: it is read and written without change, and no other key has it. -/
theorem key_round_trip :
    (∀ k, Obtained k → decode k.encode = .ok k) ∧
      ∀ bs k, decode bs = .ok k →
        (∃ again, decode k.encode = .ok again ∧ again.encode = k.encode) ∧
          ∀ bs' k', decode bs' = .ok k' → k'.encode = k.encode → k' = k := by
  have hread : ∀ k, Obtained k → decode k.encode = .ok k := fun k h => decode_encode h.built
  refine ⟨hread, fun bs k hk => ⟨⟨k, hread k (.decoded hk), rfl⟩, fun bs' k' hk' hsame => ?_⟩⟩
  have hfirst := hread k (.decoded hk)
  rw [← hsame, hread k' (.decoded hk')] at hfirst
  exact Except.ok.inj hfirst

end CoseKey

end Passkey
