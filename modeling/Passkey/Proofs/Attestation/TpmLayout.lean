import Passkey.Proofs.Attestation.EccAreas
import Passkey.Proofs.Cose.RoundTrip

/-!
# How TPM structures are laid out

The two structures of a TPM statement are read exactly from the fields that they consist of. A
public area is a header and the fields of a key of its type, and is accepted if these describe a
key; a certification is a fixed sequence of fields, all of which are accepted. The reader goes
through its input front to back: it makes of it what it makes of every longer one, unless it runs out
of octets (`ReadsForward`). So a structure that is cut short is truncated, and one that goes on is
too long (`tpm_layout`).
-/

namespace Passkey

theorem PublicKey.ofRsa_eq_ok_iff_sound {n e : Bytes} {key : PublicKey} :
    ofRsa n e = .ok key ↔
      (Rsa.Key.mk (Bytes.toNat n) (Bytes.toNat e)).Sound ∧
        key = .rsa (Bytes.trim n) (Bytes.trim e) := by
  have hodd {bs : Bytes} (h : Bytes.toNat bs % 2 = 1) : Bytes.trim bs ≠ [] := by
    intro hnil
    rw [← Bytes.toNat_trim, hnil] at h
    cases h
  rw [ofRsa_eq_ok, Rsa.Key.defect?_eq_none_iff, Bytes.toNat_trim, Bytes.toNat_trim]
  constructor
  · rintro ⟨rfl, -, -, hsound⟩
    exact ⟨hsound, rfl⟩
  · rintro ⟨hsound, rfl⟩
    exact ⟨rfl, hodd hsound.modulus_odd, hodd hsound.exponent_odd, hsound⟩

namespace Attestation

namespace TpmReader

variable {α β : Type} {s : TpmStructure}

/-! ### Longer inputs -/

/-- Where the reader fails, further octets change nothing unless the input was too short for it. -/
def FailsForward (s : TpmStructure) (r : TpmReader α) : Prop :=
  ∀ {input : Bytes} {e : StatementDefect} (tail : Bytes),
    r.run input = .error e → e = .truncated s ∨ r.run (input ++ tail) = .error e

/-- The reader goes through its input from front to back, and leaves further octets over. -/
structure ReadsForward (s : TpmStructure) (r : TpmReader α) : Prop where
  ok_append : ∀ {input rest : Bytes} {a : α} (tail : Bytes),
    r.run input = .ok (a, rest) → r.run (input ++ tail) = .ok (a, rest ++ tail)
  fails : FailsForward s r

/-- The reader goes through its input from front to back, and takes further octets for too many. -/
structure ReadsWhole (s : TpmStructure) (r : TpmReader α) : Prop where
  ok_append : ∀ {input rest tail : Bytes} {a : α},
    r.run input = .ok (a, rest) → tail ≠ [] → r.run (input ++ tail) = .error (.overlong s)
  fails : FailsForward s r

theorem run_bind_ok {r : TpmReader α} {f : α → TpmReader β} {input middle : Bytes} {a : α}
    (h : r.run input = .ok (a, middle)) : (r >>= f).run input = (f a).run middle := by
  rw [StateT.run_bind, h]
  rfl

theorem run_bind_error {r : TpmReader α} {f : α → TpmReader β} {input : Bytes}
    {e : StatementDefect} (h : r.run input = .error e) : (r >>= f).run input = .error e := by
  rw [StateT.run_bind, h]
  rfl

theorem readsForward_lift (x : Except StatementDefect α) :
    ReadsForward s (liftM x : TpmReader α) := by
  cases x with
  | ok a =>
    constructor
    · rintro input rest b tail ⟨⟩
      rfl
    · rintro input e tail ⟨⟩
  | error e =>
    constructor
    · rintro input rest b tail ⟨⟩
    · rintro input e tail ⟨⟩
      exact Or.inr rfl

theorem readsForward_pure (a : α) : ReadsForward s (pure a : TpmReader α) :=
  readsForward_lift (.ok a)

theorem readsForward_throw (e : StatementDefect) : ReadsForward s (throw e : TpmReader α) :=
  readsForward_lift (.error e)

theorem readsForward_octets (s : TpmStructure) (n : Nat) : ReadsForward s (octets s n) where
  ok_append tail h := by
    obtain ⟨hlength, rfl⟩ := run_octets.1 h
    exact run_octets.2 ⟨hlength, List.append_assoc ..⟩
  fails := by
    intro input e tail h
    left
    simp only [octets, StateT.run] at h
    split at h
    · cases h
    · cases h
      rfl

/-- By cases on the first reader: what it leaves is the input of the second one. -/
theorem ReadsForward.fails_bind {r : TpmReader α} {f : α → TpmReader β} (hr : ReadsForward s r)
    (hf : ∀ a, FailsForward s (f a)) : FailsForward s (r >>= f) := by
  intro input e tail h
  cases ha : r.run input with
  | error e' =>
    obtain rfl : e' = e := Except.error.inj ((run_bind_error ha).symm.trans h)
    exact (hr.fails tail ha).imp_right run_bind_error
  | ok p =>
    obtain ⟨a, middle⟩ := p
    rw [run_bind_ok ha] at h
    rw [run_bind_ok (hr.ok_append tail ha)]
    exact hf a tail h

theorem ReadsForward.bind {r : TpmReader α} {f : α → TpmReader β} (hr : ReadsForward s r)
    (hf : ∀ a, ReadsForward s (f a)) : ReadsForward s (r >>= f) where
  ok_append tail h := by
    obtain ⟨a, middle, ha, hb⟩ := run_bind.1 h
    exact run_bind.2 ⟨a, middle ++ tail, hr.ok_append tail ha, (hf a).ok_append tail hb⟩
  fails := hr.fails_bind fun a => (hf a).fails

theorem ReadsForward.bind_whole {r : TpmReader α} {f : α → TpmReader β} (hr : ReadsForward s r)
    (hf : ∀ a, ReadsWhole s (f a)) : ReadsWhole s (r >>= f) where
  ok_append h htail := by
    obtain ⟨a, middle, ha, hb⟩ := run_bind.1 h
    rw [run_bind_ok (hr.ok_append _ ha)]
    exact (hf a).ok_append hb htail
  fails := hr.fails_bind fun a => (hf a).fails

theorem readsForward_number (s : TpmStructure) (n : Nat) : ReadsForward s (number s n) :=
  (readsForward_octets s n).bind fun _ => readsForward_pure _

theorem readsForward_sized (s : TpmStructure) : ReadsForward s (sized s) :=
  (readsForward_number s 2).bind fun n => readsForward_octets s n

theorem readsForward_scheme (s : TpmStructure) (details : Nat) :
    ReadsForward s (scheme s details) := by
  refine (readsForward_number s 2).bind fun n => ?_
  by_cases hnull : n = nullAlgorithm
  · rw [if_neg (not_not.2 hnull)]
    exact readsForward_pure ()
  · rw [if_pos hnull]
    exact (readsForward_octets s details).bind fun _ => readsForward_pure ()

theorem readsWhole_finish (a : α) : ReadsWhole s (finish s >>= fun _ => pure a) where
  ok_append := by
    intro input rest tail b h htail
    obtain ⟨_, _, hend, -⟩ := run_bind.1 h
    obtain ⟨rfl, -⟩ := run_finish.1 hend
    obtain ⟨c, cs, rfl⟩ := List.exists_cons_of_ne_nil htail
    rfl
  fails := by
    intro input e tail h
    cases input with
    | nil => cases h
    | cons c cs => exact Or.inr h

/-- No part of a structure is a structure, and nothing is one that begins with a structure. -/
theorem ReadsWhole.extent {r : TpmReader α} (hr : ReadsWhole s r) {bs rest : Bytes} {a : α}
    (h : r.run bs = .ok (a, rest)) :
    (∀ cut, cut <+: bs → cut ≠ bs → r.run cut = .error (.truncated s)) ∧
      ∀ tail, tail ≠ [] → r.run (bs ++ tail) = .error (.overlong s) := by
  refine ⟨?_, fun tail htail => hr.ok_append h htail⟩
  intro cut hcut hne
  obtain ⟨tail, htail, rfl⟩ := Reading.exists_tail_of_cut hcut hne
  cases hread : r.run cut with
  | ok p =>
    -- Then the structure would be too long itself.
    rw [hr.ok_append hread htail] at h
    cases h
  | error e =>
    rcases hr.fails tail hread with rfl | hlonger
    · rfl
    · rw [hlonger] at h
      cases h

end TpmReader

open TpmReader

/-! ### Keys of public areas -/

/-- What follows the header in a public area of an RSA key. -/
structure RsaFields where
  symmetric : SchemeField symmetricDetails
  scheme : SchemeField schemeDetails
  keyBits : UInt16
  exponent : UInt32
  modulus : SizedBytes

namespace RsaFields

/-- The fields, one after another. -/
def write (fields : RsaFields) : Bytes :=
  fields.symmetric.write ++ (fields.scheme.write ++ (Bytes.ofNat 2 fields.keyBits.toNat ++
    (Bytes.ofNat 4 fields.exponent.toNat ++ fields.modulus.write)))

/-- The public exponent. A field of zero stands for the usual one. -/
def publicExponent (fields : RsaFields) : Nat :=
  if fields.exponent.toNat = 0 then 65537 else fields.exponent.toNat

/-- The declared numbers are those of an RSA key, and the key is their octets without leading
zeros. -/
def Describes (fields : RsaFields) (key : PublicKey) : Prop :=
  (Rsa.Key.mk (Bytes.toNat fields.modulus.content) fields.publicExponent).Sound ∧
    key = .rsa (Bytes.trim fields.modulus.content)
      (Bytes.trim (Bytes.ofNat 4 fields.publicExponent))

theorem ofRsa_eq_ok_iff_describes {fields : RsaFields} {key : PublicKey} :
    PublicKey.ofRsa fields.modulus.content (Bytes.ofNat 4 fields.publicExponent) = .ok key ↔
      fields.Describes key := by
  have hlt : fields.publicExponent < 256 ^ 4 := by
    have := fields.exponent.toNat_lt
    unfold publicExponent
    split <;> omega
  rw [PublicKey.ofRsa_eq_ok_iff_sound, Bytes.toNat_ofNat hlt, Describes]

end RsaFields

theorem run_readRsaKey {input rest : Bytes} {key : PublicKey} :
    readRsaKey.run input = .ok (key, rest) ↔
      ∃ fields : RsaFields, input = fields.write ++ rest ∧ fields.Describes key := by
  simp only [readRsaKey, run_bind, run_scheme, run_number, run_sized,
    ← RsaFields.ofRsa_eq_ok_iff_describes]
  constructor
  · rintro ⟨_, _, ⟨symmetric, rfl⟩, _, _, ⟨scheme, rfl⟩, bits, _, ⟨hbits, rfl⟩, e, _, ⟨he, rfl⟩, _,
      middle, ⟨modulus, rfl, rfl⟩, h⟩
    have hbits' : (UInt16.ofNat bits).toNat = bits := UInt16.toNat_ofNat_of_lt' hbits
    have he' : (UInt32.ofNat e).toNat = e := UInt32.toNat_ofNat_of_lt' he
    split at h
    · next found hkey =>
      obtain ⟨rfl, rfl⟩ := run_pure.1 h
      refine ⟨⟨symmetric, scheme, .ofNat bits, .ofNat e, modulus⟩, ?_, ?_⟩
      · simp only [RsaFields.write, hbits', he', List.append_assoc]
      · simpa only [RsaFields.publicExponent, he', defaultExponent] using hkey
    · cases h
  · rintro ⟨fields, rfl, hkey⟩
    simp only [RsaFields.write, List.append_assoc]
    refine ⟨(), _, ⟨fields.symmetric, rfl⟩, (), _, ⟨fields.scheme, rfl⟩, _, _,
      ⟨fields.keyBits.toNat_lt, rfl⟩, _, _, ⟨fields.exponent.toNat_lt, rfl⟩, _, _,
      ⟨fields.modulus, rfl, rfl⟩, ?_⟩
    have hread : PublicKey.ofRsa fields.modulus.content (Bytes.ofNat 4
        (if fields.exponent.toNat = 0 then defaultExponent else fields.exponent.toNat))
          = .ok key := hkey
    rw [hread]
    exact run_pure.2 ⟨rfl, rfl⟩

/-- What follows the header in a public area. -/
inductive KeyFields where
  | rsa (fields : RsaFields)
  | ecc (fields : EccFields)

namespace KeyFields

/-- The type that an area of such a key begins with. -/
def type : KeyFields → UInt16
  | .rsa _ => 0x0001
  | .ecc _ => 0x0023

/-- The fields, one after another. -/
def write : KeyFields → Bytes
  | .rsa fields => fields.write
  | .ecc fields => fields.write

/-- The fields describe this key. -/
def Describes : KeyFields → PublicKey → Prop
  | .rsa fields => fields.Describes
  | .ecc fields => fields.Describes

end KeyFields

theorem run_readTpmKey {type : UInt16} {input rest : Bytes} {key : PublicKey} :
    (readTpmKey type.toNat).run input = .ok (key, rest) ↔
      ∃ fields : KeyFields, type = fields.type ∧ input = fields.write ++ rest ∧
        fields.Describes key := by
  have hone : type.toNat = 0x0001 ↔ type = 0x0001 := UInt16.toNat_inj (b := 0x0001)
  have hecc : type.toNat = 0x0023 ↔ type = 0x0023 := UInt16.toNat_inj (b := 0x0023)
  unfold readTpmKey
  constructor
  · intro h
    split at h
    · next htype =>
      obtain ⟨fields, hinput, hkey⟩ := run_readRsaKey.1 h
      exact ⟨.rsa fields, hone.1 htype, hinput, hkey⟩
    · split at h
      · next htype =>
        obtain ⟨fields, hinput, hkey⟩ := run_readEccKey.1 h
        exact ⟨.ecc fields, hecc.1 htype, hinput, hkey⟩
      · cases h
  · rintro ⟨fields, rfl, hinput, hkey⟩
    cases fields with
    | rsa fields => exact run_readRsaKey.2 ⟨fields, hinput, hkey⟩
    | ecc fields => exact run_readEccKey.2 ⟨fields, hinput, hkey⟩

theorem PublicArea.decode_eq_ok_iff_fields {bs : Bytes} {area : PublicArea} :
    PublicArea.decode bs = .ok area ↔
      ∃ (header : AreaHeader) (fields : KeyFields),
        bs = header.write fields.type ++ fields.write ∧ fields.Describes area.key ∧
          area.nameAlgorithm = header.nameAlgorithm.toNat := by
  simp only [PublicArea.decode_eq_ok, run_readTpmKey, List.append_nil]
  constructor
  · rintro ⟨_, header, _, rfl, ⟨fields, rfl, rfl, hkey⟩, hname⟩
    exact ⟨header, fields, rfl, hkey, hname⟩
  · rintro ⟨header, fields, rfl, hkey, hname⟩
    exact ⟨fields.type, header, fields.write, rfl, ⟨fields, rfl, rfl, hkey⟩, hname⟩

/-! ### Certifications -/

/-- What a certification consists of. -/
structure CertifyFields where
  magic : UInt32
  type : UInt16
  signer : SizedBytes
  extraData : SizedBytes
  clock : Bytes
  clock_length : clock.length = 17
  firmware : Bytes
  firmware_length : firmware.length = 8
  name : SizedBytes
  qualifiedName : SizedBytes

namespace CertifyFields

/-- The fields, one after another. -/
def write (fields : CertifyFields) : Bytes :=
  Bytes.ofNat 4 fields.magic.toNat ++ (Bytes.ofNat 2 fields.type.toNat ++ (fields.signer.write ++
    (fields.extraData.write ++ (fields.clock ++ (fields.firmware ++ (fields.name.write ++
      fields.qualifiedName.write))))))

/-- What is looked at. -/
def info (fields : CertifyFields) : CertifyInfo where
  magic := fields.magic.toNat
  type := fields.type.toNat
  extraData := fields.extraData.content
  name := fields.name.content

end CertifyFields

theorem CertifyInfo.decode_eq_ok {bs : Bytes} {info : CertifyInfo} :
    CertifyInfo.decode bs = .ok info ↔
      ∃ fields : CertifyFields, bs = fields.write ∧ info = fields.info := by
  simp only [CertifyInfo.decode, readCertifyInfo, map_eq_ok, Prod.exists, run_bind, run_number,
    run_octets, run_sized, run_finish, run_pure]
  constructor
  · rintro ⟨_, _, ⟨magic, _, ⟨hmagic, rfl⟩, type, _, ⟨htype, rfl⟩, _, _, ⟨signer, -, rfl⟩, _, _,
      ⟨extraData, rfl, rfl⟩, clock, _, ⟨hclock, rfl⟩, firmware, _, ⟨hfirmware, rfl⟩, _, _,
      ⟨name, rfl, rfl⟩, _, _, ⟨qualifiedName, -, rfl⟩, _, _, ⟨rfl, rfl⟩, rfl, -⟩, rfl⟩
    have hmagic' : (UInt32.ofNat magic).toNat = magic := UInt32.toNat_ofNat_of_lt' hmagic
    have htype' : (UInt16.ofNat type).toNat = type := UInt16.toNat_ofNat_of_lt' htype
    refine ⟨⟨.ofNat magic, .ofNat type, signer, extraData, clock, hclock, firmware, hfirmware, name,
      qualifiedName⟩, ?_, ?_⟩
    · simp only [CertifyFields.write, hmagic', htype', List.append_nil]
    · simp only [CertifyFields.info, hmagic', htype']
  · rintro ⟨fields, rfl, rfl⟩
    exact ⟨_, _, ⟨_, _, ⟨fields.magic.toNat_lt, rfl⟩, _, _, ⟨fields.type.toNat_lt, rfl⟩, _, _,
      ⟨fields.signer, rfl, rfl⟩, _, _, ⟨fields.extraData, rfl, rfl⟩, _, _,
      ⟨fields.clock_length, rfl⟩, _, _, ⟨fields.firmware_length, rfl⟩, _, _,
      ⟨fields.name, rfl, rfl⟩, _, [], ⟨fields.qualifiedName, rfl, by rw [List.append_nil]⟩, (), [],
      ⟨rfl, rfl⟩, rfl, rfl⟩, rfl⟩

/-! ### Where the structures end -/

theorem readsForward_readRsaKey : ReadsForward .pubArea readRsaKey := by
  unfold readRsaKey
  refine (readsForward_scheme _ _).bind fun _ => (readsForward_scheme _ _).bind fun _ =>
    (readsForward_number _ _).bind fun _ => (readsForward_number _ _).bind fun e =>
      (readsForward_sized _).bind fun n => ?_
  dsimp only
  split
  · exact readsForward_pure _
  · exact readsForward_throw _

theorem readsForward_readEccKey : ReadsForward .pubArea readEccKey := by
  unfold readEccKey
  refine (readsForward_scheme _ _).bind fun _ => (readsForward_scheme _ _).bind fun _ =>
    (readsForward_number _ _).bind fun _ => (readsForward_lift _).bind fun curve =>
      (readsForward_scheme _ _).bind fun _ => (readsForward_sized _).bind fun x =>
        (readsForward_sized _).bind fun y => ?_
  split
  · exact readsForward_pure _
  · exact readsForward_throw _

theorem readsForward_readTpmKey (type : Nat) : ReadsForward .pubArea (readTpmKey type) := by
  unfold readTpmKey
  split
  · exact readsForward_readRsaKey
  · split
    · exact readsForward_readEccKey
    · exact readsForward_throw _

theorem readsWhole_readPublicArea : ReadsWhole .pubArea readPublicArea := by
  unfold readPublicArea
  exact (readsForward_number _ _).bind_whole fun type => (readsForward_number _ _).bind_whole
    fun _ => (readsForward_octets _ _).bind_whole fun _ => (readsForward_sized _).bind_whole
      fun _ => (readsForward_readTpmKey type).bind_whole fun _ => readsWhole_finish _

theorem readsWhole_readCertifyInfo : ReadsWhole .certInfo readCertifyInfo := by
  unfold readCertifyInfo
  exact (readsForward_number _ _).bind_whole fun _ => (readsForward_number _ _).bind_whole fun _ =>
    (readsForward_sized _).bind_whole fun _ => (readsForward_sized _).bind_whole fun _ =>
      (readsForward_octets _ _).bind_whole fun _ => (readsForward_octets _ _).bind_whole fun _ =>
        (readsForward_sized _).bind_whole fun _ => (readsForward_sized _).bind_whole fun _ =>
          readsWhole_finish _

/-- A decoder of a whole structure refuses what is less or more than the structure. -/
theorem TpmReader.ReadsWhole.decode_extent {α : Type} {s : TpmStructure} {r : TpmReader α}
    (hr : ReadsWhole s r) {bs : Bytes} {a : α} (h : (r.run bs).map (·.1) = .ok a) :
    (∀ cut, cut <+: bs → cut ≠ bs → (r.run cut).map (·.1) = .error (.truncated s)) ∧
      ∀ tail, tail ≠ [] → (r.run (bs ++ tail)).map (·.1) = .error (.overlong s) := by
  obtain ⟨⟨_, rest⟩, hread, rfl⟩ := map_eq_ok.1 h
  obtain ⟨hcut, htail⟩ := hr.extent hread
  constructor
  · intro cut hprefix hne
    rw [hcut cut hprefix hne]
    rfl
  · intro tail hne
    rw [htail tail hne]
    rfl

/-- A certification is accepted exactly if it is a sequence of its fields, and a public area exactly
if it is a header and the fields of a key of its type that describe a key. What is looked at are
those fields. A structure that was accepted is refused as truncated if it is cut short, and as too
long if anything follows it. -/
theorem tpm_layout (bs : Bytes) :
    (∀ info, CertifyInfo.decode bs = .ok info ↔
      ∃ fields : CertifyFields, bs = fields.write ∧ info = fields.info) ∧
    (∀ area, PublicArea.decode bs = .ok area ↔
      ∃ (header : AreaHeader) (fields : KeyFields),
        bs = header.write fields.type ++ fields.write ∧ fields.Describes area.key ∧
          area.nameAlgorithm = header.nameAlgorithm.toNat) ∧
    (∀ info, CertifyInfo.decode bs = .ok info →
      (∀ cut, cut <+: bs → cut ≠ bs → CertifyInfo.decode cut = .error (.truncated .certInfo)) ∧
        ∀ tail, tail ≠ [] → CertifyInfo.decode (bs ++ tail) = .error (.overlong .certInfo)) ∧
    ∀ area, PublicArea.decode bs = .ok area →
      (∀ cut, cut <+: bs → cut ≠ bs → PublicArea.decode cut = .error (.truncated .pubArea)) ∧
        ∀ tail, tail ≠ [] → PublicArea.decode (bs ++ tail) = .error (.overlong .pubArea) :=
  ⟨fun _ => CertifyInfo.decode_eq_ok, fun _ => PublicArea.decode_eq_ok_iff_fields,
    fun _ h => readsWhole_readCertifyInfo.decode_extent h,
    fun _ h => readsWhole_readPublicArea.decode_extent h⟩

end Attestation

end Passkey
