import Passkey.Attestation.Tpm
import Passkey.Proofs.Fallible
import Passkey.Theory.Radix

/-!
# Fields of TPM structures

A structure of a TPM is a sequence of fields, and what a field holds can be written in one way only.
A reader of a field takes exactly the octets that write it and leaves whatever follows them
(`run_number`, `run_sized`, `run_scheme`). So a public area that is read is a header and a key
(`PublicArea.decode_eq_ok`), and octets that are written as fields determine them.
-/

namespace Passkey

theorem Bytes.ofNat_append_inj {width n m : Nat} {bs cs : Bytes} (hn : n < 256 ^ width)
    (hm : m < 256 ^ width) (h : ofNat width n ++ bs = ofNat width m ++ cs) : n = m ∧ bs = cs := by
  obtain ⟨hnumber, hrest⟩ := List.append_inj h (by simp)
  refine ⟨?_, hrest⟩
  rw [← toNat_ofNat hn, hnumber, toNat_ofNat hm]

namespace Attestation

/-! ### What fields hold -/

/-- A byte string whose length fits in front of it. -/
@[ext] structure SizedBytes where
  content : Bytes
  length_lt : content.length < 65536

/-- The length, then the bytes. -/
def SizedBytes.write (field : SizedBytes) : Bytes :=
  Bytes.ofNat 2 field.content.length ++ field.content

/-- No algorithm, or one with so many octets about it. -/
inductive SchemeField (details : Nat) where
  | null
  | chosen (algorithm : UInt16) (octets : Bytes)
    (ne_null : algorithm.toNat ≠ TpmReader.nullAlgorithm) (length_eq : octets.length = details)

/-- The algorithm's identifier, then the octets about it. -/
def SchemeField.write {details : Nat} : SchemeField details → Bytes
  | .null => Bytes.ofNat 2 TpmReader.nullAlgorithm
  | .chosen algorithm octets _ _ => Bytes.ofNat 2 algorithm.toNat ++ octets

/-- What a public area begins with, whatever its type. -/
structure AreaHeader where
  nameAlgorithm : UInt16
  attributes : Bytes
  attributes_length : attributes.length = 4
  policy : SizedBytes

/-- The type, then the fields of the header. -/
def AreaHeader.write (type : UInt16) (header : AreaHeader) : Bytes :=
  Bytes.ofNat 2 type.toNat ++ (Bytes.ofNat 2 header.nameAlgorithm.toNat ++
    (header.attributes ++ header.policy.write))

/-! ### What octets are read as -/

namespace TpmReader

variable {α β : Type} {s : TpmStructure} {input rest : Bytes}

theorem run_bind {r : TpmReader α} {f : α → TpmReader β} {b : β} :
    (r >>= f).run input = .ok (b, rest) ↔
      ∃ a middle, r.run input = .ok (a, middle) ∧ (f a).run middle = .ok (b, rest) := by
  simp only [StateT.run_bind, bind_eq_ok, Prod.exists]

theorem run_pure {a b : α} :
    (pure a : TpmReader α).run input = .ok (b, rest) ↔ b = a ∧ input = rest := by
  simp only [StateT.run_pure, pure_eq_ok, Prod.mk.injEq]
  exact and_congr_right fun _ => eq_comm

theorem run_discard {r : TpmReader α} {u : Unit} :
    (discard r).run input = .ok (u, rest) ↔ ∃ a, r.run input = .ok (a, rest) := by
  have hbind : discard r = r >>= fun _ => pure () := rfl
  simp only [hbind, run_bind, run_pure, true_and, exists_eq_right]

theorem run_lift {x : Except StatementDefect α} {a : α} :
    (liftM x : TpmReader α).run input = .ok (a, rest) ↔ x = .ok a ∧ input = rest := by
  cases x with
  | error e =>
    constructor
    · intro h
      cases h
    · rintro ⟨h, -⟩
      cases h
  | ok b =>
    constructor
    · intro h
      cases h
      exact ⟨rfl, rfl⟩
    · rintro ⟨h, rfl⟩
      cases h
      rfl

theorem run_octets {n : Nat} {v : Bytes} :
    (octets s n).run input = .ok (v, rest) ↔ v.length = n ∧ input = v ++ rest := by
  have hrun : (octets s n).run input =
      if n ≤ input.length then .ok (input.take n, input.drop n) else .error (.truncated s) := by
    by_cases hn : n ≤ input.length <;> simp [octets, StateT.run, Bytes.split?, hn]
  rw [hrun, require_eq_ok]
  constructor
  · rintro ⟨hn, h⟩
    cases h
    exact ⟨List.length_take_of_le hn, (List.take_append_drop n input).symm⟩
  · rintro ⟨rfl, rfl⟩
    simp

theorem run_number {width n : Nat} :
    (number s width).run input = .ok (n, rest) ↔
      n < 256 ^ width ∧ input = Bytes.ofNat width n ++ rest := by
  simp only [number, run_bind, run_octets, run_pure]
  constructor
  · rintro ⟨bs, _, ⟨rfl, rfl⟩, rfl, rfl⟩
    exact ⟨Bytes.toNat_lt bs, by rw [Bytes.ofNat_toNat]⟩
  · rintro ⟨hn, rfl⟩
    exact ⟨_, _, ⟨by simp, rfl⟩, (Bytes.toNat_ofNat hn).symm, rfl⟩

theorem run_sized {v : Bytes} :
    (sized s).run input = .ok (v, rest) ↔
      ∃ field : SizedBytes, field.content = v ∧ input = field.write ++ rest := by
  simp only [sized, run_bind, run_number, run_octets]
  constructor
  · rintro ⟨_, _, ⟨hlt, rfl⟩, rfl, rfl⟩
    exact ⟨⟨v, hlt⟩, rfl, by rw [SizedBytes.write, List.append_assoc]⟩
  · rintro ⟨field, rfl, rfl⟩
    exact ⟨_, _, ⟨field.length_lt, by rw [SizedBytes.write, List.append_assoc]⟩, rfl, rfl⟩

theorem run_scheme {details : Nat} {u : Unit} :
    (scheme s details).run input = .ok (u, rest) ↔
      ∃ field : SchemeField details, input = field.write ++ rest := by
  have hchosen (n : Nat) (middle : Bytes) :
      (if n ≠ nullAlgorithm then discard (octets s details) else pure () : TpmReader Unit).run
          middle = .ok (u, rest) ↔
        if n = nullAlgorithm then middle = rest
        else ∃ v, v.length = details ∧ middle = v ++ rest := by
    by_cases hnull : n = nullAlgorithm
    · simp only [hnull, ne_eq, not_true_eq_false, if_false, if_true, run_pure, true_and]
    · simp only [hnull, ne_eq, not_false_eq_true, if_true, if_false, run_discard, run_octets]
  simp only [scheme, run_bind, run_number, hchosen]
  constructor
  · rintro ⟨n, middle, ⟨hn, rfl⟩, h⟩
    by_cases hnull : n = nullAlgorithm
    · rw [if_pos hnull] at h
      subst h hnull
      exact ⟨.null, rfl⟩
    · rw [if_neg hnull] at h
      obtain ⟨v, hlength, rfl⟩ := h
      have halgorithm : (UInt16.ofNat n).toNat = n := UInt16.toNat_ofNat_of_lt' hn
      refine ⟨.chosen (.ofNat n) v (by rwa [halgorithm]) hlength, ?_⟩
      rw [SchemeField.write, halgorithm, List.append_assoc]
  · rintro ⟨field, rfl⟩
    cases field with
    | null => exact ⟨_, _, ⟨by decide, rfl⟩, by rw [if_pos rfl]⟩
    | chosen algorithm v hne hlength =>
      refine ⟨_, v ++ rest, ⟨algorithm.toNat_lt, List.append_assoc ..⟩, ?_⟩
      rw [if_neg hne]
      exact ⟨v, hlength, rfl⟩

theorem run_finish {u : Unit} :
    (finish s).run input = .ok (u, rest) ↔ input = [] ∧ rest = [] := by
  cases input with
  | nil => simp [finish, StateT.run, eq_comm]
  | cons b bs => simp [finish, StateT.run]

end TpmReader

open TpmReader

/-! ### One way to write a field -/

theorem SizedBytes.write_append_inj {v w : SizedBytes} {bs cs : Bytes}
    (h : v.write ++ bs = w.write ++ cs) : v = w ∧ bs = cs := by
  have hv : (sized .pubArea).run (v.write ++ bs) = .ok (v.content, bs) := run_sized.2 ⟨v, rfl, rfl⟩
  have hw : (sized .pubArea).run (w.write ++ cs) = .ok (w.content, cs) := run_sized.2 ⟨w, rfl, rfl⟩
  rw [h, hw, Except.ok.injEq, Prod.mk.injEq] at hv
  exact ⟨SizedBytes.ext hv.1.symm, hv.2.symm⟩

theorem SchemeField.write_append_inj {details : Nat} {v w : SchemeField details} {bs cs : Bytes}
    (h : v.write ++ bs = w.write ++ cs) : v = w ∧ bs = cs := by
  have hnull : nullAlgorithm < 256 ^ 2 := by decide
  cases v with
  | null =>
    cases w with
    | null => exact ⟨rfl, List.append_cancel_left h⟩
    | chosen algorithm octets hne hlength =>
      rw [write, write, List.append_assoc] at h
      exact absurd (Bytes.ofNat_append_inj hnull algorithm.toNat_lt h).1.symm hne
  | chosen algorithm octets hne hlength =>
    cases w with
    | null =>
      rw [write, write, List.append_assoc] at h
      exact absurd (Bytes.ofNat_append_inj algorithm.toNat_lt hnull h).1 hne
    | chosen algorithm' octets' hne' hlength' =>
      rw [write, write, List.append_assoc, List.append_assoc] at h
      obtain ⟨halgorithm, h⟩ := Bytes.ofNat_append_inj algorithm.toNat_lt algorithm'.toNat_lt h
      obtain ⟨rfl, hrest⟩ := List.append_inj h (hlength.trans hlength'.symm)
      obtain rfl := UInt16.toNat_inj.1 halgorithm
      exact ⟨rfl, hrest⟩

theorem AreaHeader.write_append_inj {type type' : UInt16} {header header' : AreaHeader}
    {bs cs : Bytes} (h : header.write type ++ bs = header'.write type' ++ cs) :
    type = type' ∧ header = header' ∧ bs = cs := by
  obtain ⟨name, attributes, hlength, policy⟩ := header
  obtain ⟨name', attributes', hlength', policy'⟩ := header'
  simp only [write, List.append_assoc] at h
  obtain ⟨htype, h⟩ := Bytes.ofNat_append_inj type.toNat_lt type'.toNat_lt h
  obtain ⟨hname, h⟩ := Bytes.ofNat_append_inj name.toNat_lt name'.toNat_lt h
  obtain ⟨rfl, hpolicy⟩ := List.append_inj h (hlength.trans hlength'.symm)
  obtain ⟨rfl, hrest⟩ := SizedBytes.write_append_inj hpolicy
  obtain rfl := UInt16.toNat_inj.1 htype
  obtain rfl := UInt16.toNat_inj.1 hname
  exact ⟨rfl, rfl, hrest⟩

/-! ### Public areas -/

/-- A public area is a header and a key of the type that the header begins with. -/
theorem PublicArea.decode_eq_ok {bs : Bytes} {area : PublicArea} :
    PublicArea.decode bs = .ok area ↔
      ∃ type header octets, bs = AreaHeader.write type header ++ octets ∧
        (readTpmKey type.toNat).run octets = .ok (area.key, []) ∧
        area.nameAlgorithm = header.nameAlgorithm.toNat := by
  simp only [PublicArea.decode, readPublicArea, map_eq_ok, Prod.exists, run_bind, run_number,
    run_octets, run_sized, run_finish, run_pure]
  constructor
  · rintro ⟨_, _, ⟨type, _, ⟨htype, rfl⟩, name, _, ⟨hname, rfl⟩, attributes, _,
      ⟨hattributes, rfl⟩, _, octets, ⟨policy, -, rfl⟩, key, _, hkey, _, _, ⟨rfl, rfl⟩, rfl, -⟩, rfl⟩
    have htoNat {n : Nat} (hn : n < 256 ^ 2) : (UInt16.ofNat n).toNat = n :=
      UInt16.toNat_ofNat_of_lt' hn
    refine ⟨.ofNat type, ⟨.ofNat name, attributes, hattributes, policy⟩, octets, ?_, ?_, ?_⟩
    · simp only [AreaHeader.write, htoNat htype, htoNat hname, List.append_assoc]
    · rwa [htoNat htype]
    · exact (htoNat hname).symm
  · rintro ⟨type, header, octets, rfl, hkey, hname⟩
    obtain ⟨_, key⟩ := area
    obtain rfl := hname
    refine ⟨_, _, ⟨type.toNat, _, ⟨type.toNat_lt, ?_⟩, header.nameAlgorithm.toNat, _,
      ⟨header.nameAlgorithm.toNat_lt, rfl⟩, header.attributes, _, ⟨header.attributes_length, rfl⟩,
      _, octets, ⟨header.policy, rfl, rfl⟩, key, [], hkey, (), [], ⟨rfl, rfl⟩, rfl, rfl⟩, rfl⟩
    simp only [AreaHeader.write, List.append_assoc]

end Attestation

end Passkey
