import Passkey.Proofs.Authenticator.ObjectRoundTrip
import Passkey.Proofs.Authenticator.RecordExtent

/-!
# Where an attestation object ends

An attestation object is one item, so it ends where the item does. What is written for a format,
authenticator data and a statement is read as that format and that statement, whatever becomes of
the authenticator data; without some of its last bytes, or with more, no object is read any more.
-/

namespace Passkey.AttestationObject

variable {bs tail : Bytes} {object : AttestationObject}

theorem item_of_decode (h : decode bs = .ok object) :
    ∃ entries, Cbor.decode bs = .ok (.map entries) := by
  unfold decode at h
  split at h
  · cases h
  · rename_i entries hitem
    exact ⟨entries, hitem⟩
  · cases h

/-- An object that is cut short is unreadable. -/
theorem decode_of_cut (h : decode (bs ++ tail) = .ok object) (htail : tail ≠ []) :
    decode bs = .error (.attestationObject (.item .unreadable)) := by
  obtain ⟨entries, hitem⟩ := item_of_decode h
  have hcut : Cbor.decode bs = .error .unreadable :=
    Cbor.decode_eq_unreadable.2 (Cbor.decodePrefix?_eq_none_of_cut hitem htail)
  rw [decode, hcut]

/-- What follows an object is trailing. -/
theorem decode_append (h : decode bs = .ok object) (htail : tail ≠ []) :
    decode (bs ++ tail) = .error (.attestationObject (.item (.trailing tail.length))) := by
  obtain ⟨entries, hitem⟩ := item_of_decode h
  rw [decode, Cbor.decode_append hitem htail]

/-- Two maps are around what a statement holds: the statement itself and the object. -/
theorem plain_statement {statement : Cbor.Entries} {depth : Nat} (hdepth : depth + 2 ≤ Cbor.maxDepth)
    (hplain : ∀ e ∈ statement, e.1.Plain depth ∧ e.2.Plain depth) :
    (Cbor.Value.map statement).Plain 255 := by
  have hle : depth ≤ 254 := Nat.le_of_add_le_add_right hdepth
  exact .map (fun e he => (hplain e he).1.mono hle) (fun e he => (hplain e he).2.mono hle)

/-- An object is read as it was written, with the statement's entries as they are, if its
authenticator data can be read, and otherwise ends in the error of that. The object and its statement
are two of the containers that an item may have around each other, and no string in an item has more
bytes than 64 bits can say. No object is read from some of the bytes of another, or from more. -/
theorem object_round_trip :
    (∀ (format : String) (data : Bytes) (statement : Cbor.Entries) (depth : Nat),
      depth + 2 ≤ Cbor.maxDepth → (∀ e ∈ statement, e.1.Plain depth ∧ e.2.Plain depth) →
      (write format data statement).length < 2 ^ 64 →
      (∀ d, AuthenticatorData.decode data = .ok d →
        decode (write format data statement) = .ok ⟨format, d, ⟨statement⟩⟩) ∧
      ∀ e, AuthenticatorData.decode data = .error e →
        decode (write format data statement) = .error e) ∧
    ∀ (bs : Bytes) (object : AttestationObject), decode bs = .ok object →
      (∀ cut, cut <+: bs → cut ≠ bs →
        decode cut = .error (.attestationObject (.item .unreadable))) ∧
      ∀ tail, tail ≠ [] →
        decode (bs ++ tail) = .error (.attestationObject (.item (.trailing tail.length))) := by
  constructor
  · intro format data statement depth hdepth hplain hlength
    have hread := decode_write (plain_statement hdepth hplain) hlength
    constructor
    · intro d hd
      rw [hread, hd]
      rfl
    · intro e he
      rw [hread, he]
      rfl
  · intro bs object h
    constructor
    · intro cut hcut hne
      obtain ⟨tail, htail, rfl⟩ := Reading.exists_tail_of_cut hcut hne
      exact decode_of_cut h htail
    · intro tail htail
      exact decode_append h htail

/-- A statement that repeats a key and nests a map. -/
def repeatingStatement : Cbor.Entries :=
  [(.text "x", .int (-1)), (.text "x", .array [.null, .map [(.bytes [0x00], .bool true)]])]

/-- It is read back with both entries, around a short record, and not without the last byte. -/
theorem repeatingStatement_round_trip :
    let bs := write "none" AuthenticatorData.shortRecord.bytes repeatingStatement
    (∃ d, decode bs = .ok ⟨"none", d, ⟨repeatingStatement⟩⟩) ∧
      decode bs.dropLast = .error (.attestationObject (.item .unreadable)) := by
  intro bs
  have hplain : ∀ e ∈ repeatingStatement, e.1.Plain 2 ∧ e.2.Plain 2 := by
    have hinner : (Cbor.Value.map [(.bytes [0x00], .bool true)]).Plain 1 :=
      .map (by simp [Cbor.Value.Plain.bytes]) (by simp [Cbor.Value.Plain.bool])
    have houter : (Cbor.Value.array [.null, .map [(.bytes [0x00], .bool true)]]).Plain 2 :=
      .array (by simp [Cbor.Value.Plain.null, hinner])
    have hint : (Cbor.Value.int (-1)).Plain 2 := .int (by decide) (by decide)
    simp [repeatingStatement, Cbor.Value.Plain.text, hint, houter]
  have hlength : bs.length < 2 ^ 64 := by decide +kernel
  have hne : bs.dropLast ≠ bs := by decide +kernel
  obtain ⟨d, hd⟩ := AuthenticatorData.shortRecord_wellFormed.exists_describes
  have hdata := (RecordParts.decode_bytes AuthenticatorData.shortRecord_wellFormed).2 hd
  obtain ⟨hwritten, hextent⟩ := object_round_trip
  have hread := (hwritten _ _ _ 2 (by decide) hplain hlength).1 d hdata
  exact ⟨⟨d, hread⟩, (hextent bs _ hread).1 _ (List.dropLast_prefix _) hne⟩

end Passkey.AttestationObject
