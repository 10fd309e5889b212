import Passkey.Proofs.Authenticator.Grammar
import Passkey.Proofs.Cose.KeyExtent

/-!
# Where a record ends

Nothing in a record says how long it is, but its flags and the items in it do: no record begins
another. What a reader of a part makes of its input, it makes of every longer input too, unless the
input is malformed (`ReadsForward`). So a record that is cut short is not taken for a shorter one and
not blamed on its key, and further bytes are noticed at the very end.
-/

namespace Passkey.AuthenticatorData

variable {α : Type} {bs tail : Bytes}

/-- The reader goes through its input from front to back: further bytes are left over where it
succeeds, and where it fails they change nothing unless the input is malformed. -/
structure ReadsForward (read : Bytes → Except DecodeError (α × Bytes)) : Prop where
  ok_append : ∀ {bs rest : Bytes} {a : α} (tail : Bytes),
    read bs = .ok (a, rest) → read (bs ++ tail) = .ok (a, rest ++ tail)
  error_append : ∀ {bs : Bytes} {e : DecodeError} (tail : Bytes), read bs = .error e →
    (∃ defect, e = .authenticatorData defect) ∨ read (bs ++ tail) = .error e

/-! ### The parts -/

/-- A key of an unsupported kind is refused whatever follows it. -/
theorem decodePrefix_unsupported_append {kind : UnsupportedKey}
    (h : CoseKey.decodePrefix bs = .error (.unsupported kind)) (tail : Bytes) :
    CoseKey.decodePrefix (bs ++ tail) = .error (.unsupported kind) := by
  have hitem : Cbor.decodePrefix? bs ≠ none := by
    intro hnone
    rw [(CoseKey.unreadable_of_item hnone).2] at h
    cases h
  rw [CoseKey.decodePrefix_append hitem, h]

theorem readsForward_readAttested : ReadsForward readAttested where
  ok_append tail h := by
    obtain ⟨c, hc, rfl⟩ := readAttested_eq_ok.1 h
    exact readAttested_eq_ok.2 ⟨c, hc, List.append_assoc ..⟩
  error_append := by
    intro bs e tail h
    by_cases hlong : 18 ≤ bs.length
    · obtain ⟨aaguid, n, body, hn, rfl⟩ := exists_credential_header hlong
      rw [readAttested_header_eq hn] at h
      rcases refuse_eq_error.1 h with ⟨-, rfl⟩ | ⟨hmax, h⟩
      · exact Or.inl ⟨_, rfl⟩
      rcases refuse_eq_error.1 h with ⟨-, rfl⟩ | ⟨hbody, h⟩
      · exact Or.inl ⟨_, rfl⟩
      -- The identifier is there, so only the key can be at fault.
      cases hkey : CoseKey.decodePrefix (body.drop n) with
      | ok found =>
        rw [hkey] at h
        cases h
      | error refusal =>
        rw [hkey] at h
        obtain rfl : keyError refusal = e := Except.error.inj h
        cases refusal with
        | malformed defect => exact Or.inl ⟨_, rfl⟩
        | unsupported kind =>
          right
          have hlonger : ¬ (body ++ tail).length < n := by
            rw [List.length_append]
            omega
          have hdrop : (body ++ tail).drop n = body.drop n ++ tail :=
            List.drop_append_of_le_length (Nat.not_lt.1 hbody)
          rw [List.append_assoc, readAttested_header_eq hn, if_neg hmax, if_neg hlonger, hdrop,
            decodePrefix_unsupported_append hkey]
    · unfold readAttested at h
      rw [dif_pos (Nat.not_le.1 hlong)] at h
      cases h
      exact Or.inl ⟨_, rfl⟩

theorem readsForward_readExtensions : ReadsForward readExtensions where
  ok_append tail h := by
    obtain ⟨e, he, rfl⟩ := readExtensions_eq_ok.1 h
    exact readExtensions_eq_ok.2 ⟨e, he, List.append_assoc ..⟩
  error_append := by
    intro bs e tail h
    unfold readExtensions at h
    split at h
    all_goals cases h
    all_goals exact Or.inl ⟨_, rfl⟩

theorem ReadsForward.optionally {read : Bytes → Except DecodeError (α × Bytes)}
    (hread : ReadsForward read) (announced : Bool) :
    ReadsForward (AuthenticatorData.optionally announced read) := by
  cases announced with
  | false =>
    constructor
    · intro bs rest a tail h
      cases h
      rfl
    · intro bs e tail h
      cases h
  | true =>
    constructor
    · intro bs rest a tail h
      obtain ⟨⟨found, left⟩, hfound, heq⟩ := map_eq_ok.1 h
      cases heq
      exact map_eq_ok.2 ⟨_, hread.ok_append tail hfound, rfl⟩
    · intro bs e tail h
      have hfailed {input : Bytes} :
          AuthenticatorData.optionally true read input = .error e ↔ read input = .error e := by
        show (read input).map _ = .error e ↔ _
        cases read input <;> simp [Except.map]
      rw [hfailed] at h ⊢
      exact hread.error_append tail h

theorem readsForward_readParts (flags : AuthenticatorFlags) : ReadsForward (readParts flags) := by
  have hattested := readsForward_readAttested.optionally flags.attested
  have hextensions := readsForward_readExtensions.optionally flags.extensions
  constructor
  · intro bs rest parts tail h
    obtain ⟨⟨attested, middle⟩, ha, h⟩ := bind_eq_ok.1 h
    obtain ⟨⟨extensions, last⟩, he, h⟩ := bind_eq_ok.1 h
    cases h
    refine bind_eq_ok.2 ⟨_, hattested.ok_append tail ha, ?_⟩
    exact bind_eq_ok.2 ⟨_, hextensions.ok_append tail he, rfl⟩
  · intro bs e tail h
    rcases bind_eq_error.1 h with ha | ⟨⟨attested, middle⟩, ha, h⟩
    · refine (hattested.error_append tail ha).imp_right ?_
      intro ha'
      exact bind_eq_error.2 (Or.inl ha')
    · rcases bind_eq_error.1 h with he | ⟨⟨extensions, last⟩, he, h⟩
      · refine (hextensions.error_append tail he).imp_right ?_
        intro he'
        refine bind_eq_error.2 (Or.inr ⟨_, hattested.ok_append tail ha, ?_⟩)
        exact bind_eq_error.2 (Or.inl he')
      · cases h

/-! ### The whole record -/

/-- Further bytes after a record are noticed as such. -/
theorem decode_append {d : AuthenticatorData} (h : decode bs = .ok d) (htail : tail ≠ []) :
    decode (bs ++ tail) = .error (.authenticatorData (.trailing tail.length)) := by
  obtain ⟨hash, flags, counter, body, hhash, rfl⟩ := exists_header (headerSize_le_of_decode h)
  rw [decode_header_eq hhash] at h
  obtain ⟨⟨parts, rest⟩, hparts, h⟩ := bind_eq_ok.1 h
  obtain ⟨hrest, -⟩ := refuse_eq_ok.1 h
  have hlonger : readParts ⟨flags⟩ (body ++ tail) = .ok (parts, tail) := by
    have happend := (readsForward_readParts ⟨flags⟩).ok_append tail hparts
    rwa [Decidable.not_not.1 hrest, List.nil_append] at happend
  rw [List.append_assoc, decode_header_eq hhash, hlonger, ok_bind]
  exact if_pos htail

/-- What is refused for another reason than that it is malformed is refused for that reason whatever
follows it. -/
theorem decode_append_of_error {e : DecodeError} (h : decode bs = .error e) (tail : Bytes) :
    (∃ defect, e = .authenticatorData defect) ∨ decode (bs ++ tail) = .error e := by
  by_cases hlong : headerSize ≤ bs.length
  · obtain ⟨hash, flags, counter, body, hhash, rfl⟩ := exists_header hlong
    rw [decode_header_eq hhash] at h
    rcases bind_eq_error.1 h with hparts | ⟨⟨parts, rest⟩, -, h⟩
    · refine ((readsForward_readParts ⟨flags⟩).error_append tail hparts).imp_right ?_
      intro hlonger
      rw [List.append_assoc, decode_header_eq hhash, hlonger, error_bind]
    · rcases refuse_eq_error.1 h with ⟨-, rfl⟩ | ⟨-, hok⟩
      · exact Or.inl ⟨_, rfl⟩
      · cases hok
  · unfold decode at h
    rw [if_pos (Nat.not_le.1 hlong)] at h
    cases h
    exact Or.inl ⟨_, rfl⟩

/-- A record that is cut short, or goes on, is malformed. -/
theorem record_extent (bs : Bytes) (d : AuthenticatorData) (h : decode bs = .ok d) :
    (∀ cut, cut <+: bs → cut ≠ bs → ∃ defect, decode cut = .error (.authenticatorData defect)) ∧
    ∀ tail, tail ≠ [] →
      decode (bs ++ tail) = .error (.authenticatorData (.trailing tail.length)) := by
  constructor
  · intro cut hcut hne
    obtain ⟨tail, htail, rfl⟩ := Reading.exists_tail_of_cut hcut hne
    cases hread : decode cut with
    | ok shorter =>
      -- Then the record would only be trailing bytes after the shorter one.
      rw [decode_append hread htail] at h
      cases h
    | error e =>
      rcases decode_append_of_error hread tail with ⟨defect, rfl⟩ | hlonger
      · exact ⟨defect, rfl⟩
      · rw [hlonger] at h
        cases h
  · intro tail htail
    exact decode_append h htail

/-- A record of a short key and of no extension outputs, which it announces all the same. -/
def shortRecord : RecordParts where
  rpIdHash := List.replicate 32 0
  flags := 0xc1
  counter := 0
  credential := some ⟨.zero, [0x07], CoseKey.shortKey.encode⟩
  extensions := some (Cbor.Value.map []).write

theorem shortRecord_wellFormed : shortRecord.WellFormed where
  hash_length := rfl
  credential_announced := by decide
  id_length := by
    rintro c ⟨⟩
    decide
  key_item := by
    rintro c ⟨⟩
    exact ⟨CoseKey.shortKey, by decide +kernel⟩
  extensions_announced := by decide
  extensions_item := by
    rintro e ⟨⟩
    exact ⟨[], rfl⟩

/-- It is read, but neither without its last byte nor with one more. -/
theorem shortRecord_extent :
    (∃ d, decode shortRecord.bytes = .ok d) ∧
      (∃ defect, decode shortRecord.bytes.dropLast = .error (.authenticatorData defect)) ∧
      decode (shortRecord.bytes ++ [0x00]) = .error (.authenticatorData (.trailing 1)) := by
  obtain ⟨d, hd⟩ := shortRecord_wellFormed.exists_describes
  have hread := (RecordParts.decode_bytes shortRecord_wellFormed).2 hd
  obtain ⟨hcut, htail⟩ := record_extent shortRecord.bytes d hread
  have hne : shortRecord.bytes.dropLast ≠ shortRecord.bytes := by decide +kernel
  exact ⟨⟨d, hread⟩, hcut _ (List.dropLast_prefix _) hne, htail [0x00] (List.cons_ne_nil _ _)⟩

end Passkey.AuthenticatorData
