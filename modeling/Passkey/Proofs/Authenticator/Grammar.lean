import Passkey.Proofs.Authenticator.KeyBytes
import Passkey.Theory.Radix

/-!
# The grammar of authenticator data

A record is a header of 37 bytes, then a new credential and extension outputs where the flags
announce them. Nothing says how long the last two parts are: each ends where the item in it does.
`RecordParts` names the parts and `RecordParts.bytes` puts them one after another; what is decoded
is exactly what consists of well-formed parts, in one way only.
-/

namespace Passkey

/-- The parts of a new credential: the model, the identifier and the bytes of the key. -/
structure CredentialParts where
  aaguid : Aaguid
  id : Bytes
  key : Bytes
  deriving DecidableEq, Repr

/-- The identifier follows its length, and the key ends the credential. -/
def CredentialParts.bytes (c : CredentialParts) : Bytes :=
  c.aaguid.bytes ++ Bytes.ofNat 2 c.id.length ++ c.id ++ c.key

/-- A credential says what its parts say, with the key decoded and as it was written. -/
structure CredentialParts.Describes (c : CredentialParts) (a : AttestedCredential) : Prop where
  aaguid_eq : a.aaguid = c.aaguid
  id_eq : a.credentialId = c.id
  key_decoded : CoseKey.decode c.key = .ok a.publicKey
  keyBytes_eq : a.publicKeyBytes = c.key

/-- The parts of a record, the last two as bytes where they are there. -/
structure RecordParts where
  rpIdHash : Bytes
  flags : UInt8
  counter : UInt32
  credential : Option CredentialParts
  extensions : Option Bytes
  deriving DecidableEq, Repr

namespace RecordParts

/-- The parts one after another. -/
def bytes (p : RecordParts) : Bytes :=
  p.rpIdHash ++ p.flags :: Bytes.ofNat 4 p.counter.toNat ++
    (p.credential.map CredentialParts.bytes).getD [] ++ p.extensions.getD []

/-- The parts are as long as they may be, the optional ones are there if and only if the flags
announce them, and what ends with an item is one item. -/
structure WellFormed (p : RecordParts) : Prop where
  hash_length : p.rpIdHash.length = 32
  credential_announced : p.credential ≠ none ↔ p.flags &&& 0x40 ≠ 0
  id_length : ∀ c, p.credential = some c → c.id.length ≤ 1023
  key_item : ∀ c, p.credential = some c → ∃ k, CoseKey.decode c.key = .ok k
  extensions_announced : p.extensions ≠ none ↔ p.flags &&& 0x80 ≠ 0
  extensions_item : ∀ e, p.extensions = some e → ∃ entries, Cbor.decode e = .ok (.map entries)

/-- A record says what its parts say, and keeps their bytes. -/
structure Describes (p : RecordParts) (d : AuthenticatorData) : Prop where
  bytes_eq : d.bytes = p.bytes
  rpIdHash_eq : d.rpIdHash = p.rpIdHash
  flags_eq : d.flags = ⟨p.flags⟩
  counter_eq : d.counter = p.counter
  attested_eq : Option.Rel CredentialParts.Describes p.credential d.attested
  extensions_eq :
    Option.Rel (fun e entries => Cbor.decode e = .ok (.map entries)) p.extensions d.extensions

end RecordParts

/-! ### The parts that may be there -/

section Optional

variable {α β : Type} {means : β → α → Prop} {part : Option β} {value : Option α}

theorem exists_of_rel_some {b : β} (h : Option.Rel means (some b) value) :
    ∃ a, value = some a ∧ means b a := by
  cases h with
  | some h => exact ⟨_, rfl, h⟩

theorem rel_and_iff {p : β → Prop} :
    Option.Rel (fun b a => p b ∧ means b a) part value ↔
      (∀ b, part = some b → p b) ∧ Option.Rel means part value := by
  constructor
  · intro h
    cases h with
    | none => exact ⟨fun _ h => (nomatch h), .none⟩
    | some h => exact ⟨fun _ hb => Option.some.inj hb ▸ h.1, .some h.2⟩
  · rintro ⟨hp, h⟩
    cases h with
    | none => exact .none
    | some h => exact .some ⟨hp _ rfl, h⟩

theorem isSome_eq_iff {announced : Bool} {p : Prop} (h : announced = true ↔ p) :
    part.isSome = announced ↔ (part ≠ none ↔ p) := by
  rw [Bool.eq_iff_iff, h, Option.isSome_iff_ne_none]

end Optional

namespace AuthenticatorData

variable {α : Type} {bs rest : Bytes}

/-- A part that is read exactly where its bytes stand is, where it may be missing, read exactly if
it is announced and its bytes stand there, or neither. -/
theorem optionally_eq_ok_iff {β : Type} {announced : Bool}
    {read : Bytes → Except DecodeError (α × Bytes)} {means : β → α → Prop} {spelled : β → Bytes}
    (hread : ∀ a, read bs = .ok (a, rest) ↔ ∃ b, means b a ∧ bs = spelled b ++ rest)
    {part : Option α} :
    optionally announced read bs = .ok (part, rest) ↔
      ∃ b? : Option β, b?.isSome = announced ∧ Option.Rel means b? part ∧
        bs = (b?.map spelled).getD [] ++ rest := by
  cases announced with
  | false =>
    constructor
    · intro h
      cases h
      exact ⟨none, rfl, .none, rfl⟩
    · rintro ⟨_ | b, hb, hmeans, hbs⟩
      · cases hmeans
        rw [hbs]
        rfl
      · cases hb
  | true =>
    simp only [optionally, if_true, map_eq_ok]
    constructor
    · rintro ⟨⟨a, left⟩, h, heq⟩
      cases heq
      obtain ⟨b, hb, hbs⟩ := (hread a).1 h
      exact ⟨some b, rfl, .some hb, hbs⟩
    · rintro ⟨_ | b, hb, hmeans, hbs⟩
      · cases hb
      · cases hmeans with
        | some hmeans => exact ⟨(_, rest), (hread _).2 ⟨b, hmeans, hbs⟩, rfl⟩

/-- Any eighteen bytes are a model and the length of an identifier. -/
theorem exists_credential_header (h : 18 ≤ bs.length) :
    ∃ (aaguid : Aaguid) (n : Nat) (body : Bytes), n < 65536 ∧
      bs = aaguid.bytes ++ Bytes.ofNat 2 n ++ body := by
  have hlength : ((bs.drop 16).take 2).length = 2 := by simp; omega
  refine ⟨⟨bs.take 16, by simp; omega⟩, Bytes.toNat ((bs.drop 16).take 2), bs.drop 18, ?_, ?_⟩
  · have := Bytes.toNat_lt ((bs.drop 16).take 2)
    rwa [hlength] at this
  · have hwritten := Bytes.ofNat_toNat ((bs.drop 16).take 2)
    rw [hlength] at hwritten
    show bs = bs.take 16 ++ _ ++ _
    rw [hwritten, ← List.drop_drop (i := 2) (j := 16), List.append_assoc, List.take_append_drop,
      List.take_append_drop]

/-- Past its header, a credential is read as an identifier of the stated length and then a key. -/
theorem readAttested_header_eq {aaguid : Aaguid} {n : Nat} (hn : n < 65536) (body : Bytes) :
    readAttested (aaguid.bytes ++ Bytes.ofNat 2 n ++ body) =
      if n > maxIdLength then .error (.authenticatorData (.idTooLong n))
      else if body.length < n then .error (.authenticatorData (.idOverruns n))
      else
        match CoseKey.decodePrefix (body.drop n) with
        | .error e => .error (keyError e)
        | .ok (key, consumed) =>
          .ok (⟨aaguid, body.take n, key, (body.drop n).take consumed⟩,
            (body.drop n).drop consumed) := by
  have hsize := aaguid.size
  have hheader : (aaguid.bytes ++ Bytes.ofNat 2 n).length = 18 := by simp [hsize]
  have hmodel : (aaguid.bytes ++ Bytes.ofNat 2 n ++ body).take 16 = aaguid.bytes := by
    rw [List.append_assoc, List.take_left' hsize]
  have hid : Bytes.toNat (((aaguid.bytes ++ Bytes.ofNat 2 n ++ body).drop 16).take 2) = n := by
    rw [List.append_assoc, List.drop_left' hsize, List.take_left' (by simp)]
    exact Bytes.toNat_ofNat hn
  have hbody : (aaguid.bytes ++ Bytes.ofNat 2 n ++ body).drop 18 = body :=
    List.drop_left' hheader
  have hlong : ¬ (aaguid.bytes ++ Bytes.ofNat 2 n ++ body).length < 18 := by
    rw [List.length_append, hheader]
    omega
  unfold readAttested
  rw [dif_neg hlong]
  cases hkey : CoseKey.decodePrefix (body.drop n) with
  | error e => simp only [hid, hbody, hkey]
  | ok item => simp only [hid, hbody, hmodel, hkey]

/-- Past its header, a credential is an identifier of the stated length and a key. -/
theorem readAttested_header {aaguid : Aaguid} {n : Nat} {body : Bytes} (hn : n < 65536)
    {attested : AttestedCredential} :
    readAttested (aaguid.bytes ++ Bytes.ofNat 2 n ++ body) = .ok (attested, rest) ↔
      n ≤ 1023 ∧ n ≤ body.length ∧ attested.aaguid = aaguid ∧ attested.credentialId = body.take n ∧
        ∃ consumed, CoseKey.decodePrefix (body.drop n) = .ok (attested.publicKey, consumed) ∧
          attested.publicKeyBytes = (body.drop n).take consumed ∧
          rest = (body.drop n).drop consumed := by
  rw [readAttested_header_eq hn, refuse_eq_ok, refuse_eq_ok, gt_iff_lt, Nat.not_lt, Nat.not_lt]
  refine and_congr_right fun _ => and_congr_right fun _ => ?_
  cases CoseKey.decodePrefix (body.drop n) with
  | error e => simp
  | ok item =>
    obtain ⟨key, consumed⟩ := item
    constructor
    · intro h
      cases h
      exact ⟨rfl, rfl, consumed, rfl, rfl, rfl⟩
    · rintro ⟨hm, hi, _, heq, hk, rfl⟩
      cases heq
      obtain ⟨_, _, _, _⟩ := attested
      simp only at hm hi hk
      rw [hm, hi, hk]

/-- A credential is read off the front exactly if its parts stand there, one after another. -/
theorem readAttested_eq_ok {attested : AttestedCredential} :
    readAttested bs = .ok (attested, rest) ↔
      ∃ c : CredentialParts, (c.id.length ≤ 1023 ∧ c.Describes attested) ∧ bs = c.bytes ++ rest := by
  constructor
  · intro h
    by_cases hlong : 18 ≤ bs.length
    · obtain ⟨aaguid, n, body, hn, rfl⟩ := exists_credential_header hlong
      obtain ⟨hmax, hle, haaguid, hid, consumed, hkey, hbytes, hrest⟩ :=
        (readAttested_header hn).1 h
      have hlength : (body.take n).length = n := List.length_take_of_le hle
      refine ⟨⟨aaguid, body.take n, (body.drop n).take consumed⟩, ⟨hlength.symm ▸ hmax,
        haaguid, hid, CoseKey.decode_take_of_decodePrefix hkey, hbytes⟩, ?_⟩
      rw [CredentialParts.bytes, hlength, hrest]
      simp only [List.append_assoc, List.take_append_drop]
    · unfold readAttested at h
      rw [dif_pos (Nat.not_le.1 hlong)] at h
      cases h
  · rintro ⟨c, ⟨hmax, hc⟩, rfl⟩
    have hsplit : c.bytes ++ rest =
        c.aaguid.bytes ++ Bytes.ofNat 2 c.id.length ++ (c.id ++ (c.key ++ rest)) := by
      simp only [CredentialParts.bytes, List.append_assoc]
    rw [hsplit, readAttested_header (by omega)]
    refine ⟨hmax, by simp, hc.aaguid_eq, by simp [hc.id_eq], c.key.length, ?_, ?_, by simp⟩
    · rw [List.drop_left]
      exact CoseKey.decodePrefix_eq_ok.2 ⟨c.key, rest, rfl, rfl, hc.key_decoded⟩
    · rw [List.drop_left, List.take_left, hc.keyBytes_eq]

/-- Extension outputs are read off the front exactly if one item that is a map stands there. -/
theorem readExtensions_eq_ok {entries : Cbor.Entries} :
    readExtensions bs = .ok (entries, rest) ↔
      ∃ e, Cbor.decode e = .ok (.map entries) ∧ bs = e ++ rest := by
  unfold readExtensions
  constructor
  · intro h
    split at h
    · cases h
    · rename_i found n hitem
      obtain ⟨e, left, rfl, rfl, he⟩ := Cbor.decodePrefix?_eq_some_iff.1 hitem
      rw [List.drop_left] at h
      cases h
      exact ⟨e, he, rfl⟩
    · cases h
  · rintro ⟨e, he, rfl⟩
    have hitem : Cbor.decodePrefix? (e ++ rest) = some (.map entries, e.length) :=
      Cbor.decodePrefix?_eq_some_iff.2 ⟨e, rest, rfl, rfl, he⟩
    simp only [hitem, List.drop_left]

/-! ### The whole record -/

/-- Any 37 bytes are a header. -/
theorem exists_header (h : 37 ≤ bs.length) :
    ∃ (hash : Bytes) (flags : UInt8) (counter : UInt32) (body : Bytes), hash.length = 32 ∧
      bs = hash ++ flags :: Bytes.ofNat 4 counter.toNat ++ body := by
  obtain ⟨flags, tail, htail⟩ : ∃ flags tail, bs.drop 32 = flags :: tail :=
    List.exists_cons_of_length_pos (by simp; omega)
  have hlength : (tail.take 4).length = 4 := by
    have := congrArg List.length htail
    simp at this
    simp
    omega
  have hlt : Bytes.toNat (tail.take 4) < 4294967296 := by
    have := Bytes.toNat_lt (tail.take 4)
    rwa [hlength] at this
  have hcounter : (UInt32.ofNat (Bytes.toNat (tail.take 4))).toNat = Bytes.toNat (tail.take 4) :=
    UInt32.toNat_ofNat_of_lt hlt
  refine ⟨bs.take 32, flags, UInt32.ofNat (Bytes.toNat (tail.take 4)), tail.drop 4, ?_, ?_⟩
  · rw [List.length_take]
    omega
  · have hwritten := Bytes.ofNat_toNat (tail.take 4)
    rw [hlength] at hwritten
    rw [hcounter, hwritten, List.append_assoc, List.cons_append, List.take_append_drop, ← htail,
      List.take_append_drop]

theorem headerSize_le_of_decode {d : AuthenticatorData} (h : decode bs = .ok d) :
    headerSize ≤ bs.length := by
  unfold decode at h
  exact Nat.not_lt.1 (refuse_eq_ok.1 h).1

/-- The parts that the flags announce, at the front of the bytes after the header, and the rest. -/
def readParts (flags : AuthenticatorFlags) (bs : Bytes) :
    Except DecodeError ((Option AttestedCredential × Option Cbor.Entries) × Bytes) := do
  let (attested, rest) ← optionally flags.attested readAttested bs
  let (extensions, rest) ← optionally flags.extensions readExtensions rest
  return ((attested, extensions), rest)

/-- Past its header, a record is read as its parts, and nothing may be left of them. -/
theorem decode_header_eq {hash : Bytes} {flags : UInt8} {counter : UInt32} (hhash : hash.length = 32)
    (body : Bytes) :
    decode (hash ++ flags :: Bytes.ofNat 4 counter.toNat ++ body) = (do
      let (parts, rest) ← readParts ⟨flags⟩ body
      if rest ≠ [] then .error (.authenticatorData (.trailing rest.length))
      else .ok ⟨hash ++ flags :: Bytes.ofNat 4 counter.toNat ++ body, hash, ⟨flags⟩, counter, parts.1,
        parts.2⟩) := by
  have hheader : (hash ++ flags :: Bytes.ofNat 4 counter.toNat).length = 37 := by simp [hhash]
  have hlong : ¬ (hash ++ flags :: Bytes.ofNat 4 counter.toNat ++ body).length < 37 := by
    rw [List.length_append, hheader]
    omega
  have hbody : (hash ++ flags :: Bytes.ofNat 4 counter.toNat ++ body).drop 37 = body :=
    List.drop_left' hheader
  have hfront : (hash ++ flags :: Bytes.ofNat 4 counter.toNat ++ body).take 32 = hash := by
    rw [List.append_assoc, List.take_left' hhash]
  have hflags : (hash ++ flags :: Bytes.ofNat 4 counter.toNat ++ body).drop 32 =
      flags :: (Bytes.ofNat 4 counter.toNat ++ body) := by
    rw [List.append_assoc, List.drop_left' hhash, List.cons_append]
  have hcount : (hash ++ flags :: Bytes.ofNat 4 counter.toNat ++ body).drop 33 =
      Bytes.ofNat 4 counter.toNat ++ body := by
    rw [← List.drop_drop (i := 1) (j := 32), hflags, List.drop_one, List.tail_cons]
  have hread : Bytes.toNat ((Bytes.ofNat 4 counter.toNat ++ body).take 4) = counter.toNat := by
    rw [List.take_left' (Bytes.length_ofNat ..)]
    exact Bytes.toNat_ofNat counter.toNat_lt
  unfold decode readParts
  rw [headerSize, if_neg hlong]
  simp only [hflags, List.headD_cons, hbody, hfront, hcount, hread, UInt32.ofNat_toNat]
  cases optionally (AuthenticatorFlags.attested ⟨flags⟩) readAttested body with
  | error e => rfl
  | ok found =>
    obtain ⟨attested, middle⟩ := found
    simp only [ok_bind]
    cases optionally (AuthenticatorFlags.extensions ⟨flags⟩) readExtensions middle with
    | error e => rfl
    | ok found => rfl

/-- Past its header, a record is the parts that the flags announce and nothing else. -/
theorem decode_header {hash : Bytes} {flags : UInt8} {counter : UInt32} {body : Bytes}
    {d : AuthenticatorData} (hhash : hash.length = 32) :
    decode (hash ++ flags :: Bytes.ofNat 4 counter.toNat ++ body) = .ok d ↔
      ∃ middle,
        optionally (AuthenticatorFlags.attested ⟨flags⟩) readAttested body =
          .ok (d.attested, middle) ∧
        optionally (AuthenticatorFlags.extensions ⟨flags⟩) readExtensions middle =
          .ok (d.extensions, []) ∧
        d.bytes = hash ++ flags :: Bytes.ofNat 4 counter.toNat ++ body ∧ d.rpIdHash = hash ∧
        d.flags = ⟨flags⟩ ∧ d.counter = counter := by
  rw [decode_header_eq hhash]
  simp only [readParts, refuse_eq_ok, bind_eq_ok, Prod.exists, pure_eq_ok, ne_eq, Decidable.not_not,
    Prod.mk.injEq]
  constructor
  · rintro ⟨_, _, last, ⟨attested, middle, ha, extensions, _, he, ⟨rfl, rfl⟩, rfl⟩, rfl, h⟩
    cases h
    exact ⟨middle, ha, he, rfl, rfl, rfl, rfl⟩
  · rintro ⟨middle, ha, he, hb, hh, hf, hc⟩
    refine ⟨d.attested, d.extensions, [], ⟨d.attested, middle, ha, d.extensions, [], he, ⟨rfl, rfl⟩,
      rfl⟩, rfl, ?_⟩
    rw [← hb, ← hh, ← hf, ← hc]

theorem attested_iff {flags : UInt8} :
    AuthenticatorFlags.attested ⟨flags⟩ = true ↔ flags &&& 0x40 ≠ 0 := by
  simp [AuthenticatorFlags.attested, AuthenticatorFlags.has, AuthenticatorFlags.attestedMask]

theorem extensions_iff {flags : UInt8} :
    AuthenticatorFlags.extensions ⟨flags⟩ = true ↔ flags &&& 0x80 ≠ 0 := by
  simp [AuthenticatorFlags.extensions, AuthenticatorFlags.has, AuthenticatorFlags.extensionsMask]

/-- What is decoded is exactly what consists of well-formed parts. -/
theorem decode_eq_ok {d : AuthenticatorData} :
    decode bs = .ok d ↔ ∃ p : RecordParts, p.WellFormed ∧ p.Describes d ∧ bs = p.bytes := by
  constructor
  · intro h
    obtain ⟨hash, flags, counter, body, hhash, rfl⟩ := exists_header (headerSize_le_of_decode h)
    obtain ⟨middle, ha, he, hb, hh, hf, hc⟩ := (decode_header hhash).1 h
    obtain ⟨credential, hac, hcredential, hbody⟩ :=
      (optionally_eq_ok_iff fun _ => readAttested_eq_ok).1 ha
    obtain ⟨extensions, hae, hextensions, hmiddle⟩ :=
      (optionally_eq_ok_iff fun _ => readExtensions_eq_ok).1 he
    have hbytes : hash ++ flags :: Bytes.ofNat 4 counter.toNat ++ body =
        RecordParts.bytes ⟨hash, flags, counter, credential, extensions⟩ := by
      rw [hbody, hmiddle]
      simp [RecordParts.bytes]
    obtain ⟨hlength, hcredential⟩ := rel_and_iff.1 hcredential
    refine ⟨⟨hash, flags, counter, credential, extensions⟩, ⟨hhash, (isSome_eq_iff attested_iff).1 hac,
      hlength, ?_, (isSome_eq_iff extensions_iff).1 hae, ?_⟩,
      ⟨hb.trans hbytes, hh, hf, hc, hcredential, hextensions⟩, hbytes⟩
    · rintro c rfl
      obtain ⟨_, -, hcred⟩ := exists_of_rel_some hcredential
      exact ⟨_, hcred.key_decoded⟩
    · rintro e rfl
      obtain ⟨entries, -, he⟩ := exists_of_rel_some hextensions
      exact ⟨entries, he⟩
  · rintro ⟨p, hp, hd, rfl⟩
    have hsplit : p.bytes = p.rpIdHash ++ p.flags :: Bytes.ofNat 4 p.counter.toNat ++
        ((p.credential.map CredentialParts.bytes).getD [] ++ p.extensions.getD []) := by
      simp [RecordParts.bytes]
    rw [hsplit, decode_header hp.hash_length]
    refine ⟨p.extensions.getD [], ?_, ?_, hd.bytes_eq.trans hsplit, hd.rpIdHash_eq, hd.flags_eq,
      hd.counter_eq⟩
    · exact (optionally_eq_ok_iff fun _ => readAttested_eq_ok).2
        ⟨p.credential, (isSome_eq_iff attested_iff).2 hp.credential_announced,
          rel_and_iff.2 ⟨hp.id_length, hd.attested_eq⟩, rfl⟩
    · exact (optionally_eq_ok_iff fun _ => readExtensions_eq_ok).2
        ⟨p.extensions, (isSome_eq_iff extensions_iff).2 hp.extensions_announced, hd.extensions_eq,
          by simp⟩

end AuthenticatorData

/-! ### The parts of a record -/

theorem CredentialParts.Describes.eq {c e : CredentialParts} {a : AttestedCredential}
    (hc : c.Describes a) (he : e.Describes a) : c = e := by
  obtain ⟨_, _, _⟩ := c
  obtain ⟨_, _, _⟩ := e
  obtain ⟨rfl, rfl, -, rfl⟩ := hc
  obtain ⟨rfl, rfl, -, rfl⟩ := he
  rfl

namespace RecordParts

variable {p q : RecordParts} {d : AuthenticatorData}

/-- Well-formed parts say something. -/
theorem WellFormed.exists_describes (hp : p.WellFormed) : ∃ d, p.Describes d := by
  have hcredential : ∃ attested, Option.Rel CredentialParts.Describes p.credential attested := by
    cases hc : p.credential with
    | none => exact ⟨none, .none⟩
    | some c =>
      obtain ⟨k, hk⟩ := hp.key_item c hc
      exact ⟨some ⟨c.aaguid, c.id, k, c.key⟩, .some ⟨rfl, rfl, hk, rfl⟩⟩
  have hextensions : ∃ outputs,
      Option.Rel (fun e entries => Cbor.decode e = .ok (.map entries)) p.extensions outputs := by
    cases he : p.extensions with
    | none => exact ⟨none, .none⟩
    | some e =>
      obtain ⟨entries, hentries⟩ := hp.extensions_item e he
      exact ⟨some entries, .some hentries⟩
  obtain ⟨attested, ha⟩ := hcredential
  obtain ⟨outputs, he⟩ := hextensions
  exact ⟨⟨p.bytes, p.rpIdHash, ⟨p.flags⟩, p.counter, attested, outputs⟩, rfl, rfl, rfl, rfl, ha, he⟩

/-- A record determines its parts: those of the credential are kept in it, and the extension outputs
are what is left of its bytes. -/
theorem Describes.eq (hp : p.Describes d) (hq : q.Describes d) : p = q := by
  obtain ⟨_, _, _, pc, pe⟩ := p
  obtain ⟨_, _, _, qc, qe⟩ := q
  obtain ⟨hpb, rfl, hpf, rfl, hpa, hpx⟩ := hp
  obtain ⟨hqb, rfl, hqf, rfl, hqa, hqx⟩ := hq
  obtain rfl := AuthenticatorFlags.mk.inj (hpf.symm.trans hqf)
  have hcredential : pc = qc := by
    generalize d.attested = attested at hpa hqa
    cases hpa with
    | none => cases hqa; rfl
    | some h =>
      cases hqa with
      | some h' => rw [h.eq h']
  subst hcredential
  have hrest : pe.getD [] = qe.getD [] := List.append_cancel_left (hpb.symm.trans hqb)
  have hextensions : pe = qe := by
    generalize d.extensions = outputs at hpx hqx
    cases hpx with
    | none => cases hqx; rfl
    | some =>
      cases hqx with
      | some => exact congrArg some hrest
  rw [hextensions]

/-- Well-formed parts are decoded to the record that they describe, and to no other. -/
theorem decode_bytes (hp : p.WellFormed) :
    AuthenticatorData.decode p.bytes = .ok d ↔ p.Describes d := by
  constructor
  · intro h
    obtain ⟨found, hfound⟩ := hp.exists_describes
    have hdecoded := AuthenticatorData.decode_eq_ok.2 ⟨p, hp, hfound, rfl⟩
    rw [h] at hdecoded
    cases hdecoded
    exact hfound
  · intro h
    exact AuthenticatorData.decode_eq_ok.2 ⟨p, hp, h, rfl⟩

/-- There is one way to take a record apart. -/
theorem WellFormed.eq_of_bytes_eq (hp : p.WellFormed) (hq : q.WellFormed) (h : p.bytes = q.bytes) :
    p = q := by
  obtain ⟨d, hd⟩ := hp.exists_describes
  have hdecoded := (decode_bytes hp).2 hd
  rw [h] at hdecoded
  exact hd.eq ((decode_bytes hq).1 hdecoded)

end RecordParts

/-- A byte string is decoded as authenticator data exactly if it consists of well-formed parts. It
does so in one way only, the record says what the parts say and keeps the bytes, and the record that
is laid out for a relying party out of well-formed parts is decoded to them. -/
theorem record_grammar :
    (∀ bs : Bytes, (∃ d, AuthenticatorData.decode bs = .ok d) ↔
      ∃ p : RecordParts, p.WellFormed ∧ bs = p.bytes) ∧
    (∀ p q : RecordParts, p.WellFormed → q.WellFormed → p.bytes = q.bytes → p = q) ∧
    (∀ (p : RecordParts) (d : AuthenticatorData), p.WellFormed →
      (AuthenticatorData.decode p.bytes = .ok d ↔ p.Describes d)) ∧
    ∀ (rpId : String) (flags : UInt8) (counter : UInt32) (credential : Option CredentialParts)
      (extensions : Option Bytes),
      let p : RecordParts :=
        ⟨sha256 (Utf8.encode rpId), flags, counter, credential, extensions⟩
      p.WellFormed →
      ∃ d, p.Describes d ∧
        AuthenticatorData.decode (AuthenticatorData.write rpId flags counter
          ((credential.map fun c =>
            AuthenticatorData.writeAttested c.aaguid.bytes c.id c.key).getD [])
          (extensions.getD [])) = .ok d := by
  refine ⟨fun bs => ?_, fun p q hp hq => hp.eq_of_bytes_eq hq,
    fun p d hp => RecordParts.decode_bytes hp, ?_⟩
  · constructor
    · rintro ⟨d, hd⟩
      obtain ⟨p, hp, -, hbs⟩ := AuthenticatorData.decode_eq_ok.1 hd
      exact ⟨p, hp, hbs⟩
    · rintro ⟨p, hp, rfl⟩
      obtain ⟨d, hd⟩ := hp.exists_describes
      exact ⟨d, (RecordParts.decode_bytes hp).2 hd⟩
  · intro rpId flags counter credential extensions p hp
    obtain ⟨d, hd⟩ := hp.exists_describes
    exact ⟨d, hd, (RecordParts.decode_bytes hp).2 hd⟩

end Passkey
