import Passkey.Proofs.Json.NamedValues
import Passkey.Proofs.Software.ClientData

/-!
# Which texts are client data

Client data is read from the text of an object, or of an array that gives the members in their
declared order. It then holds exactly the values that stand there under its names (`IsSpelledBy`),
and every other text is malformed. Nothing else in an object matters, nor does the order of its
members.
-/

namespace Passkey

open Json Wire

/-! ### Members of some type -/

section

variable {α : Type} (R : Json → α → Prop)

/-- A value that has to be there. -/
inductive Given : Option Json → α → Prop
  | mk {j : Json} {a : α} (h : R j a) : Given (some j) a

/-- A value that may be missing or null. -/
inductive MayBeGiven : Option Json → Option α → Prop
  | missing : MayBeGiven none none
  | null : MayBeGiven (some .null) none
  | given {j : Json} {a : α} (h : R j a) : MayBeGiven (some j) (some a)

/-- The reader decides the relation, which null is not in. -/
structure Decides (read : Json → Option α) : Prop where
  eq_some : ∀ {j a}, read j = some a ↔ R j a
  null : read .null = none

end

namespace Decides

variable {α : Type} {R : Json → α → Prop} {read : Json → Option α} {r : Record} {name : String}

theorem required (h : Decides R read) {a : α} :
    r.required? name read = some a ↔ Given R (r.get? name) a := by
  rw [Record.required?]
  cases r.get? name with
  | none =>
    constructor
    · rintro ⟨⟩
    · rintro ⟨⟩
  | some j =>
    refine h.eq_some.trans ⟨.mk, ?_⟩
    rintro ⟨h⟩
    exact h

theorem nullable (h : Decides R read) {j : Json} {o : Option α} :
    Record.nullable? read j = some o ↔ MayBeGiven R (some j) o := by
  unfold Record.nullable?
  split
  · constructor
    · rintro ⟨⟩
      exact .null
    · rintro (_ | _ | ⟨ha⟩)
      · rfl
      · rw [← h.eq_some, h.null] at ha
        cases ha
  · next hj =>
    rw [Option.map_eq_some_iff]
    constructor
    · rintro ⟨a, ha, rfl⟩
      exact .given (h.eq_some.1 ha)
    · rintro (_ | _ | ⟨ha⟩)
      · exact absurd rfl hj
      · exact ⟨_, h.eq_some.2 ha, rfl⟩

theorem optional (h : Decides R read) {o : Option α} :
    r.optional? name read = some o ↔ MayBeGiven R (r.get? name) o := by
  rw [Record.optional?, Record.withDefault?]
  cases r.get? name with
  | none =>
    constructor
    · rintro ⟨⟩
      exact .missing
    · rintro ⟨⟩
      rfl
  | some j => exact h.nullable

end Decides

/-! ### Typed values -/

/-- A string that spells the text. -/
inductive IsText : Json → String → Prop
  | mk {raw : Bytes} {text : String} (h : textOfRaw? raw = some text) : IsText (.string raw) text

/-- A truth value. -/
inductive IsBool : Json → Bool → Prop
  | mk (b : Bool) : IsBool (.bool b) b

/-- Bytes in their digits. -/
inductive IsBytes : Json → Bytes → Prop
  | mk {j : Json} {text : String} {bs : Bytes} (htext : IsText j text)
    (h : Base64.decodeUrl? text = some bs) : IsBytes j bs

/-- The name of a member of an enumeration, as a string or as the one name of an object that holds
null under it. -/
inductive IsNamed {α : Type} [Named α] : Json → α → Prop
  | string {raw : Bytes} {a : α} (h : textOfRaw? raw = some (Named.name a)) :
    IsNamed (.string raw) a
  | object {raw : Bytes} {a : α} (h : textOfRaw? raw = some (Named.name a)) :
    IsNamed (.object [(raw, .null)]) a

theorem decides_text : Decides IsText text? where
  null := rfl
  eq_some := by
    intro j text
    constructor
    · intro h
      cases j with
      | string raw => exact .mk h
      | _ => cases h
    · rintro ⟨h⟩
      exact h

theorem decides_bool : Decides IsBool bool? where
  null := rfl
  eq_some := by
    intro j b
    constructor
    · intro h
      cases j with
      | bool =>
        cases h
        exact .mk b
      | _ => cases h
    · rintro ⟨b⟩
      rfl

theorem decides_bytes : Decides IsBytes bytes? where
  null := rfl
  eq_some := by
    intro j bs
    rw [bytes?, Option.bind_eq_bind, Option.bind_eq_some_iff]
    constructor
    · rintro ⟨text, htext, h⟩
      exact .mk (decides_text.eq_some.1 htext) h
    · rintro ⟨htext, h⟩
      exact ⟨_, decides_text.eq_some.2 htext, h⟩

theorem find?_name {α : Type} [Named α] [LawfulNamed α] {text : String} {a : α} :
    Named.members.find? (Named.name · = text) = some a ↔ text = Named.name a := by
  constructor
  · intro h
    have hname := List.find?_some h
    exact (of_decide_eq_true hname).symm
  · rintro rfl
    exact LawfulNamed.find?_name a

theorem decides_named {α : Type} [Named α] [LawfulNamed α] :
    Decides (IsNamed (α := α)) named? where
  null := rfl
  eq_some := by
    intro j a
    unfold named? choice?
    constructor
    · intro h
      dsimp only at h
      split at h
      · obtain ⟨text, htext, hfind⟩ := Option.bind_eq_some_iff.1 h
        exact .string (find?_name.1 hfind ▸ htext)
      · obtain ⟨text, htext, hfind⟩ := Option.bind_eq_some_iff.1 h
        exact .object (find?_name.1 hfind ▸ htext)
      · cases h
    · rintro (h | h)
      · exact Option.bind_eq_some_iff.2 ⟨_, h, find?_name.2 rfl⟩
      · exact Option.bind_eq_some_iff.2 ⟨_, h, find?_name.2 rfl⟩

/-! ### Records -/

/-- What a record is read as, from what is read of its members. -/
theorem record?_bind_eq_some {α : Type} {names : List String} (hnodup : names.Nodup)
    {f : Record → Option α} {R : (String → Option Json) → α → Prop}
    (h : ∀ r get a, (∀ name ∈ names, r.get? name = get name) → (f r = some a ↔ R get a))
    {j : Json} {a : α} :
    j.record? names >>= f = some a ↔ ∃ get, HasMembers names j get ∧ R get a := by
  rw [Option.bind_eq_bind, Option.bind_eq_some_iff]
  constructor
  · rintro ⟨r, hr, hf⟩
    refine ⟨r.get?, (exists_record? hnodup).1 ⟨r, hr, fun _ _ => rfl⟩, ?_⟩
    exact (h r _ a fun _ _ => rfl).1 hf
  · rintro ⟨get, hj, hR⟩
    obtain ⟨r, hr, hget⟩ := (exists_record? hnodup).2 hj
    exact ⟨r, hr, (h r get a hget).2 hR⟩

namespace TokenBinding

/-- The token binding that a record with these members is. -/
structure GivenBy (get : String → Option Json) (b : TokenBinding) : Prop where
  status : Given IsNamed (get "status") b.status
  id : MayBeGiven IsText (get "id") b.id

/-- A value with the members of the token binding. -/
def IsSpelledBy (j : Json) (b : TokenBinding) : Prop :=
  ∃ get, HasMembers ["status", "id"] j get ∧ b.GivenBy get

theorem decides : Decides IsSpelledBy ofJson? where
  null := rfl
  eq_some := by
    refine record?_bind_eq_some (by decide) fun r get b hget => ?_
    simp only [Option.bind_eq_bind, Option.bind_eq_some_iff, decides_named.required,
      decides_text.optional, hget "status" (by decide), hget "id" (by decide), Option.pure_def,
      Option.some.injEq]
    constructor
    · rintro ⟨_, hstatus, _, hid, rfl⟩
      exact ⟨hstatus, hid⟩
    · rintro ⟨hstatus, hid⟩
      exact ⟨_, hstatus, _, hid, rfl⟩

end TokenBinding

namespace ClientData

/-- The client data that a record with these members is. -/
structure GivenBy (get : String → Option Json) (d : ClientData) : Prop where
  type : Given IsText (get "type") d.type
  challenge : Given IsBytes (get "challenge") d.challenge
  origin : Given IsText (get "origin") d.origin
  crossOrigin : MayBeGiven IsBool (get "crossOrigin") d.crossOrigin
  topOrigin : MayBeGiven IsText (get "topOrigin") d.topOrigin
  tokenBinding : MayBeGiven TokenBinding.IsSpelledBy (get "tokenBinding") d.tokenBinding

/-- A text, with blanks around it, of a value with the members of the client data. -/
def IsSpelledBy (text : Bytes) (d : ClientData) : Prop :=
  ∃ j get, Placed IsTextOf text j ∧ HasMembers memberNames j get ∧ d.GivenBy get

theorem ofJson?_eq_some {j : Json} {d : ClientData} :
    ofJson? j = some d ↔ ∃ get, HasMembers memberNames j get ∧ d.GivenBy get := by
  refine record?_bind_eq_some (by decide) fun r get d hget => ?_
  simp only [Option.bind_eq_bind, Option.bind_eq_some_iff, decides_text.required,
    decides_bytes.required, decides_bool.optional, decides_text.optional,
    TokenBinding.decides.optional,
    hget "type" (by decide), hget "challenge" (by decide), hget "origin" (by decide),
    hget "crossOrigin" (by decide), hget "topOrigin" (by decide), hget "tokenBinding" (by decide),
    Option.pure_def, Option.some.injEq]
  constructor
  · rintro ⟨_, htype, _, hchallenge, _, horigin, _, hcross, _, htop, _, hbinding, rfl⟩
    exact ⟨htype, hchallenge, horigin, hcross, htop, hbinding⟩
  · rintro ⟨htype, hchallenge, horigin, hcross, htop, hbinding⟩
    exact ⟨_, htype, _, hchallenge, _, horigin, _, hcross, _, htop, _, hbinding, rfl⟩

theorem decode_eq_ok {text : Bytes} {d : ClientData} :
    decode text = .ok d ↔ IsSpelledBy text d := by
  have hread : (Json.read? text >>= ofJson?) = some d ↔ IsSpelledBy text d := by
    simp only [Option.bind_eq_bind, Option.bind_eq_some_iff, read?_eq_some, ofJson?_eq_some,
      IsSpelledBy, exists_and_left]
  rw [← hread, decode]
  cases Json.read? text >>= ofJson? <;> simp

/-- What spells no client data is malformed, and there is no other error. -/
theorem decode_eq_error {text : Bytes} {e : CeremonyError} :
    decode text = .error e ↔
      e = .malformedClientData withheld ∧ ∀ d, ¬ IsSpelledBy text d := by
  simp only [← decode_eq_ok]
  unfold decode
  cases Json.read? text >>= ofJson? <;> simp [eq_comm]

/-- What else stands in an object does not matter, nor in which order. -/
theorem IsSpelledBy.of_perm {text other : Bytes} {d : ClientData}
    {members others : List (Bytes × Json)} (hmembers : Placed IsTextOf text (.object members))
    (hothers : Placed IsTextOf other (.object others)) (hreadable : Readable others)
    (hperm : ∀ name ∈ memberNames, (valuesOf name members).Perm (valuesOf name others))
    (h : IsSpelledBy text d) : IsSpelledBy other d := by
  obtain ⟨j, get, htext, hj, hd⟩ := h
  obtain rfl := value_unique htext hmembers
  exact ⟨_, get, hothers, hj.of_perm hreadable hperm, hd⟩

/-- Only what a text spells matters. -/
theorem decode_congr {text other : Bytes}
    (h : ∀ d, IsSpelledBy text d ↔ IsSpelledBy other d) : decode text = decode other := by
  cases hother : decode other with
  | ok d => exact decode_eq_ok.2 ((h d).2 (decode_eq_ok.1 hother))
  | error e =>
    obtain ⟨he, hnone⟩ := decode_eq_error.1 hother
    exact decode_eq_error.2 ⟨he, fun d hd => hnone d ((h d).1 hd)⟩

/-- Client data is read from a text exactly if the text spells it, and is malformed otherwise. Two
objects that have the same values under the known names are read alike, whatever else they hold and
in whichever order. -/
theorem decode_decided (text : Bytes) :
    (∀ d, decode text = .ok d ↔ IsSpelledBy text d) ∧
    (decode text = .error (.malformedClientData withheld) ↔ ∀ d, ¬ IsSpelledBy text d) ∧
    ∀ other members others, Placed IsTextOf text (.object members) →
      Placed IsTextOf other (.object others) → Readable members → Readable others →
      (∀ name ∈ memberNames, (valuesOf name members).Perm (valuesOf name others)) →
      decode text = decode other := by
  refine ⟨fun d => decode_eq_ok, ?_, ?_⟩
  · rw [decode_eq_error]
    exact and_iff_right rfl
  · intro other members others hmembers hothers hreadable hothers_readable hperm
    refine decode_congr fun d => ⟨?_, ?_⟩
    · exact IsSpelledBy.of_perm hmembers hothers hothers_readable hperm
    · exact IsSpelledBy.of_perm hothers hmembers hreadable fun name hname => (hperm name hname).symm

/-- An array of the values is read as well, and is no object. -/
theorem decode_array : let text := Utf8.encode "[\"webauthn.get\",\"AQ\",\"https://example.com\"]"
    decode text = .ok ⟨"webauthn.get", [1], "https://example.com", none, none, none⟩ ∧
      ¬ ∃ members, Placed IsTextOf text (.object members) := by
  let items : List Json := [ofText "webauthn.get", ofBytes [1], ofText "https://example.com"]
  have hspelled : Spelled (.array items) := by
    refine .array fun j hj => ?_
    simp only [items, List.mem_cons, List.not_mem_nil, or_false] at hj
    rcases hj with rfl | rfl | rfl <;> exact spelled_ofText _
  have hwritten : Utf8.encode "[\"webauthn.get\",\"AQ\",\"https://example.com\"]" =
      (Json.array items).write := by decide +kernel
  have hread := read?_write hspelled
  have hdata : ofJson? (.array items) =
      some ⟨"webauthn.get", [1], "https://example.com", none, none, none⟩ := by
    simp [ofJson?, record?, memberNames, items, Record.required?, Record.optional?,
      Record.withDefault?, Record.get?, (carries_bytes [1]).reads]
  intro text
  refine ⟨?_, ?_⟩
  · show decode (Utf8.encode _) = _
    rw [hwritten, decode, hread, Option.bind_eq_bind, Option.bind_some, hdata]
  · rintro ⟨members, hmembers⟩
    have hobject := read?_eq_some.2 hmembers
    rw [show text = _ from hwritten, hread] at hobject
    cases hobject

end ClientData

end Passkey
