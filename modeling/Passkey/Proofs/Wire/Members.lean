import Passkey.Proofs.Json.Numbers
import Passkey.Proofs.Json.Records
import Passkey.Proofs.Text.Base64
import Passkey.Wire.Options

/-!
# What travels arrives

A value that is written as JSON has to be read as itself. `Carries` says so of one JSON value,
`Sent` of a member that may be left out, and `Assembles` of the members of a record together with
the chain of steps that reads them, one after the other. A record that was written from distinct
names then carries what its members do (`Assembles.carries`), so that only the members of a type are
left to be looked at.
-/

namespace Passkey

open Json

namespace Wire

variable {α β : Type} {read : Json → Option α} {a : α}

/-! ### Values -/

/-- A JSON value can be written, is not null, and is read as `a`. -/
structure Carries (j : Json) (read : Json → Option α) (a : α) : Prop where
  spelled : j.Spelled
  not_null : j ≠ .null
  reads : read j = some a

/-- What is read of the text of the value. -/
theorem Carries.read_write {j : Json} (h : Carries j read a) : Json.read? j.write >>= read = some a := by
  rw [read?_write h.spelled, Option.bind_eq_bind, Option.bind_some]
  exact h.reads

theorem carries_bool (b : Bool) : Carries (.bool b) bool? b :=
  ⟨.bool b, by simp, rfl⟩

theorem carries_text (text : String) : Carries (ofText text) text? text :=
  ⟨spelled_ofText text, by simp [ofText], text?_ofText text⟩

theorem bytes?_ofText_encodeUrl (bs : Bytes) :
    bytes? (ofText (Base64.encodeUrl bs)) = some bs := by
  rw [bytes?, text?_ofText, Option.bind_eq_bind, Option.bind_some, Base64.decodeUrl?_encodeUrl]

theorem carries_bytes (bs : Bytes) : Carries (ofBytes bs) bytes? bs :=
  ⟨spelled_ofText _, by simp [ofBytes, ofText], bytes?_ofText_encodeUrl bs⟩

theorem ofInt_ne_null (n : Int) : ofInt n ≠ .null := by
  cases n with
  | ofNat n => simp [ofInt]
  | negSucc n => simp [ofInt]

theorem intIn?_ofInt {least greatest n : Int} (h : least ≤ n ∧ n ≤ greatest) :
    (ofInt n).intIn? least greatest = some n := by
  rw [intIn?, int?_ofInt, Option.bind_eq_bind, Option.bind_some, if_pos h]

theorem carries_word (n : UInt64) : Carries (ofWord n) word? n := by
  refine ⟨spelled_ofInt _, ofInt_ne_null _, ?_⟩
  have hrange : (0 : Int) ≤ n.toNat ∧ (n.toNat : Int) ≤ 0xffffffffffffffff := by
    have hlt := n.toNat_lt
    omega
  rw [word?, word64?, ofWord, intIn?_ofInt hrange]
  simp

/-- An algorithm travels if it is the one that its identifier, of 64 bits, stands for. -/
theorem carries_algorithm {a : CoseAlgorithm} (h : CoseAlgorithm.ofId? a.id = some a) :
    Carries (ofAlgorithm a) algorithm? a := by
  refine ⟨spelled_ofInt _, ofInt_ne_null _, ?_⟩
  obtain ⟨hrange, hid⟩ := Option.ite_none_right_eq_some.1 h
  simp only [CoseAlgorithm.inRange, Bool.and_eq_true, decide_eq_true_eq] at hrange
  rw [algorithm?, ofAlgorithm, intIn?_ofInt (by omega)]
  exact hid

/-- An enumeration in which each member is found under its name. -/
class LawfulNamed (α : Type) [Named α] : Prop where
  find?_name : ∀ a : α, Named.members.find? (Named.name · = Named.name a) = some a

theorem carries_named [Named α] [LawfulNamed α] (a : α) : Carries (ofNamed a) named? a := by
  refine ⟨spelled_ofText _, by simp [ofNamed, ofText], ?_⟩
  have htext : textOfRaw? (escape (Named.name a)) = some (Named.name a) := textOfRaw?_escape _
  simp only [named?, ofNamed, ofText, choice?, htext, Option.bind_eq_bind, Option.bind_some]
  exact LawfulNamed.find?_name a

theorem carries_credentialType : Carries (ofText credentialType) credentialType? () := by
  refine ⟨spelled_ofText _, by simp [ofText], ?_⟩
  have htext : textOfRaw? (escape credentialType) = some credentialType := textOfRaw?_escape _
  simp [credentialType?, ofText, choice?, htext]

theorem carries_list {write : α → Json} {as : List α}
    (h : ∀ a ∈ as, Carries (write a) read a) : Carries (ofList write as) (list? read) as := by
  refine ⟨.array fun j hj => ?_, by simp [ofList], ?_⟩
  · obtain ⟨a, ha, rfl⟩ := List.mem_map.1 hj
    exact (h a ha).spelled
  · change (as.map write).mapM read = some as
    induction as with
    | nil => rfl
    | cons a as ih =>
      obtain ⟨ha, has⟩ := List.forall_mem_cons.1 h
      rw [List.map_cons, List.mapM_cons, ha.reads, ih has]
      rfl

/-! ### Members -/

/-- A member can be written if it is there, and where a record has it or has not, `a` is read. -/
structure Sent (value : Option Json) (read : Record → String → Option α) (a : α) : Prop where
  spelled : ∀ j, value = some j → j.Spelled
  reads : ∀ r name, r.get? name = value → read r name = some a

theorem Carries.required {j : Json} (h : Carries j read a) :
    Sent (some j) (fun r name => r.required? name read) a where
  spelled := by
    rintro _ ⟨⟩
    exact h.spelled
  reads r name hget := by
    rw [Record.required?, hget]
    exact h.reads

/-- The default of a member that is always written does not matter. -/
theorem Carries.withDefault {j : Json} (h : Carries j read a) (default : α) :
    Sent (some j) (fun r name => r.withDefault? name default read) a where
  spelled := by
    rintro _ ⟨⟩
    exact h.spelled
  reads r name hget := by
    rw [Record.withDefault?, hget]
    exact h.reads

theorem Carries.nullable {j : Json} (h : Carries j read a) :
    Record.nullable? read j = some (some a) := by
  unfold Record.nullable?
  split
  · exact absurd rfl h.not_null
  · rw [h.reads]
    rfl

theorem sent_optional {write : α → Json} {o : Option α}
    (h : ∀ a, o = some a → Carries (write a) read a) :
    Sent (o.map write) (fun r name => r.optional? name read) o := by
  cases o with
  | none =>
    refine ⟨by simp, fun r name hget => ?_⟩
    rw [Record.optional?, Record.withDefault?, hget]
    rfl
  | some a =>
    refine ⟨?_, fun r name hget => ?_⟩
    · rintro _ ⟨⟩
      exact (h a rfl).spelled
    · rw [Record.optional?, Record.withDefault?, hget]
      exact (h a rfl).nullable

/-- What is not there may also be written as null. -/
theorem sent_nullable {write : α → Json} {o : Option α}
    (h : ∀ a, o = some a → Carries (write a) read a) :
    Sent (some ((o.map write).getD .null)) (fun r name => r.optional? name read) o := by
  cases o with
  | none =>
    refine ⟨?_, fun r name hget => ?_⟩
    · rintro _ ⟨⟩
      exact .null
    · rw [Record.optional?, Record.withDefault?, hget]
      rfl
  | some a => exact sent_optional h

/-- A list that is left out where it is empty is empty where it is not there. -/
theorem sent_unlessEmpty {write : α → Json} {as : List α}
    (h : ∀ a ∈ as, Carries (write a) read a) :
    Sent (unlessEmpty write as) (fun r name => r.withDefault? name [] (list? read)) as := by
  cases as with
  | nil =>
    refine ⟨by simp [unlessEmpty], fun r name hget => ?_⟩
    rw [Record.withDefault?, hget]
    rfl
  | cons a as => exact (carries_list h).withDefault []

/-! ### Records -/

/-- These members can be written, and `a` is built of a record that has just them. -/
structure Assembles (members : List (String × Option Json)) (build : Record → Option α) (a : α) :
    Prop where
  spelled : ∀ m ∈ members, ∀ j, m.2 = some j → j.Spelled
  builds : ∀ r : Record, (∀ m ∈ members, r.get? m.1 = m.2) → build r = some a

theorem assembles_done {x : Option α} (h : x = some a) : Assembles [] (fun _ => x) a :=
  ⟨by simp, fun _ _ => h⟩

theorem Sent.last {value : Option Json} {read : Record → String → Option α} {name : String}
    (h : Sent value read a) : Assembles [(name, value)] (fun r => read r name) a where
  spelled := List.forall_mem_singleton.2 h.spelled
  builds r hget := h.reads r name (hget _ List.mem_cons_self)

/-- A member is read, and then the others. -/
theorem Sent.next {value : Option Json} {read : Record → String → Option α} {name : String}
    {members : List (String × Option Json)} {next : α → Record → Option β} {b : β}
    (h : Sent value read a) (hnext : Assembles members (next a) b) :
    Assembles ((name, value) :: members) (fun r => read r name >>= fun x => next x r) b where
  spelled := List.forall_mem_cons.2 ⟨h.spelled, hnext.spelled⟩
  builds r hget := by
    obtain ⟨hvalue, hmembers⟩ := List.forall_mem_cons.1 hget
    rw [h.reads r name hvalue, Option.bind_eq_bind, Option.bind_some]
    exact hnext.builds r hmembers

/-- Members may be written in another order than they are read in. -/
theorem Assembles.perm {members written : List (String × Option Json)} {build : Record → Option α}
    (h : Assembles members build a) (hperm : written.Perm members) : Assembles written build a where
  spelled m hm := h.spelled m (hperm.mem_iff.1 hm)
  builds r hget := h.builds r fun m hm => hget m (hperm.mem_iff.2 hm)

theorem Assembles.fourth {m m₁ m₂ m₃ : String × Option Json} {members : List (String × Option Json)}
    {build : Record → Option α} (h : Assembles (m :: m₁ :: m₂ :: m₃ :: members) build a) :
    Assembles ([m₁, m₂, m₃] ++ m :: members) build a :=
  h.perm List.perm_middle

/-- A record that is written from its members, under different names, carries what is built of
them. -/
theorem Assembles.carries {members : List (String × Option Json)} {names : List String}
    {build : Record → Option α} (h : Assembles members build a)
    (hnames : (members.map (·.1)).Perm names) (hdistinct : names.Nodup) :
    Carries (ofMembers members) (fun j => j.record? names >>= build) a := by
  have hknown : ∀ m ∈ members, m.1 ∈ names := fun m hm =>
    hnames.mem_iff.1 (List.mem_map_of_mem hm)
  have hmembers : (members.map (·.1)).Nodup := hnames.nodup_iff.2 hdistinct
  refine ⟨spelled_ofMembers h.spelled, by simp [ofMembers], ?_⟩
  rw [record?_ofMembers hknown hmembers, Option.bind_eq_bind, Option.bind_some]
  exact h.builds _ fun m hm => get?_present hmembers hm

end Wire

end Passkey
