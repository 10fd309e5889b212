import Mathlib.Data.List.Nodup
import Passkey.Json.Record
import Passkey.Proofs.Json.RoundTrip

/-!
# Objects as records

An object is written from members that may be missing, and read as a record of those that are there.
With different names, each member is found in the record under its name.
-/

namespace Passkey.Json

theorem spelled_ofText (text : String) : Spelled (ofText text) :=
  .string (quotable_escape text)

@[simp] theorem text?_ofText (text : String) : (ofText text).text? = some text :=
  textOfRaw?_escape text

variable {members : List (String × Option Json)} {name : String} {value : Option Json}

/-- The members that are there. -/
def present (members : List (String × Option Json)) : Record :=
  ⟨members.filterMap fun m => m.2.map (m.1, ·)⟩

theorem spelled_ofMembers (h : ∀ m ∈ members, ∀ j, m.2 = some j → Spelled j) :
    Spelled (ofMembers members) := by
  have hmember : ∀ m ∈ members.filterMap fun m => m.2.map (escape m.1, ·),
      ∃ name j, (name, some j) ∈ members ∧ m = (escape name, j) := by
    intro m hm
    obtain ⟨⟨name, value⟩, hmem, hsome⟩ := List.mem_filterMap.1 hm
    obtain ⟨j, rfl, rfl⟩ := Option.map_eq_some_iff.1 hsome
    exact ⟨name, j, hmem, rfl⟩
  refine .object (fun m hm => ?_) fun m hm => ?_
  · obtain ⟨name, j, -, rfl⟩ := hmember m hm
    exact quotable_escape name
  · obtain ⟨name, j, hmem, rfl⟩ := hmember m hm
    exact h _ hmem j rfl

theorem namedMembers?_ofMembers :
    namedMembers? (members.filterMap fun m => m.2.map (escape m.1, ·)) =
      some (present members).members := by
  induction members with
  | nil => rfl
  | cons m members ih =>
    obtain ⟨name, value⟩ := m
    cases value with
    | none => exact ih
    | some j =>
      simp only [namedMembers?] at ih ⊢
      simp [present, ih]

theorem names_present_sublist :
    ((present members).members.map (·.1)).Sublist (members.map (·.1)) := by
  induction members with
  | nil => exact .slnil
  | cons m members ih =>
    obtain ⟨name, value⟩ := m
    cases value with
    | none => exact .cons name ih
    | some j => exact .cons_cons name ih

/-- All members that are there are known, and none is repeated. -/
theorem record?_ofMembers {names : List String} (hnames : ∀ m ∈ members, m.1 ∈ names)
    (hdistinct : (members.map (·.1)).Nodup) :
    (ofMembers members).record? names = some (present members) := by
  have hknown : (present members).members.filter (names.contains ·.1) =
      (present members).members := by
    refine List.filter_eq_self.2 fun m hm => List.contains_iff_mem.2 ?_
    obtain ⟨n, hn, hname⟩ :=
      List.mem_map.1 (names_present_sublist.subset (List.mem_map_of_mem hm))
    exact hname ▸ hnames n hn
  have hnodup := hdistinct.sublist names_present_sublist
  simp only [ofMembers, record?, namedMembers?_ofMembers, Option.bind_eq_bind, Option.bind_some,
    hknown, if_pos hnodup]

theorem get?_present_of_not_mem (h : name ∉ members.map (·.1)) :
    (present members).get? name = none := by
  have hnone : (present members).members.find? (·.1 = name) = none := by
    refine List.find?_eq_none.2 fun m hm hname => h ?_
    rw [← of_decide_eq_true hname]
    exact names_present_sublist.subset (List.mem_map_of_mem hm)
  rw [Record.get?, hnone]
  rfl

theorem get?_present (hdistinct : (members.map (·.1)).Nodup) (h : (name, value) ∈ members) :
    (present members).get? name = value := by
  induction members with
  | nil => cases h
  | cons m members ih =>
    obtain ⟨hfresh, hrest⟩ := List.nodup_cons.1 hdistinct
    rcases List.mem_cons.1 h with rfl | h
    · cases value with
      | none => exact (get?_present_of_not_mem hfresh : (present members).get? name = none)
      | some j => simp [present, Record.get?]
    · have hne : m.1 ≠ name := by
        rintro rfl
        exact hfresh (List.mem_map.2 ⟨_, h, rfl⟩)
      have hlater := ih hrest h
      obtain ⟨other, written⟩ := m
      cases written with
      | none => exact hlater
      | some j =>
        rw [Record.get?] at hlater ⊢
        rw [← hlater]
        simp [present, hne]

end Passkey.Json
