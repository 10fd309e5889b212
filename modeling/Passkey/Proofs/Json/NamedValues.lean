import Mathlib.Data.List.Nodup
import Passkey.Json.Record
import Passkey.Proofs.Fallible

/-!
# What records are made from

A record is made from an object or from an array. An object gives each known name the value that it
has under this name, if it is there, and may not have two (`valuesOf`). Members with other names are
passed over, though their names have to be texts. An array gives its items to the names in their
order, as far as it goes. `HasMembers` says this of a value apart from how it is read, and
`exists_record?` that a record is read just then.
-/

namespace Passkey.Json

variable {names : List String} {name : String} {get : String → Option Json}
  {members others : List (Bytes × Json)} {named : List (String × Json)}

/-- The values of the members with this name, in the order in which they stand. -/
def valuesOf (name : String) (members : List (Bytes × Json)) : List Json :=
  (members.filter (textOfRaw? ·.1 = some name)).map (·.2)

/-- All names are texts. -/
def Readable (members : List (Bytes × Json)) : Prop :=
  ∀ m ∈ members, (textOfRaw? m.1).isSome = true

/-- Under each of the names the value has what `get` tells. -/
inductive HasMembers (names : List String) : Json → (String → Option Json) → Prop
  | object {members : List (Bytes × Json)} {get : String → Option Json}
    (readable : Readable members)
    (values : ∀ name ∈ names, valuesOf name members = (get name).toList) :
    HasMembers names (.object members) get
  | array {items : List Json} {get : String → Option Json}
    (short : items.length ≤ names.length)
    (values : ∀ i (h : i < names.length), get names[i] = items[i]?) :
    HasMembers names (.array items) get

/-! ### Objects -/

theorem namedMembers?_eq_some : namedMembers? members = some named ↔
    members.map (fun m => (textOfRaw? m.1, m.2)) = named.map fun m => (some m.1, m.2) := by
  have hstep : ∀ (m : Bytes × Json) (n : String × Json), (textOfRaw? m.1).map (·, m.2) = some n ↔
      (textOfRaw? m.1, m.2) = (some n.1, n.2) ∧ True := by
    rintro ⟨raw, j⟩ ⟨name, k⟩
    cases textOfRaw? raw <;> simp
  unfold namedMembers?
  simpa using mapM_eq_some hstep

theorem readable_iff : Readable members ↔ ∃ named, namedMembers? members = some named := by
  simp only [namedMembers?_eq_some]
  constructor
  · intro h
    refine ⟨members.map fun m => ((textOfRaw? m.1).getD "", m.2), ?_⟩
    rw [List.map_map]
    refine List.map_congr_left fun m hm => ?_
    obtain ⟨name, hname⟩ := Option.isSome_iff_exists.1 (h m hm)
    simp [hname]
  · rintro ⟨named, h⟩ m hm
    have hmem := List.mem_map_of_mem (f := fun m => (textOfRaw? m.1, m.2)) hm
    rw [h] at hmem
    obtain ⟨n, -, heq⟩ := List.mem_map.1 hmem
    exact Option.isSome_iff_exists.2 ⟨n.1, (Prod.ext_iff.1 heq).1.symm⟩

/-- The values with this name among members with names as text. -/
theorem valuesOf_named (h : namedMembers? members = some named) (name : String) :
    valuesOf name members = (named.filter (·.1 = name)).map (·.2) := by
  have hpairs (l : List (Bytes × Json)) : valuesOf name l =
      ((l.map fun m => (textOfRaw? m.1, m.2)).filter (·.1 = some name)).map (·.2) := by
    simp [valuesOf, List.filter_map, Function.comp_def]
  rw [hpairs, namedMembers?_eq_some.1 h]
  simp [List.filter_map, Function.comp_def]

theorem record?_object {r : Record} : (Json.object members).record? names = some r ↔
    ∃ named, namedMembers? members = some named ∧
      ((named.filter (names.contains ·.1)).map (·.1)).Nodup ∧
      r = ⟨named.filter (names.contains ·.1)⟩ := by
  simp only [record?, Option.bind_eq_bind, Option.bind_eq_some_iff, Option.ite_none_right_eq_some,
    Option.some.injEq, eq_comm (a := r)]

theorem get?_eq_head? (r : Record) (name : String) :
    r.get? name = ((r.members.filter (·.1 = name)).map (·.2)).head? := by
  rw [Record.get?, List.head?_map, List.head?_filter]

/-- Among the known members those with a known name are the same. -/
theorem filter_known (hname : name ∈ names) :
    (named.filter (names.contains ·.1)).filter (·.1 = name) = named.filter (·.1 = name) := by
  rw [List.filter_filter]
  refine List.filter_congr fun m _ => ?_
  by_cases h : m.1 = name <;> simp [h, hname]

/-- No known name is repeated if none has two values. -/
theorem nodup_known_iff : ((named.filter (names.contains ·.1)).map (·.1)).Nodup ↔
    ∀ name ∈ names, (named.filter (·.1 = name)).length ≤ 1 := by
  have hcount (l : List (String × Json)) (name : String) :
      (l.map (·.1)).count name = (l.filter (·.1 = name)).length := by
    rw [List.count, List.countP_map, List.countP_eq_length_filter]
    rfl
  simp only [List.nodup_iff_count_le_one, hcount]
  constructor
  · intro h name hname
    rw [← filter_known hname]
    exact h name
  · intro h name
    by_cases hname : name ∈ names
    · rw [filter_known hname]
      exact h name hname
    · have hnone : (named.filter (names.contains ·.1)).filter (·.1 = name) = [] := by
        refine List.filter_eq_nil_iff.2 fun m hm heq => hname ?_
        rw [← of_decide_eq_true heq]
        exact List.contains_iff_mem.1 (List.mem_filter.1 hm).2
      rw [hnone]
      exact Nat.zero_le 1

/-- An object is read as a record exactly if its names are texts and no known name has two values.
-/
theorem exists_record?_object :
    (∃ r, (Json.object members).record? names = some r ∧ ∀ name ∈ names, r.get? name = get name) ↔
      Readable members ∧ ∀ name ∈ names, valuesOf name members = (get name).toList := by
  have htoList (l : List Json) (o : Option Json) : l = o.toList ↔ l.length ≤ 1 ∧ l.head? = o := by
    rcases l with _ | ⟨j, _ | ⟨k, l⟩⟩ <;> cases o <;> simp
  simp only [record?_object, readable_iff]
  constructor
  · rintro ⟨_, ⟨named, hnamed, hnodup, rfl⟩, hget⟩
    refine ⟨⟨named, hnamed⟩, fun name hname => (htoList _ _).2 ?_⟩
    rw [← hget name hname, get?_eq_head?, valuesOf_named hnamed, filter_known hname]
    exact ⟨by simpa using nodup_known_iff.1 hnodup name hname, rfl⟩
  · rintro ⟨⟨named, hnamed⟩, hvalues⟩
    simp only [valuesOf_named hnamed, htoList, List.length_map] at hvalues
    refine ⟨_, ⟨named, hnamed, nodup_known_iff.2 fun name hname => (hvalues name hname).1, rfl⟩, ?_⟩
    intro name hname
    rw [get?_eq_head?, filter_known hname]
    exact (hvalues name hname).2

/-! ### Arrays -/

theorem get?_zip (hnodup : names.Nodup) (items : List Json) (i : Nat) (h : i < names.length) :
    Record.get? ⟨names.zip items⟩ names[i] = items[i]? := by
  induction names generalizing items i with
  | nil => cases h
  | cons name names ih =>
    obtain ⟨hfresh, hrest⟩ := List.nodup_cons.1 hnodup
    cases items with
    | nil => rfl
    | cons j items =>
      cases i with
      | zero => simp [Record.get?]
      | succ i =>
        have hi : i < names.length := Nat.lt_of_succ_lt_succ h
        have hne : name ≠ names[i] := fun heq => hfresh (heq ▸ List.getElem_mem hi)
        have hlater := ih hrest items i hi
        simpa [Record.get?, hne] using hlater

/-! ### Records -/

/-- A record is read from a value exactly if the value has something to read, or nothing, under each
of the names. -/
theorem exists_record? (hnodup : names.Nodup) {j : Json} :
    (∃ r, j.record? names = some r ∧ ∀ name ∈ names, r.get? name = get name) ↔
      HasMembers names j get := by
  constructor
  · rintro ⟨r, hr, hget⟩
    cases j with
    | object members =>
      obtain ⟨hreadable, hvalues⟩ := exists_record?_object.1 ⟨r, hr, hget⟩
      exact .object hreadable hvalues
    | array items =>
      obtain ⟨hshort, heq⟩ := Option.ite_none_right_eq_some.1 hr
      cases heq
      refine .array hshort fun i hi => ?_
      rw [← hget _ (List.getElem_mem hi), get?_zip hnodup]
    | _ => cases hr
  · rintro (⟨hreadable, hvalues⟩ | ⟨hshort, hvalues⟩)
    · exact exists_record?_object.2 ⟨hreadable, hvalues⟩
    · refine ⟨_, if_pos hshort, fun name hname => ?_⟩
      obtain ⟨i, hi, rfl⟩ := List.getElem_of_mem hname
      rw [get?_zip hnodup, hvalues i hi]

/-- Only the values under known names matter, and not where they stand. -/
theorem HasMembers.of_perm (h : HasMembers names (.object members) get) (hothers : Readable others)
    (hperm : ∀ name ∈ names, (valuesOf name members).Perm (valuesOf name others)) :
    HasMembers names (.object others) get := by
  cases h with
  | object _ hvalues =>
    refine .object hothers fun name hname => ?_
    have hgiven := (hperm name hname).symm
    rw [hvalues name hname] at hgiven
    cases hget : get name with
    | none => simpa [hget] using hgiven
    | some j => simpa [hget] using hgiven

end Passkey.Json
