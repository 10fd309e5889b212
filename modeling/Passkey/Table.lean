/-!
# Lists of keys and values

A table is a list of keys with their values in which no key stands twice. Putting a value under a key
replaces the one that is there, in its place, and a key that is not there comes last.
-/

namespace Passkey.Table

variable {κ α : Type} [DecidableEq κ] {key k : κ} {change : Option α → α} {e : κ × α}
  {entries : List (κ × α)}

/-- The value under a key. -/
def get? (entries : List (κ × α)) (key : κ) : Option α :=
  (entries.find? (·.1 = key)).map (·.2)

/-- Puts a value under a key, made from the one that is there. -/
def alter (key : κ) (change : Option α → α) : List (κ × α) → List (κ × α)
  | [] => [(key, change none)]
  | e :: rest =>
    if e.1 = key then (key, change (some e.2)) :: rest else e :: alter key change rest

theorem mem_keys_alter :
    k ∈ (alter key change entries).map (·.1) ↔ k = key ∨ k ∈ entries.map (·.1) := by
  induction entries with
  | nil => simp [alter]
  | cons e rest ih => grind [alter]

theorem nodup_alter (h : (entries.map (·.1)).Nodup) :
    ((alter key change entries).map (·.1)).Nodup := by
  induction entries with
  | nil => simp [alter]
  | cons e rest ih =>
    rw [List.map_cons, List.nodup_cons] at h
    unfold alter
    split
    · rename_i he
      rw [List.map_cons, List.nodup_cons]
      exact ⟨he ▸ h.1, h.2⟩
    · rename_i he
      rw [List.map_cons, List.nodup_cons]
      exact ⟨fun hk => (mem_keys_alter.1 hk).elim he h.1, ih h.2⟩

theorem get?_cons : get? (e :: entries) k = if e.1 = k then some e.2 else get? entries k := by
  by_cases h : e.1 = k
  · simp [get?, h]
  · simp [get?, h]

/-- One key changes. -/
theorem get?_alter (key k : κ) (change : Option α → α) (entries : List (κ × α)) :
    get? (alter key change entries) k =
      if k = key then some (change (get? entries key)) else get? entries k := by
  induction entries with
  | nil => simp [alter, get?, eq_comm]
  | cons e rest ih =>
    by_cases he : e.1 = key
    · rw [alter, if_pos he, get?_cons, get?_cons, get?_cons, if_pos he]
      by_cases hk : k = key
      · simp [hk]
      · simp [hk, he, Ne.symm hk]
    · rw [alter, if_neg he, get?_cons, get?_cons, get?_cons, if_neg he, ih]
      by_cases hk : e.1 = k
      · have hne : k ≠ key := fun h => he (hk.trans h)
        simp [hk, hne]
      · simp [hk]

theorem mem_of_get? {a : α} (h : get? entries key = some a) : (key, a) ∈ entries := by
  obtain ⟨e, he, rfl⟩ := Option.map_eq_some_iff.1 h
  have hkey : e.1 = key := by simpa using List.find?_some he
  rw [← hkey]
  exact List.mem_of_find?_eq_some he

theorem mem_of_mem_alter (h : e ∈ alter key change entries) :
    (∃ found, e = (key, change found)) ∨ e ∈ entries := by
  induction entries with
  | nil => exact Or.inl ⟨none, List.mem_singleton.1 h⟩
  | cons f rest ih =>
    unfold alter at h
    split at h
    · rcases List.mem_cons.1 h with h | h
      · exact Or.inl ⟨some f.2, h⟩
      · exact Or.inr (List.mem_cons_of_mem f h)
    · rcases List.mem_cons.1 h with h | h
      · exact Or.inr (List.mem_cons.2 (Or.inl h))
      · exact (ih h).imp_right (List.mem_cons_of_mem f)

theorem keys_alter_of_mem (h : key ∈ entries.map (·.1)) :
    (alter key change entries).map (·.1) = entries.map (·.1) := by
  induction entries with
  | nil => simp at h
  | cons e rest ih =>
    unfold alter
    split
    · rename_i he
      simp [he]
    · rename_i he
      have hr : key ∈ rest.map (·.1) := (List.mem_cons.1 h).resolve_left (Ne.symm he)
      rw [List.map_cons, List.map_cons, ih hr]

end Passkey.Table
