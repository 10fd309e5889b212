import Passkey.Proofs.Fallible

/-!
# The first failure decides

Checks are made in an order, and each may fail with an error. `FirstFails` names the error of the
first check that fails, whatever the later ones would say. A result is decided by the checks if it
is that error, and none at all where no check fails; a chain of steps is decided by the checks of its
steps one after the other (`DecidedBy.bind`). What a step checks may depend on what the steps before
it have found.
-/

namespace Passkey

variable {κ ε α β : Type}

/-- Of the checks in this order, the first that fails does so with this error. -/
def FirstFails (Fails : κ → ε → Prop) (checks : List κ) (e : ε) : Prop :=
  ∃ before check after, checks = before ++ check :: after ∧
    (∀ earlier ∈ before, ∀ d, ¬ Fails earlier d) ∧ Fails check e

section FirstFails

variable {Fails : κ → ε → Prop} {check : κ} {checks later : List κ} {e : ε}

@[simp] theorem firstFails_nil : ¬ FirstFails Fails [] e := by
  rintro ⟨before, check, after, h, -⟩
  exact List.append_ne_nil_of_right_ne_nil before (List.cons_ne_nil check after) h.symm

theorem firstFails_cons : FirstFails Fails (check :: checks) e ↔
    Fails check e ∨ (∀ d, ¬ Fails check d) ∧ FirstFails Fails checks e := by
  constructor
  · rintro ⟨before, found, after, h, hbefore, hfound⟩
    cases before with
    | nil =>
      cases h
      exact Or.inl hfound
    | cons first rest =>
      cases h
      obtain ⟨hfirst, hrest⟩ := List.forall_mem_cons.1 hbefore
      exact Or.inr ⟨hfirst, rest, found, after, rfl, hrest, hfound⟩
  · rintro (h | ⟨hcheck, before, found, after, rfl, hbefore, hfound⟩)
    · exact ⟨[], check, checks, rfl, List.forall_mem_nil _, h⟩
    · exact ⟨check :: before, found, after, rfl, List.forall_mem_cons.2 ⟨hcheck, hbefore⟩, hfound⟩

theorem firstFails_append : FirstFails Fails (checks ++ later) e ↔
    FirstFails Fails checks e ∨
      (∀ check ∈ checks, ∀ d, ¬ Fails check d) ∧ FirstFails Fails later e := by
  induction checks with
  | nil => simp
  | cons check checks ih =>
    simp only [List.cons_append, firstFails_cons, ih, List.forall_mem_cons, and_or_left, or_assoc,
      and_assoc]

/-- If any check fails, one is the first to do so. -/
theorem exists_firstFails :
    (∃ e, FirstFails Fails checks e) ↔ ∃ check ∈ checks, ∃ e, Fails check e := by
  induction checks with
  | nil => simp
  | cons check checks ih =>
    simp only [firstFails_cons, List.mem_cons, exists_eq_or_imp, ← ih]
    constructor
    · rintro ⟨e, h | ⟨-, h⟩⟩
      · exact Or.inl ⟨e, h⟩
      · exact Or.inr ⟨e, h⟩
    · intro h
      by_cases hcheck : ∃ e, Fails check e
      · obtain ⟨e, he⟩ := hcheck
        exact ⟨e, Or.inl he⟩
      · obtain ⟨e, he⟩ := h.resolve_left hcheck
        exact ⟨e, Or.inr ⟨not_exists.1 hcheck, he⟩⟩

end FirstFails

/-- The result is the error of the first check that fails. -/
def DecidedBy (Fails : κ → ε → Prop) (checks : List κ) (x : Except ε α) : Prop :=
  ∀ e, x = .error e ↔ FirstFails Fails checks e

variable {Fails : κ → ε → Prop} {check : κ} {checks later : List κ} {e : ε} {x : Except ε α}

/-- There is a result exactly if no check fails. -/
theorem DecidedBy.exists_ok_iff (h : DecidedBy Fails checks x) :
    (∃ a, x = .ok a) ↔ ∀ check ∈ checks, ∀ e, ¬ Fails check e := by
  have herror : (∃ e, x = .error e) ↔ ∃ check ∈ checks, ∃ e, Fails check e := by
    rw [← exists_firstFails]
    exact exists_congr h
  have hdone : (∃ a, x = .ok a) ↔ ¬ ∃ e, x = .error e := by
    cases x <;> simp
  rw [hdone, herror]
  simp only [not_exists, not_and]

theorem decidedBy_ok (a : α) : DecidedBy Fails [] (.ok a) := by
  intro e
  simp

theorem decidedBy_error (h : ∀ d, Fails check d ↔ d = e) :
    DecidedBy Fails (check :: checks) (.error e : Except ε α) := by
  intro d
  have hfails : ¬ ∀ d, ¬ Fails check d := fun hnone => hnone e ((h e).2 rfl)
  rw [firstFails_cons, h]
  simp [hfails, eq_comm]

/-- A step that is one check. -/
theorem decidedBy_step (h : ∀ e, Fails check e ↔ x = .error e) : DecidedBy Fails [check] x := by
  intro e
  simp [firstFails_cons, h]

/-- A check that does not fail here may come first. -/
theorem DecidedBy.skip (hx : DecidedBy Fails checks x) (h : ∀ d, ¬ Fails check d) :
    DecidedBy Fails (check :: checks) x := by
  intro e
  rw [hx e, firstFails_cons]
  simp [h]

theorem decidedBy_refuse {p : Prop} [Decidable p] (h : ∀ d, Fails check d ↔ p ∧ d = e)
    (hx : DecidedBy Fails checks x) :
    DecidedBy Fails (check :: checks) (if p then .error e else x) := by
  split
  · next hp => exact decidedBy_error fun d => by simp [h, hp]
  · next hp => exact hx.skip fun d hd => hp ((h d).1 hd).1

theorem decidedBy_require {p : Prop} [Decidable p] (h : ∀ d, Fails check d ↔ ¬ p ∧ d = e)
    (hx : DecidedBy Fails checks x) :
    DecidedBy Fails (check :: checks) (if p then x else .error e) := by
  rw [← ite_not]
  exact decidedBy_refuse h hx

/-- The checks of a chain are those of its first step and then those of the rest. -/
theorem DecidedBy.bind {f : α → Except ε β} (hx : DecidedBy Fails checks x)
    (hf : ∀ a, x = .ok a → DecidedBy Fails later (f a)) :
    DecidedBy Fails (checks ++ later) (x >>= f) := by
  intro e
  rw [bind_eq_error, hx e, firstFails_append]
  refine or_congr_right ?_
  constructor
  · rintro ⟨a, ha, he⟩
    exact ⟨hx.exists_ok_iff.1 ⟨a, ha⟩, (hf a ha e).1 he⟩
  · rintro ⟨hnone, he⟩
    obtain ⟨a, ha⟩ := hx.exists_ok_iff.2 hnone
    exact ⟨a, ha, (hf a ha e).2 he⟩

theorem DecidedBy.next {f : α → Except ε β} (hx : DecidedBy Fails [check] x)
    (hf : ∀ a, x = .ok a → DecidedBy Fails checks (f a)) :
    DecidedBy Fails (check :: checks) (x >>= f) :=
  hx.bind hf

/-- Checks that are known under other names as well. -/
theorem DecidedBy.rename {κ' : Type} {Fails' : κ' → ε → Prop} (hx : DecidedBy Fails checks x)
    (name : κ → κ') (h : ∀ check e, Fails' (name check) e ↔ Fails check e) :
    DecidedBy Fails' (checks.map name) x := by
  intro e
  rw [hx e]
  clear hx
  induction checks with
  | nil => simp
  | cons check checks ih => simp only [List.map_cons, firstFails_cons, h, ih]

end Passkey
