/-!
# Steps that may fail

A chain of steps succeeds exactly if each of its steps does. The laws below take such a chain apart
one step at a time, and say when a step that only checks something succeeds. The errors of a chain
are those of its steps, so what holds of all errors of each step holds of all of its own.
-/

namespace Passkey

variable {ε δ α β : Type}

theorem bind_eq_ok {x : Except ε α} {f : α → Except ε β} {b : β} :
    x >>= f = .ok b ↔ ∃ a, x = .ok a ∧ f a = .ok b := by
  cases x with
  | error e => simp [bind, Except.bind]
  | ok a => simp [bind, Except.bind]

theorem bind_eq_error {x : Except ε α} {f : α → Except ε β} {e : ε} :
    x >>= f = .error e ↔ x = .error e ∨ ∃ a, x = .ok a ∧ f a = .error e := by
  cases x with
  | error d => simp [bind, Except.bind]
  | ok a => simp [bind, Except.bind]

theorem throw_eq_error (e : ε) : (throw e : Except ε α) = .error e := rfl

theorem ok_bind (a : α) (f : α → Except ε β) : Except.ok a >>= f = f a := rfl

theorem error_bind (e : ε) (f : α → Except ε β) : Except.error e >>= f = .error e := rfl

theorem map_eq_ok {f : α → β} {x : Except ε α} {b : β} :
    x.map f = .ok b ↔ ∃ a, x = .ok a ∧ f a = b := by
  cases x with
  | error e => simp [Except.map]
  | ok a => simp [Except.map]

/-- A step that only checks something has one thing to hand on. -/
theorem exists_unit {p : Unit → Prop} : (∃ u, p u) ↔ p () := by
  constructor
  · rintro ⟨⟨⟩, h⟩
    exact h
  · intro h
    exact ⟨(), h⟩

theorem pure_eq_ok {a b : α} : (pure a : Except ε α) = .ok b ↔ b = a := by
  simp [pure, Except.pure, eq_comm]

theorem mapError_eq_ok {f : ε → δ} {x : Except ε α} {a : α} :
    x.mapError f = .ok a ↔ x = .ok a := by
  cases x with
  | error e =>
    show (.error (f e) : Except δ α) = .ok a ↔ _
    simp
  | ok b =>
    show (.ok b : Except δ α) = .ok a ↔ _
    simp

theorem mapError_eq_error {f : ε → δ} {x : Except ε α} {e : δ} :
    x.mapError f = .error e ↔ ∃ d, x = .error d ∧ e = f d := by
  cases x with
  | error d =>
    show (.error (f d) : Except δ α) = .error e ↔ _
    simp [eq_comm]
  | ok a =>
    show (.ok a : Except δ α) = .error e ↔ _
    simp

/-- What is refused under a condition succeeds only without it. -/
theorem refuse_eq_ok {p : Prop} [Decidable p] {e : ε} {x : Except ε α} {a : α} :
    (if p then .error e else x) = .ok a ↔ ¬ p ∧ x = .ok a := by
  by_cases h : p
  · simp [h]
  · simp [h]

/-- What is refused under a condition fails for that reason with it, and for another one only
without. -/
theorem refuse_eq_error {p : Prop} [Decidable p] {e d : ε} {x : Except ε α} :
    (if p then .error e else x) = .error d ↔ p ∧ e = d ∨ ¬ p ∧ x = .error d := by
  by_cases h : p
  · simp [h]
  · simp [h]

/-- What is granted under a condition succeeds only with it. -/
theorem require_eq_ok {p : Prop} [Decidable p] {e : ε} {x : Except ε α} {a : α} :
    (if p then x else .error e) = .ok a ↔ p ∧ x = .ok a := by
  by_cases h : p
  · simp [h]
  · simp [h]

section Traversals

variable {γ : Type} {given : β → γ} {gives : α → γ} {p : α → Prop} {b : β} {bs : List β}
  {as : List α}

/-- Where what is given and what it gives agree item by item, they do so at the first item and from
there on. -/
theorem map_cons_eq_map :
    (b :: bs).map given = as.map gives ∧ (∀ a ∈ as, p a) ↔
      ∃ a, (given b = gives a ∧ p a) ∧
        ∃ rest, (bs.map given = rest.map gives ∧ ∀ a ∈ rest, p a) ∧ as = a :: rest := by
  constructor
  · rintro ⟨hmap, hall⟩
    cases as with
    | nil => cases hmap
    | cons a as =>
      obtain ⟨ha, has⟩ := List.cons_eq_cons.1 hmap
      obtain ⟨hp, hps⟩ := List.forall_mem_cons.1 hall
      exact ⟨a, ⟨ha, hp⟩, as, ⟨has, hps⟩, rfl⟩
  · rintro ⟨a, ⟨ha, hp⟩, rest, ⟨hrest, hps⟩, rfl⟩
    exact ⟨by simp [ha, hrest], List.forall_mem_cons.2 ⟨hp, hps⟩⟩

/-- A traversal succeeds exactly if each of its steps does, where success of a step is a relation
between what it is given and what it gives. -/
theorem mapM_eq_ok {f : β → Except ε α} (h : ∀ b a, f b = .ok a ↔ given b = gives a ∧ p a) :
    bs.mapM f = .ok as ↔ bs.map given = as.map gives ∧ ∀ a ∈ as, p a := by
  induction bs generalizing as with
  | nil => cases as <;> simp [pure_eq_ok]
  | cons b bs ih => simp only [List.mapM_cons, bind_eq_ok, pure_eq_ok, h, ih, map_cons_eq_map]

/-- The same for steps that give no reason when they fail. -/
theorem mapM_eq_some {f : β → Option α} (h : ∀ b a, f b = some a ↔ given b = gives a ∧ p a) :
    bs.mapM f = some as ↔ bs.map given = as.map gives ∧ ∀ a ∈ as, p a := by
  induction bs generalizing as with
  | nil => cases as <;> simp
  | cons b bs ih =>
    simp only [List.mapM_cons, Option.bind_eq_bind, Option.bind_eq_some_iff, Option.pure_def,
      Option.some.injEq, h, ih, map_cons_eq_map, eq_comm (a := as)]

end Traversals

/-! ### What the errors have in common -/

/-- All errors that a step can end in are such. -/
def ErrsWith (p : ε → Prop) (x : Except ε α) : Prop := ∀ e, x = .error e → p e

section ErrsWith

variable {p : ε → Prop} {x y : Except ε α} {e : ε}

theorem errsWith_ok (a : α) : ErrsWith p (.ok a) := fun _ h => nomatch h

theorem errsWith_error (h : p e) : ErrsWith p (.error e : Except ε α) := by
  rintro _ ⟨⟩
  exact h

theorem ErrsWith.bind {f : α → Except ε β} (hx : ErrsWith p x) (hf : ∀ a, ErrsWith p (f a)) :
    ErrsWith p (x >>= f) := by
  intro e he
  rcases bind_eq_error.1 he with he | ⟨a, -, he⟩
  · exact hx e he
  · exact hf a e he

theorem ErrsWith.map {f : α → β} (hx : ErrsWith p x) : ErrsWith p (x.map f) := by
  cases x with
  | error e => exact errsWith_error (hx e rfl)
  | ok a => exact errsWith_ok (f a)

theorem ErrsWith.mapError {q : δ → Prop} {f : δ → ε} {y : Except δ α} (hy : ErrsWith q y)
    (h : ∀ d, q d → p (f d)) : ErrsWith p (y.mapError f) := by
  intro e he
  obtain ⟨d, hd, rfl⟩ := mapError_eq_error.1 he
  exact h d (hy d hd)

theorem errsWith_mapError {f : δ → ε} {y : Except δ α} (h : ∀ d, p (f d)) :
    ErrsWith p (y.mapError f) :=
  ErrsWith.mapError (fun _ _ => trivial) fun d (_ : True) => h d

theorem errsWith_ite {q : Prop} [Decidable q] (hx : ErrsWith p x) (hy : ErrsWith p y) :
    ErrsWith p (if q then x else y) := by
  split
  · exact hx
  · exact hy

theorem errsWith_refuse {q : Prop} [Decidable q] (h : p e) (hx : ErrsWith p x) :
    ErrsWith p (if q then .error e else x) :=
  errsWith_ite (errsWith_error h) hx

theorem errsWith_mapM {f : β → Except ε α} (bs : List β) (h : ∀ b, ErrsWith p (f b)) :
    ErrsWith p (bs.mapM f) := by
  induction bs with
  | nil => exact errsWith_ok []
  | cons b bs ih =>
    rw [List.mapM_cons]
    exact (h b).bind fun _ => ih.bind fun _ => errsWith_ok _

end ErrsWith

end Passkey
