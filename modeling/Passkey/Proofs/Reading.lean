import Passkey.Parsed

/-!
# Readings

What a reader does to an input, apart from the proof that it made progress, is a reading: it takes
something off the front and leaves the rest, or fails. A reading is local where the bytes that it
takes decide what it reads, so that other bytes may follow them. Sequences of local readings are
local, which is how readers of nested data are seen to be. `Reads` says which bytes a reading takes
for a given result, and composes along such sequences too.
-/

namespace Passkey

/-- Takes something off the front of an input, or fails. -/
abbrev Reading (α : Type) := StateT Bytes Option α

namespace Reading

variable {α β : Type} {input : Bytes}

/-- The reading of a reader. -/
def of (read : (input : Bytes) → Option (Parsed α input)) : Reading α := fun input =>
  (read input).map fun p => (p.value, p.rest)

/-- The reading of a reader that may consume nothing. -/
def ofConsumed (read : (input : Bytes) → Option (Consumed α input)) : Reading α := fun input =>
  (read input).map fun p => (p.value, p.rest)

/-- This many bytes. -/
def take (n : Nat) : Reading Bytes := Bytes.split? n

theorem run_of (read : (input : Bytes) → Option (Parsed α input)) :
    (of read).run input = (read input).map fun p => (p.value, p.rest) := rfl

theorem run_ofConsumed (read : (input : Bytes) → Option (Consumed α input)) :
    (ofConsumed read).run input = (read input).map fun p => (p.value, p.rest) := rfl

theorem run_of_bind (read : (input : Bytes) → Option (Parsed α input)) (f : α → Reading β) :
    (of read >>= f).run input = (read input).bind fun p => (f p.value).run p.rest := by
  rw [StateT.run_bind, run_of]
  cases read input <;> rfl

@[simp] theorem run_failure : (failure : Reading α).run input = none := rfl

@[simp] theorem run_take (n : Nat) : (take n).run input =
    if n ≤ input.length then some (input.take n, input.drop n) else none := rfl

theorem run_of_eq_some {read : (input : Bytes) → Option (Parsed α input)} {a : α} {rest : Bytes} :
    (of read).run input = some (a, rest) ↔ ∃ h, read input = some ⟨a, rest, h⟩ := by
  rw [run_of, Option.map_eq_some_iff]
  constructor
  · rintro ⟨⟨_, _, h⟩, hp, he⟩
    cases he
    exact ⟨h, hp⟩
  · rintro ⟨h, hp⟩
    exact ⟨_, hp, rfl⟩

theorem length_of {read : (input : Bytes) → Option (Parsed α input)} {a : α} {rest : Bytes}
    (h : (of read).run input = some (a, rest)) : rest.length < input.length := by
  obtain ⟨hlt, -⟩ := run_of_eq_some.1 h
  exact hlt

theorem length_take {n : Nat} {taken rest : Bytes} (h : (take n).run input = some (taken, rest)) :
    rest.length ≤ input.length := by
  rw [run_take] at h
  split at h
  · cases h
    rw [List.length_drop]
    exact Nat.sub_le ..
  · cases h

/-! ### Locality -/

/-- The bytes that the reading takes off this input are read alike whatever follows them. -/
def LocalAt (r : Reading α) (input : Bytes) : Prop :=
  ∀ a rest, r.run input = some (a, rest) →
    ∃ taken, input = taken ++ rest ∧ ∀ rest', r.run (taken ++ rest') = some (a, rest')

/-- The reading is local at every input. -/
def IsLocal (r : Reading α) : Prop := ∀ input, r.LocalAt input

theorem isLocal_pure (a : α) : IsLocal (pure a) := by
  rintro input _ _ h
  cases h
  exact ⟨[], rfl, fun _ => rfl⟩

theorem isLocal_failure : IsLocal (failure : Reading α) := by
  intro input a rest h
  cases h

theorem isLocal_lift (x : Option α) : IsLocal (StateT.lift x : Reading α) := by
  cases x with
  | none => exact isLocal_failure
  | some a => exact isLocal_pure a

theorem isLocal_take (n : Nat) : IsLocal (take n) := by
  intro input taken rest h
  rw [run_take] at h
  split at h
  · rename_i hn
    cases h
    refine ⟨input.take n, (List.take_append_drop n input).symm, fun rest' => ?_⟩
    have hlen : (input.take n).length = n := by rw [List.length_take, Nat.min_eq_left hn]
    have hlong : n ≤ (input.take n ++ rest').length := by rw [List.length_append]; omega
    rw [run_take, if_pos hlong, List.take_left' hlen, List.drop_left' hlen]
  · cases h

theorem LocalAt.bind {r : Reading α} {f : α → Reading β} (hr : r.LocalAt input)
    (hf : ∀ a rest, r.run input = some (a, rest) → (f a).LocalAt rest) :
    (r >>= f).LocalAt input := by
  intro b rest h
  rw [StateT.run_bind] at h
  obtain ⟨⟨a, middle⟩, ha, hb⟩ := Option.bind_eq_some_iff.1 h
  obtain ⟨first, rfl, hfirst⟩ := hr a middle ha
  obtain ⟨second, rfl, hsecond⟩ := hf a _ ha b rest hb
  refine ⟨first ++ second, (List.append_assoc ..).symm, fun rest' => ?_⟩
  rw [StateT.run_bind, List.append_assoc, hfirst]
  exact hsecond rest'

theorem IsLocal.bind {r : Reading α} {f : α → Reading β} (hr : r.IsLocal)
    (hf : ∀ a, (f a).IsLocal) : (r >>= f).IsLocal := fun input =>
  (hr input).bind fun a rest _ => hf a rest

theorem IsLocal.map {r : Reading α} (hr : r.IsLocal) (f : α → β) : (f <$> r).IsLocal := by
  rw [← bind_pure_comp]
  exact hr.bind fun a => isLocal_pure (f a)

/-- What a local reading takes can be read by itself. -/
theorem IsLocal.run_take {r : Reading α} (hr : r.IsLocal) {a : α} {rest : Bytes}
    (h : r.run input = some (a, rest)) :
    r.run (input.take (input.length - rest.length)) = some (a, []) := by
  obtain ⟨taken, rfl, ht⟩ := hr input a rest h
  rw [List.length_append, Nat.add_sub_cancel, List.take_left]
  simpa using ht []

/-- What a local reading takes off an input it takes off every longer one, and leaves the further
bytes too. -/
theorem IsLocal.run_append {r : Reading α} (hr : r.IsLocal) {a : α} {rest : Bytes}
    (h : r.run input = some (a, rest)) (tail : Bytes) :
    r.run (input ++ tail) = some (a, rest ++ tail) := by
  obtain ⟨taken, rfl, ht⟩ := hr input a rest h
  rw [List.append_assoc]
  exact ht (rest ++ tail)

/-- An input that ends before what the reading takes of a longer one is not read at all. -/
theorem IsLocal.run_eq_none {r : Reading α} (hr : r.IsLocal) {a : α} {rest tail : Bytes}
    (h : r.run (input ++ tail) = some (a, rest)) (hshort : rest.length < tail.length) :
    r.run input = none := by
  cases hrun : r.run input with
  | none => rfl
  | some p =>
    obtain ⟨b, left⟩ := p
    have hlonger : some (b, left ++ tail) = some (a, rest) :=
      (hr.run_append hrun tail).symm.trans h
    have hrest : left ++ tail = rest := congrArg Prod.snd (Option.some.inj hlonger)
    have hlength := congrArg List.length hrest
    rw [List.length_append] at hlength
    omega

/-- What is cut short lacks something at its end. -/
theorem exists_tail_of_cut {cut bs : Bytes} (hcut : cut <+: bs) (hne : cut ≠ bs) :
    ∃ tail, tail ≠ [] ∧ cut ++ tail = bs := by
  obtain ⟨tail, rfl⟩ := hcut
  refine ⟨tail, ?_, rfl⟩
  intro hnil
  apply hne
  rw [hnil, List.append_nil]

/-! ### What bytes are read as -/

/-- The reading takes exactly these bytes and gives this, whatever follows them. -/
def Reads (r : Reading α) (bs : Bytes) (a : α) : Prop :=
  ∀ rest, r.run (bs ++ rest) = some (a, rest)

variable {r : Reading α} {bs cs : Bytes} {a : α} {b : β}

theorem reads_pure (a : α) : Reads (pure a) [] a := fun _ => rfl

theorem reads_take (bs : Bytes) : Reads (take bs.length) bs bs := by
  intro rest
  rw [run_take, if_pos (by simp), List.take_left, List.drop_left]

theorem Reads.bind {f : α → Reading β} (hr : r.Reads bs a) (hf : (f a).Reads cs b) :
    (r >>= f).Reads (bs ++ cs) b := by
  intro rest
  rw [StateT.run_bind, List.append_assoc, hr]
  exact hf rest

theorem Reads.bind_nil {f : α → Reading β} (hr : r.Reads bs a) (hf : (f a).Reads [] b) :
    (r >>= f).Reads bs b :=
  List.append_nil bs ▸ hr.bind hf

theorem Reads.map (hr : r.Reads bs a) (f : α → β) : (f <$> r).Reads bs (f a) := by
  rw [← bind_pure_comp]
  exact hr.bind_nil (reads_pure (f a))

end Reading

end Passkey
