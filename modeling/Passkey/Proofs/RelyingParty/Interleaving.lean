import Mathlib.Data.Nat.Init
import Mathlib.Logic.Function.Basic
import Passkey.RelyingParty.Ceremony

/-!
# Ceremonies that take turns

Ceremonies that run at the same time share their surroundings, which answer one question at a time.
An interleaving says whose turn it is at each time; in a turn the ceremony asks its next question,
or does nothing if it is over. What holds of a ceremony at some time, and is kept by every answer,
holds of it ever after.
-/

namespace Passkey

variable {ι α σ : Type}

namespace Ceremony

/-- One turn of a ceremony: what is left of it, and the surroundings, after its next question. -/
def step (surroundings : Surroundings σ) : Ceremony α → σ → Ceremony α × σ
  | .done result, s => (.done result, s)
  | .ask query next, s => (next (surroundings s query).1, (surroundings s query).2)

/-- Whatever the answers are, the ceremony asks no question of this kind. -/
def Never (kind : Query → Prop) : Ceremony α → Prop
  | .done _ => True
  | .ask query next => ¬ kind query ∧ ∀ answer, (next answer).Never kind

/-- Whatever the answers are, the ceremony asks at most one question of this kind. -/
def AtMostOnce (kind : Query → Prop) : Ceremony α → Prop
  | .done _ => True
  | .ask query next =>
    ∀ answer, (next answer).AtMostOnce kind ∧ (kind query → (next answer).Never kind)

theorem atMostOnce_of_never {kind : Query → Prop} {c : Ceremony α} (h : c.Never kind) :
    c.AtMostOnce kind := by
  induction c with
  | done result => trivial
  | ask query next ih =>
    intro answer
    exact ⟨ih answer (h.2 answer), fun hk => absurd hk h.1⟩

end Ceremony

/-- Ceremonies that share their surroundings, and whose turn it is at each time. -/
structure Interleaving (ι α σ : Type) where
  surroundings : Surroundings σ
  start : σ
  ceremonies : ι → Ceremony α
  turn : Nat → ι

namespace Interleaving

variable [DecidableEq ι]

/-- The surroundings, and what is left of each ceremony, after that many turns. -/
def snapshot (I : Interleaving ι α σ) : Nat → σ × (ι → Ceremony α)
  | 0 => (I.start, I.ceremonies)
  | n + 1 =>
    let (s, ceremonies) := I.snapshot n
    let (rest, s) := (ceremonies (I.turn n)).step I.surroundings s
    (s, Function.update ceremonies (I.turn n) rest)

variable (I : Interleaving ι α σ)

/-- The surroundings after that many turns. -/
def state (n : Nat) : σ := (I.snapshot n).1

/-- What is left of a ceremony after that many turns. -/
def ceremony (n : Nat) (i : ι) : Ceremony α := (I.snapshot n).2 i

/-- A ceremony has its turn and asks a question. -/
def Asks (n : Nat) (i : ι) (query : Query) : Prop :=
  I.turn n = i ∧ ∃ next, I.ceremony n i = .ask query next

/-! ### One turn -/

theorem state_succ (n : Nat) :
    I.state (n + 1) = ((I.ceremony n (I.turn n)).step I.surroundings (I.state n)).2 := rfl

theorem ceremony_succ_turn (n : Nat) :
    I.ceremony (n + 1) (I.turn n) =
      ((I.ceremony n (I.turn n)).step I.surroundings (I.state n)).1 :=
  Function.update_self ..

theorem ceremony_succ_of_ne {n : Nat} {i : ι} (h : I.turn n ≠ i) :
    I.ceremony (n + 1) i = I.ceremony n i :=
  Function.update_of_ne (Ne.symm h) ..

variable {I} {m n : Nat} {i : ι} {query : Query} {next : query.Answer → Ceremony α}

theorem state_succ_of_ask (ht : I.turn n = i) (hc : I.ceremony n i = .ask query next) :
    I.state (n + 1) = (I.surroundings (I.state n) query).2 := by
  subst ht
  rw [state_succ, hc]
  rfl

theorem ceremony_succ_of_ask (ht : I.turn n = i) (hc : I.ceremony n i = .ask query next) :
    I.ceremony (n + 1) i = next (I.surroundings (I.state n) query).1 := by
  subst ht
  rw [ceremony_succ_turn, hc]
  rfl

/-- A turn of its own is all that changes a ceremony, by an answer. -/
theorem ceremony_succ_cases (I : Interleaving ι α σ) (n : Nat) (i : ι) :
    I.ceremony (n + 1) i = I.ceremony n i ∨
      ∃ query next, I.ceremony n i = .ask query next ∧
        I.ceremony (n + 1) i = next (I.surroundings (I.state n) query).1 := by
  by_cases ht : I.turn n = i
  · cases hc : I.ceremony n i with
    | done result =>
      left
      subst ht
      rw [ceremony_succ_turn, hc]
      rfl
    | ask query next => exact Or.inr ⟨query, next, rfl, ceremony_succ_of_ask ht hc⟩
  · exact Or.inl (I.ceremony_succ_of_ne ht)

theorem query_unique {query' : Query} (h : I.Asks n i query) (h' : I.Asks n i query') :
    query = query' := by
  obtain ⟨-, next, hc⟩ := h
  obtain ⟨-, next', hc'⟩ := h'
  cases hc.symm.trans hc'
  rfl

/-! ### All turns -/

/-- What every answer keeps, of a ceremony, goes on to hold. -/
theorem ceremony_persists {p : Ceremony α → Prop}
    (hp : ∀ query next, p (.ask query next) → ∀ answer, p (next answer)) (hmn : m ≤ n)
    (h : p (I.ceremony m i)) : p (I.ceremony n i) := by
  induction n, hmn using Nat.le_induction with
  | base => exact h
  | succ n hmn ih =>
    rcases I.ceremony_succ_cases n i with he | ⟨query, next, hc, he⟩
    · rw [he]
      exact ih
    · rw [hc] at ih
      rw [he]
      exact hp query next ih _

/-- A ceremony that is over stays so. -/
theorem ceremony_of_done {result : Except CeremonyError α} (hmn : m ≤ n)
    (h : I.ceremony m i = .done result) : I.ceremony n i = .done result :=
  ceremony_persists (p := (· = .done result)) (fun _ _ h => nomatch h) hmn h

theorem not_asks_of_lt {kind : Query → Prop} (h : (I.ceremonies i).AtMostOnce kind)
    (hm : I.Asks m i query) (hk : kind query) (hmn : m < n) {query' : Query}
    (hk' : kind query') : ¬ I.Asks n i query' := by
  rintro ⟨-, next', hn⟩
  obtain ⟨ht, next, hc⟩ := hm
  have honce : (I.ceremony m i).AtMostOnce kind :=
    ceremony_persists (fun _ _ h answer => (h answer).1) (Nat.zero_le m) h
  rw [hc] at honce
  have hnever : (I.ceremony (m + 1) i).Never kind := by
    rw [ceremony_succ_of_ask ht hc]
    exact (honce _).2 hk
  have hlater : (I.ceremony n i).Never kind :=
    ceremony_persists (fun _ _ h answer => h.2 answer) hmn hnever
  rw [hn] at hlater
  exact hlater.1 hk'

/-- There is one time for a question that a ceremony asks at most once. -/
theorem asks_unique {kind : Query → Prop} (h : (I.ceremonies i).AtMostOnce kind)
    (hm : I.Asks m i query) (hk : kind query) {query' : Query} (hn : I.Asks n i query')
    (hk' : kind query') : m = n := by
  rcases Nat.lt_trichotomy m n with hlt | heq | hlt
  · exact absurd hn (not_asks_of_lt h hm hk hlt hk')
  · exact heq
  · exact absurd hm (not_asks_of_lt h hn hk' hlt hk)

/-- A ceremony that has every turn from some time on runs to its end as it does alone. -/
theorem ceremony_alone (hturn : ∀ n, m ≤ n → I.turn n = i) :
    ∃ n, m ≤ n ∧
      I.ceremony n i = .done ((I.ceremony m i).run I.surroundings (I.state m)).result ∧
      I.state n = ((I.ceremony m i).run I.surroundings (I.state m)).surroundings := by
  generalize hc : I.ceremony m i = c
  induction c generalizing m with
  | done result => exact ⟨m, Nat.le_refl m, hc, rfl⟩
  | ask query next ih =>
    have ht : I.turn m = i := hturn m (Nat.le_refl m)
    obtain ⟨n, hmn, hn, hs⟩ := ih (I.surroundings (I.state m) query).1
      (fun n hmn => hturn n (Nat.le_of_succ_le hmn)) (ceremony_succ_of_ask ht hc)
    rw [state_succ_of_ask ht hc] at hn hs
    exact ⟨n, Nat.le_of_succ_le hmn, hn, hs⟩

end Interleaving

end Passkey
