import Mathlib.Order.Bounds.Defs
import Passkey.Proofs.RelyingParty.AssertionAcceptance
import Passkey.Proofs.RelyingParty.Interleaving
import Passkey.Proofs.RelyingParty.StoreLaws

/-!
# Signature counters under concurrency

Any number of authentications take turns in one repository. `Course` says how far each of them can
have come, with the times of its look-up and of its update. An update only ever replaces the counter
that was looked up by a greater one, so no counter decreases, and one that was changed is never the
same again.
-/

namespace Passkey

/-- The arguments of an authentication. -/
structure AssertionCall where
  config : RelyingPartyConfig
  options : RequestOptions
  response : AssertedCredential
  tokenBindingId : Option String

/-- The authentication with these arguments. -/
def AssertionCall.ceremony (call : AssertionCall) : Ceremony AssertionResult :=
  finishAssertion call.config call.options call.response call.tokenBindingId

/-- An authentication has failed from the start, or begins with the look-up. -/
theorem AssertionCall.ceremony_cases (call : AssertionCall) :
    (∃ e, call.ceremony = .fail e) ∨
      ∃ next, call.ceremony = .ask (.lookup call.response.rawId) next := by
  rcases Assertion.finishAssertion_cases call.config call.options call.response
    call.tokenBindingId with ⟨e, he⟩ | ⟨r, -, hf⟩
  · exact Or.inl ⟨e, he⟩
  · exact Or.inr ⟨_, hf⟩

/-- Authentications that take turns in a repository in memory that was filled beforehand. -/
structure AssertionRace (ι : Type) where
  credentials : List RegisteredCredential
  resolver : Option TrustRootResolver
  calls : ι → AssertionCall
  turn : Nat → ι

namespace Assertion

/-! ### One question of each kind -/

theorem never_afterUpdate (kind : Query → Prop) (result : AssertionResult)
    (answer : Except String Bool) : (afterUpdate result answer).Never kind := by
  match answer with
  | .error reason => trivial
  | .ok false => trivial
  | .ok true => trivial

theorem advanceCounter_atMostOnce (kind : Query → Prop) (stored : RegisteredCredential)
    (data : AuthenticatorData) : (advanceCounter stored (resultOf stored data)).AtMostOnce kind := by
  rw [advanceCounter_eq]
  split
  · intro answer
    have hnever := never_afterUpdate kind (resultOf stored data) answer
    exact ⟨Ceremony.atMostOnce_of_never hnever, fun _ => hnever⟩
  · trivial

theorem never_advanceCounter {kind : Query → Prop}
    (h : ∀ id old new, ¬ kind (.updateCounter id old new)) (stored : RegisteredCredential)
    (data : AuthenticatorData) : (advanceCounter stored (resultOf stored data)).Never kind := by
  rw [advanceCounter_eq]
  split
  · exact ⟨h _ _ _, never_afterUpdate kind _⟩
  · trivial

/-- An authentication asks at most one question of a kind to which look-ups and updates do not both
belong. -/
theorem ceremony_atMostOnce {kind : Query → Prop}
    (hkind : ∀ id id' old new, kind (.lookup id) → ¬ kind (.updateCounter id' old new))
    (call : AssertionCall) : call.ceremony.AtMostOnce kind := by
  unfold AssertionCall.ceremony
  rcases finishAssertion_cases call.config call.options call.response call.tokenBindingId with
    ⟨e, he⟩ | ⟨r, hr, hf⟩
  · rw [he]
    trivial
  · rw [hf]
    intro answer
    rcases afterLookup_cases call.config call.tokenBindingId hr answer with
      ⟨e, he⟩ | ⟨stored, -, -, ha⟩
    · rw [he]
      exact ⟨trivial, fun _ => trivial⟩
    · rw [ha]
      exact ⟨advanceCounter_atMostOnce kind stored r.data, fun hk =>
        never_advanceCounter (fun id old new => hkind _ id old new hk) stored r.data⟩

end Assertion

namespace AssertionRace

open Assertion

variable {ι : Type} [DecidableEq ι]

/-- The authentications, taking turns. -/
def play (race : AssertionRace ι) : Interleaving ι AssertionResult CredentialStore where
  surroundings := CredentialStore.surroundings race.resolver
  start := .ofList race.credentials
  ceremonies i := (race.calls i).ceremony
  turn := race.turn

variable (race : AssertionRace ι)

/-- The stored counter of a credential, if there is one, after that many turns. -/
def counter (n : Nat) (id : Bytes) : Option UInt32 :=
  ((race.play.state n).get? id).map (·.signatureCount)

/-- In its turn an authentication replaces the counter of a credential. -/
structure Moves (n : Nat) (i : ι) (id : Bytes) (old new : UInt32) : Prop where
  asked : race.play.Asks n i (.updateCounter id old new)
  counter_eq : race.counter n id = some old
  counter_succ : race.counter (n + 1) id = some new

/-- An authentication was accepted, as valid, with a counter that is in use. -/
structure Accepts (n : Nat) (i : ι) (result : AssertionResult) : Prop where
  done : race.play.ceremony n i = .done (.ok result)
  valid : result.counterValid = true
  used : 0 < result.signatureCount

/-- An authentication looked up a credential against which its response passes. -/
structure Found (n : Nat) (i : ι) (stored : RegisteredCredential) (data : AuthenticatorData) :
    Prop where
  asked : race.play.Asks n i (.lookup (race.calls i).response.rawId)
  known : (race.play.state n).get? (race.calls i).response.rawId = some stored
  named : stored.credentialId = (race.calls i).response.rawId
  passes : ∃ clientData, Passes (race.calls i).config (race.calls i).options
    (race.calls i).response (race.calls i).tokenBindingId clientData data stored

/-- How far an authentication can have come after so many turns. -/
inductive Course (n : Nat) (i : ι) : Ceremony AssertionResult → Prop where
  /-- Nothing was asked. -/
  | fresh : Course n i (race.calls i).ceremony
  | failed (e : CeremonyError) : Course n i (.fail e)
  /-- The counter is to be replaced. -/
  | found {l : Nat} {stored : RegisteredCredential} {data : AuthenticatorData} :
    l < n → race.Found l i stored data → stored.signatureCount < data.counter →
    Course n i (.ask (.updateCounter (race.calls i).response.rawId stored.signatureCount
      data.counter) (afterUpdate (resultOf stored data)))
  /-- It was accepted, and the counter did not advance. -/
  | settled {l : Nat} {stored : RegisteredCredential} {data : AuthenticatorData} :
    l < n → race.Found l i stored data → ¬ stored.signatureCount < data.counter →
    Course n i (.done (.ok (resultOf stored data)))
  /-- It was accepted, and the counter was replaced. -/
  | moved {l u : Nat} {stored : RegisteredCredential} {data : AuthenticatorData} :
    l < u → u < n → race.Found l i stored data → stored.signatureCount < data.counter →
    race.Moves u i (race.calls i).response.rawId stored.signatureCount data.counter →
    Course n i (.done (.ok (resultOf stored data)))

variable {race} {i j : ι} {m n l u : Nat} {id : Bytes} {old new : UInt32}

/-! ### One turn -/

theorem counter_of_get? {stored : RegisteredCredential}
    (h : (race.play.state n).get? id = some stored) :
    race.counter n id = some stored.signatureCount := by
  rw [counter, h, Option.map_some]

theorem counter_of_setCounter {key : Bytes}
    (hs : race.play.state (n + 1) = (race.play.state n).setCounter key new) (id : Bytes) :
    race.counter (n + 1) id =
      if id = key then (race.counter n key).map fun _ => new else race.counter n id := by
  unfold counter
  rw [hs, CredentialStore.get?_setCounter]
  split
  · rw [Option.map_map, Option.map_map]
    rfl
  · rfl

theorem hasCounter_iff_counter :
    (race.play.state n).hasCounter id old = true ↔ race.counter n id = some old := by
  rw [CredentialStore.hasCounter_iff, counter, Option.map_eq_some_iff]

/-- What a turn does in which a counter is to be replaced. -/
theorem update_cases (h : race.play.Asks n i (.updateCounter id old new)) :
    (race.Moves n i id old new ∧
        race.play.state (n + 1) = (race.play.state n).setCounter id new) ∨
      (race.counter n id ≠ some old ∧ race.play.state (n + 1) = race.play.state n) := by
  obtain ⟨ht, next, hc⟩ := h
  have hstate : race.play.state (n + 1) =
      ((race.play.state n).updateCounter id old new).2 := Interleaving.state_succ_of_ask ht hc
  rw [CredentialStore.updateCounter_eq] at hstate
  by_cases hold : race.counter n id = some old
  · left
    have hset : race.play.state (n + 1) = (race.play.state n).setCounter id new :=
      hstate.trans (if_pos (hasCounter_iff_counter.2 hold))
    refine ⟨⟨⟨ht, next, hc⟩, hold, ?_⟩, hset⟩
    rw [counter_of_setCounter hset, if_pos rfl, hold, Option.map_some]
  · right
    exact ⟨hold, hstate.trans (if_neg fun hh => hold (hasCounter_iff_counter.1 hh))⟩

/-- Nothing but the replacement of a counter changes the repository. -/
theorem state_succ_cases (race : AssertionRace ι) (n : Nat) :
    race.play.state (n + 1) = race.play.state n ∨
      ∃ id old new, race.Moves n (race.turn n) id old new ∧
        race.play.state (n + 1) = (race.play.state n).setCounter id new := by
  cases hc : race.play.ceremony n (race.turn n) with
  | done result =>
    left
    show (((race.play.ceremony n (race.turn n))).step _ _).2 = _
    rw [hc]
    rfl
  | ask query next =>
    cases query with
    | lookup id => exact Or.inl (Interleaving.state_succ_of_ask rfl hc)
    | isRegistered id => exact Or.inl (Interleaving.state_succ_of_ask rfl hc)
    | trustRoots aaguid format => exact Or.inl (Interleaving.state_succ_of_ask rfl hc)
    | updateCounter id old new =>
      rcases update_cases (i := race.turn n) ⟨rfl, next, hc⟩ with ⟨hm, hs⟩ | ⟨-, hs⟩
      · exact Or.inr ⟨id, old, new, hm, hs⟩
      · exact Or.inl hs

theorem keyed_state (race : AssertionRace ι) (n : Nat) : (race.play.state n).Keyed := by
  induction n with
  | zero => exact CredentialStore.keyed_ofList race.credentials
  | succ n ih =>
    rcases race.state_succ_cases n with hs | ⟨id, old, new, -, hs⟩
    · rw [hs]
      exact ih
    · rw [hs]
      exact CredentialStore.keyed_setCounter ih id new

/-! ### The course of each authentication -/

theorem Course.mono {c : Ceremony AssertionResult} (hmn : m ≤ n) (h : race.Course m i c) :
    race.Course n i c := by
  cases h with
  | fresh => exact Course.fresh
  | failed e => exact Course.failed e
  | found hl hf hlt => exact Course.found (Nat.lt_of_lt_of_le hl hmn) hf hlt
  | settled hl hf hle => exact Course.settled (Nat.lt_of_lt_of_le hl hmn) hf hle
  | moved hl hu hf hlt hm => exact Course.moved hl (Nat.lt_of_lt_of_le hu hmn) hf hlt hm

/-- The answer to the look-up. -/
theorem Course.lookup (ht : race.turn n = i)
    (hc : race.play.ceremony n i = (race.calls i).ceremony) :
    race.Course (n + 1) i (race.play.ceremony (n + 1) i) := by
  rcases finishAssertion_cases (race.calls i).config (race.calls i).options
    (race.calls i).response (race.calls i).tokenBindingId with ⟨e, he⟩ | ⟨r, hr, hf⟩
  · have hfail : race.play.ceremony n i = .done (.error e) := hc.trans he
    rw [Interleaving.ceremony_of_done (Nat.le_succ n) hfail]
    exact Course.failed e
  · have hask := hc.trans hf
    have hnext := Interleaving.ceremony_succ_of_ask ht hask
    rcases afterLookup_cases (race.calls i).config (race.calls i).tokenBindingId hr
      (.ok ((race.play.state n).get? (race.calls i).response.rawId)) with
      ⟨e, he⟩ | ⟨stored, hs, hp, ha⟩
    · rw [hnext.trans he]
      exact Course.failed e
    · have hknown := Except.ok.inj hs
      have hnamed := (race.keyed_state n).credentialId_eq hknown
      have hfound : race.Found n i stored r.data := ⟨⟨ht, _, hask⟩, hknown, hnamed, _, hp⟩
      rw [hnext.trans ha, advanceCounter_eq, hnamed]
      by_cases hlt : stored.signatureCount < r.data.counter
      · rw [if_pos hlt]
        exact Course.found (Nat.lt_succ_self n) hfound hlt
      · rw [if_neg hlt]
        exact Course.settled (Nat.lt_succ_self n) hfound hlt

/-- What follows a turn in which a counter is to be replaced. -/
theorem ceremony_after_update {result : AssertionResult}
    (ht : race.turn n = i)
    (hc : race.play.ceremony n i = .ask (.updateCounter id old new) (afterUpdate result)) :
    (race.Moves n i id old new ∧ race.play.ceremony (n + 1) i = .done (.ok result)) ∨
      (race.counter n id ≠ some old ∧
        race.play.ceremony (n + 1) i = .done (.error .counterConflict)) := by
  have hnext := Interleaving.ceremony_succ_of_ask ht hc
  have hanswer : (race.play.surroundings (race.play.state n) (.updateCounter id old new)).1 =
      .ok ((race.play.state n).hasCounter id old) := by
    show Except.ok ((race.play.state n).updateCounter id old new).1 = _
    rw [CredentialStore.updateCounter_eq]
  rw [hanswer] at hnext
  rcases update_cases ⟨ht, _, hc⟩ with ⟨hm, -⟩ | ⟨hne, -⟩
  · left
    rw [hasCounter_iff_counter.2 hm.counter_eq] at hnext
    exact ⟨hm, hnext⟩
  · right
    rw [Bool.eq_false_iff.2 fun hh => hne (hasCounter_iff_counter.1 hh)] at hnext
    exact ⟨hne, hnext⟩

theorem course (race : AssertionRace ι) (n : Nat) (i : ι) :
    race.Course n i (race.play.ceremony n i) := by
  induction n with
  | zero => exact Course.fresh
  | succ n ih =>
    by_cases ht : race.turn n = i
    · generalize hc : race.play.ceremony n i = c at ih
      cases ih with
      | fresh => exact Course.lookup ht hc
      | failed e =>
        rw [Interleaving.ceremony_of_done (Nat.le_succ n) hc]
        exact Course.failed e
      | found hl hf hlt =>
        rcases ceremony_after_update ht hc with ⟨hm, hd⟩ | ⟨-, hd⟩
        · rw [hd]
          exact Course.moved hl (Nat.lt_succ_self n) hf hlt hm
        · rw [hd]
          exact Course.failed .counterConflict
      | settled hl hf hle =>
        rw [Interleaving.ceremony_of_done (Nat.le_succ n) hc]
        exact Course.settled (Nat.lt_succ_of_lt hl) hf hle
      | moved hl hu hf hlt hm =>
        rw [Interleaving.ceremony_of_done (Nat.le_succ n) hc]
        exact Course.moved hl (Nat.lt_succ_of_lt hu) hf hlt hm
    · rw [race.play.ceremony_succ_of_ne ht]
      exact ih.mono (Nat.le_succ n)

/-- Whoever replaces a counter has looked it up before, and raises it. -/
theorem asks_update (h : race.play.Asks n i (.updateCounter id old new)) :
    ∃ l stored data, l < n ∧ race.Found l i stored data ∧ id = (race.calls i).response.rawId ∧
      old = stored.signatureCount ∧ new = data.counter ∧ old < new ∧
      race.play.ceremony n i = .ask (.updateCounter id old new)
        (afterUpdate (resultOf stored data)) := by
  obtain ⟨-, next, hc⟩ := h
  have hcourse := race.course n i
  generalize hd : race.play.ceremony n i = c at hcourse
  cases hcourse with
  | fresh =>
    rcases (race.calls i).ceremony_cases with ⟨e, he⟩ | ⟨first, hf⟩
    · cases (hc.symm.trans hd).trans he
    · cases (hc.symm.trans hd).trans hf
  | failed e => cases hc.symm.trans hd
  | settled => cases hc.symm.trans hd
  | moved => cases hc.symm.trans hd
  | found hl hf hlt =>
    cases hc.symm.trans hd
    exact ⟨_, _, _, hl, hf, rfl, rfl, rfl, hlt, rfl⟩

theorem Moves.lt (h : race.Moves n i id old new) : old < new := by
  obtain ⟨-, -, -, -, -, -, -, -, hlt, -⟩ := asks_update h.asked
  exact hlt

theorem lookup_unique {id' : Bytes} (hm : race.play.Asks m i (.lookup id))
    (hn : race.play.Asks n i (.lookup id')) : m = n := by
  have honce : (race.play.ceremonies i).AtMostOnce fun query => ∃ id, query = .lookup id :=
    ceremony_atMostOnce (fun _ _ _ _ _ ⟨_, h⟩ => nomatch h) (race.calls i)
  exact Interleaving.asks_unique honce hm ⟨id, rfl⟩ hn ⟨id', rfl⟩

theorem update_unique {id' : Bytes} {old' new' : UInt32}
    (hm : race.play.Asks m i (.updateCounter id old new))
    (hn : race.play.Asks n i (.updateCounter id' old' new')) : m = n := by
  have honce : (race.play.ceremonies i).AtMostOnce fun query =>
      ∃ id old new, query = .updateCounter id old new :=
    ceremony_atMostOnce (fun _ _ _ _ ⟨_, _, _, h⟩ => nomatch h) (race.calls i)
  exact Interleaving.asks_unique honce hm ⟨id, old, new, rfl⟩ hn ⟨id', old', new', rfl⟩

/-- Who is accepted as valid, with a counter that is in use, has replaced the counter. -/
theorem Accepts.moves {result : AssertionResult} (h : race.Accepts n i result) :
    ∃ l u stored data, l < u ∧ u < n ∧ race.Found l i stored data ∧
      race.Moves u i (race.calls i).response.rawId stored.signatureCount data.counter ∧
      result = resultOf stored data := by
  have hcourse := race.course n i
  rw [h.done] at hcourse
  generalize hc : Ceremony.done (Except.ok result) = c at hcourse
  cases hcourse with
  | fresh =>
    rcases (race.calls i).ceremony_cases with ⟨e, he⟩ | ⟨first, hf⟩
    · cases hc.trans he
    · cases hc.trans hf
  | failed e => cases hc
  | found => cases hc
  | settled hl hf hle =>
    cases hc
    -- a valid counter that did not advance is not in use
    have hvalid := of_decide_eq_true h.valid
    have hzero := (hvalid.resolve_left hle).1
    exact absurd h.used (hzero ▸ UInt32.lt_irrefl 0)
  | moved hl hu hf hlt hm =>
    cases hc
    exact ⟨_, _, _, _, hl, hu, hf, hm, rfl⟩

theorem Accepts.mono {result : AssertionResult} (hmn : m ≤ n) (h : race.Accepts m i result) :
    race.Accepts n i result :=
  ⟨Interleaving.ceremony_of_done hmn h.done, h.valid, h.used⟩

/-- Replacing a counter is accepting the authentication. -/
theorem Moves.accepts (h : race.Moves n i id old new) :
    ∃ result, race.Accepts (n + 1) i result ∧ result.credentialId = id ∧
      result.signatureCount = new := by
  obtain ⟨l, stored, data, -, hf, rfl, rfl, rfl, hlt, hc⟩ := asks_update h.asked
  rcases ceremony_after_update h.asked.1 hc with ⟨-, hd⟩ | ⟨hne, -⟩
  · refine ⟨resultOf stored data, ⟨hd, decide_eq_true (Or.inl hlt), ?_⟩, hf.named, rfl⟩
    exact UInt32.lt_of_le_of_lt UInt32.zero_le hlt
  · exact absurd h.counter_eq hne

/-! ### Counters over time -/

theorem counter_succ_cases (race : AssertionRace ι) (n : Nat) (id : Bytes) :
    race.counter (n + 1) id = race.counter n id ∨
      ∃ old new, race.Moves n (race.turn n) id old new := by
  rcases race.state_succ_cases n with hs | ⟨key, old, new, hm, hs⟩
  · left
    rw [counter, counter, hs]
  · by_cases hk : id = key
    · subst hk
      exact Or.inr ⟨old, new, hm⟩
    · left
      rw [counter_of_setCounter hs, if_neg hk]

/-- No counter ever decreases, and no credential is lost. -/
theorem counter_le (hmn : m ≤ n) {c : UInt32} (h : race.counter m id = some c) :
    ∃ d, race.counter n id = some d ∧ c ≤ d := by
  induction n, hmn using Nat.le_induction with
  | base => exact ⟨c, h, UInt32.le_refl c⟩
  | succ n hmn ih =>
    obtain ⟨d, hd, hle⟩ := ih
    rcases race.counter_succ_cases n id with he | ⟨old, new, hm⟩
    · exact ⟨d, he.trans hd, hle⟩
    · have hold : d = old := Option.some.inj (hd.symm.trans hm.counter_eq)
      subst hold
      exact ⟨new, hm.counter_succ, UInt32.le_trans hle (UInt32.le_of_lt hm.lt)⟩

theorem counter_le_of_le (hmn : m ≤ n) {c d : UInt32} (hc : race.counter m id = some c)
    (hd : race.counter n id = some d) : c ≤ d := by
  obtain ⟨e, he, hle⟩ := counter_le hmn hc
  obtain rfl : e = d := Option.some.inj (he.symm.trans hd)
  exact hle

/-- Of two updates of a counter the later one is greater. -/
theorem Moves.lt_of_lt {old' new' : UInt32} (h : race.Moves m i id old new)
    (h' : race.Moves n j id old' new') (hmn : m < n) : new < new' :=
  UInt32.lt_of_le_of_lt (counter_le_of_le hmn h.counter_succ h'.counter_eq) h'.lt

/-- Two authentications do not set a counter to the same value. -/
theorem Moves.ne_of_ne {old' new' : UInt32} (h : race.Moves m i id old new)
    (h' : race.Moves n j id old' new') (hij : i ≠ j) : new ≠ new' := by
  rcases Nat.lt_trichotomy m n with hlt | heq | hlt
  · exact UInt32.ne_of_lt (h.lt_of_lt h' hlt)
  · subst heq
    exact absurd (h.asked.1.symm.trans h'.asked.1) hij
  · exact Ne.symm (UInt32.ne_of_lt (h'.lt_of_lt h hlt))

/-- A counter is the one there was at first, or that of an accepted authentication. -/
theorem counter_origin {c : UInt32} (h : race.counter n id = some c) :
    race.counter 0 id = some c ∨
      ∃ i result, race.Accepts n i result ∧ result.credentialId = id ∧
        result.signatureCount = c := by
  induction n generalizing c with
  | zero => exact Or.inl h
  | succ n ih =>
    rcases race.counter_succ_cases n id with he | ⟨old, new, hm⟩
    · rcases ih (he.symm.trans h) with h₀ | ⟨i, result, ha, hid, hc⟩
      · exact Or.inl h₀
      · exact Or.inr ⟨i, result, ha.mono (Nat.le_succ n), hid, hc⟩
    · obtain ⟨result, ha, hid, hc⟩ := hm.accepts
      obtain rfl : new = c := Option.some.inj (hm.counter_succ.symm.trans h)
      exact Or.inr ⟨_, result, ha, hid, hc⟩

/-- Who wants to replace a counter that is not what it was at the look-up any more fails, and changes
nothing in any of its turns. -/
theorem conflict_of_changed {key : Bytes} (hl : race.play.Asks l i (.lookup id))
    (hu : race.play.Asks u i (.updateCounter key old new)) (hlm : l < m) (hmu : m ≤ u)
    (hchanged : race.counter m id ≠ race.counter l id) :
    (∀ n, u < n → race.play.ceremony n i = .done (.error .counterConflict)) ∧
      ∀ n, race.turn n = i → race.play.state (n + 1) = race.play.state n := by
  obtain ⟨l', stored, data, -, hf, hkey, hold, -, -, hc⟩ := asks_update hu
  obtain rfl : l' = l := lookup_unique hf.asked hl
  obtain rfl : id = (race.calls i).response.rawId := by
    cases Interleaving.query_unique hl hf.asked
    rfl
  subst hkey
  have hthen : race.counter l' (race.calls i).response.rawId = some old := by
    rw [hold]
    exact counter_of_get? hf.known
  -- counters do not decrease, so the one that has changed since the look-up never returns
  have hgone : race.counter u (race.calls i).response.rawId ≠ some old := by
    intro hnow
    obtain ⟨c, hmid, hle⟩ := counter_le (Nat.le_of_lt hlm) hthen
    have hge : c ≤ old := counter_le_of_le hmu hmid hnow
    apply hchanged
    rw [hmid, hthen, UInt32.le_antisymm hge hle]
  constructor
  · intro n hun
    rcases ceremony_after_update hu.1 hc with ⟨hm, -⟩ | ⟨-, hd⟩
    · exact absurd hm.counter_eq hgone
    · exact Interleaving.ceremony_of_done hun hd
  · intro n ht
    rcases race.state_succ_cases n with hs | ⟨id', old', new', hm, -⟩
    · exact hs
    · rw [ht] at hm
      obtain rfl : n = u := update_unique hm.asked hu
      cases Interleaving.query_unique hm.asked hu
      exact absurd hm.counter_eq hgone

/-- What holds of the counters in every state that a race comes to, whatever the policies are and in
whichever order the authentications take their turns. -/
structure CountersKept (race : AssertionRace ι) : Prop where
  monotone : ∀ m n id c, m ≤ n → race.counter m id = some c →
    ∃ d, race.counter n id = some d ∧ c ≤ d
  /-- Who is accepted has moved the counter, from the value that was looked up to the new one. -/
  moved : ∀ n i result, race.Accepts n i result →
    ∃ l u old, l < u ∧ u < n ∧ race.play.Asks l i (.lookup result.credentialId) ∧
      race.counter l result.credentialId = some old ∧
      race.Moves u i result.credentialId old result.signatureCount
  increasing : ∀ u v i j id old old' new new', race.Moves u i id old new →
    race.Moves v j id old' new' → u < v → new < new'
  distinct : ∀ n i j result result', i ≠ j → race.Accepts n i result → race.Accepts n j result' →
    result.credentialId = result'.credentialId → result.signatureCount ≠ result'.signatureCount
  not_replayed : ∀ n i j result result', i ≠ j → (race.calls i).response = (race.calls j).response →
    race.Accepts n i result → ¬ race.Accepts n j result'
  /-- The counter is the greatest of the first one and those that were accepted. -/
  greatest : ∀ n id first, race.counter 0 id = some first →
    ∃ c, race.counter n id = some c ∧
      IsGreatest {d | d = first ∨ ∃ i result, race.Accepts n i result ∧
        result.credentialId = id ∧ result.signatureCount = d} c
  /-- Who was overtaken fails, and none of its turns changes anything. -/
  overtaken : ∀ l m u i id key old new, race.play.Asks l i (.lookup id) →
    race.play.Asks u i (.updateCounter key old new) → l < m → m ≤ u →
    race.counter m id ≠ race.counter l id →
    (∀ n, u < n → race.play.ceremony n i = .done (.error .counterConflict)) ∧
      ∀ n, race.turn n = i → race.play.state (n + 1) = race.play.state n

theorem Accepts.moves_result {result : AssertionResult} (h : race.Accepts n i result) :
    ∃ l u old, l < u ∧ u < n ∧ race.play.Asks l i (.lookup result.credentialId) ∧
      race.counter l result.credentialId = some old ∧
      race.Moves u i result.credentialId old result.signatureCount := by
  obtain ⟨l, u, stored, data, hlu, hun, hf, hm, rfl⟩ := h.moves
  have hid : (resultOf stored data).credentialId = (race.calls i).response.rawId := hf.named
  rw [hid]
  exact ⟨l, u, stored.signatureCount, hlu, hun, hf.asked, counter_of_get? hf.known, hm⟩

theorem Accepts.ne_of_ne {result result' : AssertionResult} (h : race.Accepts n i result)
    (h' : race.Accepts n j result') (hij : i ≠ j)
    (hid : result.credentialId = result'.credentialId) :
    result.signatureCount ≠ result'.signatureCount := by
  obtain ⟨_, _, _, _, _, _, _, hm⟩ := h.moves_result
  obtain ⟨_, _, _, _, _, _, _, hm'⟩ := h'.moves_result
  rw [hid] at hm
  exact hm.ne_of_ne hm' hij

/-- What is accepted of a response is determined by it, as far as it concerns the counter. -/
theorem Accepts.eq_of_response_eq {result result' : AssertionResult}
    (h : race.Accepts n i result) (h' : race.Accepts n j result')
    (hr : (race.calls i).response = (race.calls j).response) :
    result.credentialId = result'.credentialId ∧
      result.signatureCount = result'.signatureCount := by
  obtain ⟨_, _, stored, data, -, -, hf, -, rfl⟩ := h.moves
  obtain ⟨_, _, stored', data', -, -, hf', -, rfl⟩ := h'.moves
  obtain ⟨_, hp⟩ := hf.passes
  obtain ⟨_, hp'⟩ := hf'.passes
  have hdata : data = data' := by
    have hread := hp.data_read
    rw [hr, hp'.data_read] at hread
    exact (Except.ok.inj hread).symm
  refine ⟨?_, ?_⟩
  · show stored.credentialId = stored'.credentialId
    rw [hf.named, hf'.named, hr]
  · show data.counter = data'.counter
    rw [hdata]

/-- However authentications take turns in a repository in memory, the counters are kept. -/
theorem counters_kept (race : AssertionRace ι) : race.CountersKept where
  monotone m n id c hmn hc := counter_le hmn hc
  moved n i result h := h.moves_result
  increasing u v i j id old old' new new' h h' huv := h.lt_of_lt h' huv
  distinct n i j result result' hij h h' hid := h.ne_of_ne h' hij hid
  not_replayed n i j result result' hij hr h h' := by
    obtain ⟨hid, hcount⟩ := h.eq_of_response_eq h' hr
    exact h.ne_of_ne h' hij hid hcount
  greatest n id first hfirst := by
    obtain ⟨c, hc, hle⟩ := counter_le (Nat.zero_le n) hfirst
    refine ⟨c, hc, ?_, ?_⟩
    · rcases counter_origin hc with h₀ | haccepted
      · exact Or.inl (Option.some.inj (h₀.symm.trans hfirst))
      · exact Or.inr haccepted
    · rintro d (rfl | ⟨i, result, ha, rfl, rfl⟩)
      · exact hle
      · obtain ⟨_, u, _, -, hun, -, -, hm⟩ := ha.moves_result
        exact counter_le_of_le hun hm.counter_succ hc
  overtaken l m u i id key old new hl hu hlm hmu hchanged :=
    conflict_of_changed hl hu hlm hmu hchanged

end AssertionRace

end Passkey
