import Passkey.Attestation.Format
import Passkey.RelyingParty.Credential
import Passkey.RelyingParty.Error

/-!
# Ceremonies

To finish a ceremony the relying party has to ask its surroundings: the repository of credentials,
and whoever knows the trusted roots. A ceremony is the finite tree of these questions, each followed
by what happens upon each answer, so what it asks and in which order is part of its value. `run`
plays it against surroundings that answer one question at a time and may change with each answer;
several ceremonies may take turns.
-/

namespace Passkey

/-- A question of a ceremony. -/
inductive Query where
  /-- The credential with this identifier. -/
  | lookup (id : Bytes)
  /-- Whether any user has registered this identifier. -/
  | isRegistered (id : Bytes)
  /-- Replaces the signature counter of a credential if it is still the expected one, and tells
  whether it was. -/
  | updateCounter (id : Bytes) (expected new : UInt32)
  /-- The trusted roots for a model, where one is reported, and a format. -/
  | trustRoots (aaguid : Option Aaguid) (format : AttestationFormat)
  deriving DecidableEq, Repr

/-- The answers to a question. The repository, and whoever knows the roots, may fail with a reason;
there may be nobody who knows the roots. -/
abbrev Query.Answer : Query → Type
  | .lookup _ => Except String (Option RegisteredCredential)
  | .isRegistered _ => Except String Bool
  | .updateCounter _ _ _ => Except String Bool
  | .trustRoots _ _ => Option (Except String (List X509.Certificate))

/-- A ceremony with results of type `α`. -/
inductive Ceremony (α : Type) where
  | done (result : Except CeremonyError α)
  | ask (query : Query) (next : query.Answer → Ceremony α)

/-- Surroundings whose states are of type `σ`. -/
abbrev Surroundings (σ : Type) := σ → (query : Query) → query.Answer × σ

/-- A question and its answer. -/
abbrev Exchange := (query : Query) × query.Answer

/-- What comes of a ceremony. -/
structure Outcome (α σ : Type) where
  result : Except CeremonyError α
  /-- The questions that were asked, in order. -/
  exchanges : List Exchange
  /-- The surroundings afterwards. -/
  surroundings : σ

namespace Ceremony

variable {α β σ : Type}

/-- The ceremony that has failed. -/
def fail (e : CeremonyError) : Ceremony α := .done (.error e)

/-- Goes on with the result of a check, unless that failed. -/
def attempt (result : Except CeremonyError β) (next : β → Ceremony α) : Ceremony α :=
  match result with
  | .ok b => next b
  | .error e => fail e

/-- Plays a ceremony. -/
def run (surroundings : Surroundings σ) : Ceremony α → σ → Outcome α σ
  | .done result, s => ⟨result, [], s⟩
  | .ask query next, s =>
    let (answer, s) := surroundings s query
    let outcome := (next answer).run surroundings s
    { outcome with exchanges := ⟨query, answer⟩ :: outcome.exchanges }

@[simp] theorem attempt_ok (b : β) (next : β → Ceremony α) : attempt (.ok b) next = next b := rfl

@[simp] theorem attempt_error (e : CeremonyError) (next : β → Ceremony α) :
    attempt (.error e) next = fail e := rfl

@[simp] theorem run_done (surroundings : Surroundings σ) (result : Except CeremonyError α) (s : σ) :
    (done result).run surroundings s = ⟨result, [], s⟩ := rfl

@[simp] theorem run_fail (surroundings : Surroundings σ) (e : CeremonyError) (s : σ) :
    (fail e : Ceremony α).run surroundings s = ⟨.error e, [], s⟩ := rfl

@[simp] theorem run_ask (surroundings : Surroundings σ) (query : Query)
    (next : query.Answer → Ceremony α) (s : σ) :
    (ask query next).run surroundings s =
      let outcome := (next (surroundings s query).1).run surroundings (surroundings s query).2
      ⟨outcome.result, ⟨query, (surroundings s query).1⟩ :: outcome.exchanges,
        outcome.surroundings⟩ := rfl

end Ceremony

end Passkey
