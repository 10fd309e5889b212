import Passkey.Proofs.Attestation.RootSet
import Passkey.Proofs.RelyingParty.RegistrationAcceptance

/-!
# What a root is registered for

Roots are registered one after the other, each for a model or for a format. A look-up finds those
for the model and then those for the format, in the order of their registration, and nothing else
counts when a chain is judged. The model numbered zero stands for no model at all: a registration
never asks for its roots, so none that was put there is used (`roots_stay_in_scope`).
-/

namespace Passkey

open X509 (Certificate)

variable {α β σ : Type}

/-! ### Registering roots -/

/-- A root goes to the end of the list under its key, and no other list changes. -/
theorem RootTable.under_push [DecidableEq α] {key k : α} {root : Certificate} (t : RootTable α) :
    (t.push k root).under key = t.under key ++ if k = key then [root] else [] := by
  rw [under, push, Table.get?_alter]
  by_cases hk : key = k
  · simp [hk, under]
  · simp [hk, Ne.symm hk, under]

/-- What a root is registered for. -/
inductive RootScope where
  | model (aaguid : Aaguid)
  | format (format : AttestationFormat)
  deriving DecidableEq, Repr

/-- The scope takes in the statements of a format by the authenticators of a model, if one is
reported. -/
def RootScope.Covers (aaguid : Option Aaguid) (format : AttestationFormat) : RootScope → Prop
  | .model a => aaguid = some a
  | .format f => format = f

/-- A root and what it is registered for. -/
structure RootRegistration where
  scope : RootScope
  root : Certificate
  deriving Repr

/-- The roots that these calls register for a scope, in order. -/
def registeredFor (scope : RootScope) (calls : List RootRegistration) : List Certificate :=
  (calls.filter (·.scope = scope)).map (·.root)

namespace StaticTrustRoots

/-- Trusts one more root. -/
def register (r : StaticTrustRoots) (call : RootRegistration) : StaticTrustRoots :=
  match call.scope with
  | .model aaguid => r.withAaguidRoot aaguid call.root
  | .format format => r.withFormatRoot format call.root

/-- The roots that these calls build up. -/
def build (calls : List RootRegistration) : StaticTrustRoots := calls.foldl register empty

/-- The roots that are kept for a scope. -/
def keptFor (r : StaticTrustRoots) : RootScope → List Certificate
  | .model aaguid => r.byAaguid.under aaguid
  | .format format => r.byFormat.under format

variable {r : StaticTrustRoots} {scope : RootScope} {call : RootRegistration}
  {calls others : List RootRegistration} {aaguid : Option Aaguid} {format : AttestationFormat}
  {root : Certificate}

theorem roots_some {a : Aaguid} :
    r.roots (some a) format = r.keptFor (.model a) ++ r.keptFor (.format format) := rfl

theorem roots_none : r.roots none format = r.keptFor (.format format) := List.nil_append _

/-- A registration puts its root after those that are kept for its scope, and no other scope
changes. -/
theorem keptFor_register :
    (r.register call).keptFor scope =
      r.keptFor scope ++ if call.scope = scope then [call.root] else [] := by
  obtain ⟨target, root⟩ := call
  cases target with
  | model a =>
    cases scope with
    | model b =>
      simp only [RootScope.model.injEq]
      exact r.byAaguid.under_push
    | format f => exact (List.append_nil _).symm
  | format g =>
    cases scope with
    | model b => exact (List.append_nil _).symm
    | format f =>
      simp only [RootScope.format.injEq]
      exact r.byFormat.under_push

theorem registeredFor_cons :
    registeredFor scope (call :: calls) =
      (if call.scope = scope then [call.root] else []) ++ registeredFor scope calls := by
  unfold registeredFor
  by_cases h : call.scope = scope
  · simp [h]
  · simp [h]

/-- By induction on the calls, whatever was registered before them. -/
theorem keptFor_foldl_register :
    (calls.foldl register r).keptFor scope = r.keptFor scope ++ registeredFor scope calls := by
  induction calls generalizing r with
  | nil => exact (List.append_nil _).symm
  | cons call calls ih =>
    rw [List.foldl_cons, ih, keptFor_register, List.append_assoc, registeredFor_cons]

theorem keptFor_build : (build calls).keptFor scope = registeredFor scope calls := by
  have hempty : empty.keptFor scope = [] := by cases scope <;> rfl
  rw [build, keptFor_foldl_register, hempty, List.nil_append]

/-- A look-up finds the roots whose scope covers the statement, and no others. -/
theorem mem_roots_build :
    root ∈ (build calls).roots aaguid format ↔
      ∃ call ∈ calls, call.scope.Covers aaguid format ∧ call.root = root := by
  have hmem (scope : RootScope) :
      root ∈ registeredFor scope calls ↔ ∃ call ∈ calls, call.scope = scope ∧ call.root = root := by
    simp [registeredFor, and_assoc]
  have hcovers (call : RootRegistration) : call.scope.Covers aaguid format ↔
      (∃ a, aaguid = some a ∧ call.scope = .model a) ∨ call.scope = .format format := by
    cases call.scope <;> simp [RootScope.Covers, eq_comm]
  cases aaguid with
  | none => simp [roots_none, keptFor_build, hmem, hcovers]
  | some a =>
    simp only [roots_some, keptFor_build, List.mem_append, hmem, hcovers, Option.some.injEq,
      exists_eq_left', ← exists_or, or_and_right, and_or_left]

/-- A verdict is judged by the set of the roots that count for its statement. -/
theorem evaluateTrust_build_congr
    (h : ∀ call : RootRegistration, call.scope.Covers aaguid format →
      (call ∈ calls ↔ call ∈ others)) (verdict : StatementVerdict) (now : Instant) :
    evaluateTrust verdict format aaguid (some (build calls).resolver) now =
      evaluateTrust verdict format aaguid (some (build others).resolver) now := by
  have hroots (root : Certificate) :
      root ∈ (build calls).roots aaguid format ↔ root ∈ (build others).roots aaguid format := by
    rw [mem_roots_build, mem_roots_build]
    refine exists_congr fun call => ?_
    rw [and_left_comm, and_left_comm (a := call ∈ others)]
    exact and_congr_right fun hcovers => and_congr_left fun _ => h call hcovers
  simp only [evaluateTrust, resolver, StatementVerdict.withRoots, validateChain_congr hroots]

/-- Calls that register nothing for a scope can be left out. -/
theorem registeredFor_filter {keep : RootRegistration → Bool}
    (h : ∀ call : RootRegistration, call.scope = scope → keep call = true) :
    registeredFor scope (calls.filter keep) = registeredFor scope calls := by
  unfold registeredFor
  rw [List.filter_filter]
  congr 1
  refine List.filter_congr fun call _ => ?_
  by_cases hs : call.scope = scope
  · simp [hs, h call hs]
  · simp [hs]

/-- The roots that are found do not change with calls for other models and other formats. -/
theorem roots_build_congr {keep : RootRegistration → Bool}
    (hkeep : ∀ call : RootRegistration, call.scope.Covers aaguid format → keep call = true)
    (h : calls.filter keep = others.filter keep) :
    (build calls).roots aaguid format = (build others).roots aaguid format := by
  have hscope (scope : RootScope) (hs : scope.Covers aaguid format) :
      (build calls).keptFor scope = (build others).keptFor scope := by
    have hall (call : RootRegistration) (hc : call.scope = scope) : keep call = true :=
      hkeep call (hc ▸ hs)
    rw [keptFor_build, keptFor_build, ← registeredFor_filter hall, h, registeredFor_filter hall]
  cases aaguid with
  | none => rw [roots_none, roots_none, hscope (.format format) rfl]
  | some a => rw [roots_some, roots_some, hscope (.model a) rfl, hscope (.format format) rfl]

end StaticTrustRoots

/-! ### The questions of a ceremony -/

namespace Ceremony

/-- Whatever the answers are, all questions are of this kind. -/
def AsksOnly (kind : Query → Prop) : Ceremony α → Prop
  | .done _ => True
  | .ask query next => kind query ∧ ∀ answer, (next answer).AsksOnly kind

variable {kind : Query → Prop} {c : Ceremony α}

theorem asksOnly_attempt {x : Except CeremonyError β} {next : β → Ceremony α}
    (h : ∀ b, (next b).AsksOnly kind) : (attempt x next).AsksOnly kind := by
  cases x with
  | error e => exact trivial
  | ok b => exact h b

theorem AsksOnly.of_mem_exchanges (h : c.AsksOnly kind) (surroundings : Surroundings σ) (s : σ) :
    ∀ x ∈ (c.run surroundings s).exchanges, kind x.1 := by
  induction c generalizing s with
  | done result => exact fun x hx => absurd hx List.not_mem_nil
  | ask query next ih =>
    intro x hx
    rw [run_ask, List.mem_cons] at hx
    rcases hx with rfl | hx
    · exact h.1
    · exact ih _ (h.2 _) _ x hx

/-- A ceremony cannot tell surroundings apart that answer all of its questions alike. -/
theorem AsksOnly.run_congr (h : c.AsksOnly kind) {surroundings others : Surroundings σ}
    (hsame : ∀ s query, kind query → surroundings s query = others s query) (s : σ) :
    c.run surroundings s = c.run others s := by
  induction c generalizing s with
  | done result => rfl
  | ask query next ih => rw [run_ask, run_ask, hsame s query h.1, ih _ (h.2 _)]

end Ceremony

/-- The question is not for the roots of the model that stands for none. -/
def Query.SparesZero : Query → Prop
  | .trustRoots aaguid _ => aaguid ≠ some Aaguid.zero
  | .lookup _ | .isRegistered _ | .updateCounter _ _ _ => True

namespace Registration

theorem Checked.model_ne_zero (c : Checked) : c.model ≠ some Aaguid.zero := by
  unfold Checked.model
  split
  · exact nofun
  · rename_i hne
    exact fun h => hne (Option.some.inj h)

variable {c : Checked} {now : Instant} {config : RelyingPartyConfig} {user : UserIdentity}
  {kind : Query → Prop}

theorem asksOnly_evaluate {next : AttestationVerdict → Ceremony α}
    (hroots : kind (.trustRoots c.model c.format)) (hnext : ∀ v, (next v).AsksOnly kind) :
    (evaluate c now next).AsksOnly kind := by
  unfold evaluate
  split
  · refine ⟨hroots, fun answer => ?_⟩
    match answer with
    | none => exact hnext _
    | some (.ok roots) => exact hnext _
    | some (.error reason) => exact trivial
  · exact hnext _

theorem asksOnly_register {attestation : AttestationVerdict}
    (h : kind (.isRegistered c.attested.credentialId)) :
    (c.register config user attestation).AsksOnly kind := by
  unfold Checked.register
  split
  · exact trivial
  · refine ⟨h, fun answer => ?_⟩
    match answer with
    | .error reason => exact trivial
    | .ok true => exact trivial
    | .ok false => exact trivial

theorem asksOnly_finishRegistration (config : RelyingPartyConfig) (options : CreationOptions)
    (response : CreatedCredential) (tokenBindingId : Option String) (now : Instant) :
    (finishRegistration config options response tokenBindingId now).AsksOnly Query.SparesZero :=
  Ceremony.asksOnly_attempt fun c =>
    asksOnly_evaluate c.model_ne_zero fun _ => asksOnly_register trivial

end Registration

/-- The surroundings, with these roots as the answer to whoever asks for roots. -/
def Surroundings.trusting (surroundings : Surroundings σ) (roots : StaticTrustRoots) :
    Surroundings σ
  | s, .trustRoots aaguid format => (some (roots.resolver aaguid format), s)
  | s, query => surroundings s query

/-- Calls for the model that stands for none make no difference to the other questions. -/
theorem Surroundings.trusting_congr {calls others : List RootRegistration}
    (h : calls.filter (·.scope ≠ .model Aaguid.zero) = others.filter (·.scope ≠ .model Aaguid.zero))
    (surroundings : Surroundings σ) (s : σ) (query : Query) (hquery : query.SparesZero) :
    surroundings.trusting (.build calls) s query =
      surroundings.trusting (.build others) s query := by
  cases query with
  | trustRoots aaguid format =>
    have hroots : (StaticTrustRoots.build calls).roots aaguid format =
        (StaticTrustRoots.build others).roots aaguid format := by
      refine StaticTrustRoots.roots_build_congr (fun call hc => ?_) h
      rw [decide_eq_true_iff]
      intro hs
      rw [hs] at hc
      exact hquery hc
    simp only [trusting, StaticTrustRoots.resolver, hroots]
  | lookup id => rfl
  | isRegistered id => rfl
  | updateCounter id expected new => rfl

/-- A look-up answers the roots that were registered for the model and then those for the format, in
the order of the calls. How trust in a verdict is decided depends on no other calls, nor on the order
of any. A registration asks nothing about the model that stands for none, and takes the same course
whatever roots were registered for it. -/
theorem roots_stay_in_scope :
    (∀ (calls : List RootRegistration) (format : AttestationFormat),
      (∀ aaguid, (StaticTrustRoots.build calls).resolver (some aaguid) format =
        .ok (registeredFor (.model aaguid) calls ++ registeredFor (.format format) calls)) ∧
      (StaticTrustRoots.build calls).resolver none format =
        .ok (registeredFor (.format format) calls)) ∧
    (∀ (verdict : StatementVerdict) (format : AttestationFormat) (aaguid : Option Aaguid)
        (now : Instant) (calls others : List RootRegistration),
      (∀ call, call.scope.Covers aaguid format → (call ∈ calls ↔ call ∈ others)) →
        evaluateTrust verdict format aaguid (some (StaticTrustRoots.build calls).resolver) now =
          evaluateTrust verdict format aaguid (some (StaticTrustRoots.build others).resolver) now) ∧
    ∀ (config : RelyingPartyConfig) (options : CreationOptions) (response : CreatedCredential)
        (tokenBindingId : Option String) (now : Instant) (surroundings : Surroundings σ) (s : σ),
      let ceremony := finishRegistration config options response tokenBindingId now
      (∀ x ∈ (ceremony.run surroundings s).exchanges, ∀ format,
        x.1 ≠ .trustRoots (some Aaguid.zero) format) ∧
      ∀ calls others : List RootRegistration,
        calls.filter (·.scope ≠ .model Aaguid.zero) =
            others.filter (·.scope ≠ .model Aaguid.zero) →
          ceremony.run (surroundings.trusting (.build calls)) s =
            ceremony.run (surroundings.trusting (.build others)) s := by
  refine ⟨fun calls format => ⟨fun aaguid => ?_, ?_⟩, ?_, ?_⟩
  · rw [StaticTrustRoots.resolver, StaticTrustRoots.roots_some, StaticTrustRoots.keptFor_build,
      StaticTrustRoots.keptFor_build]
  · rw [StaticTrustRoots.resolver, StaticTrustRoots.roots_none, StaticTrustRoots.keptFor_build]
  · intro verdict format aaguid now calls others h
    exact StaticTrustRoots.evaluateTrust_build_congr h verdict now
  · intro config options response tokenBindingId now surroundings s ceremony
    have hasks : ceremony.AsksOnly Query.SparesZero :=
      Registration.asksOnly_finishRegistration config options response tokenBindingId now
    refine ⟨fun x hx format heq => ?_, fun calls others h => ?_⟩
    · have hspares := hasks.of_mem_exchanges surroundings s x hx
      rw [heq] at hspares
      exact hspares rfl
    · exact hasks.run_congr (Surroundings.trusting_congr h surroundings) s

end Passkey
