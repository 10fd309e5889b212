import Passkey.Attestation.Trust
import Passkey.Proofs.Fallible

/-!
# Which attestations are trustworthy

`LeadsToRoot` says what makes a chain lead to a trusted root, whatever the order in which that is
checked. The issuer of the certificate at index `i` has `i` authorities below it, and a root that
issued the last certificate has all but the leaf. An attestation is trustworthy exactly if it rests
on such a chain, and cannot be evaluated exactly if the roots for it cannot be looked up.
-/

namespace Passkey

theorem Instant.le_iff {a b : Instant} :
    a.le b = true ↔
      a.seconds < b.seconds ∨ a.seconds = b.seconds ∧ a.nanoseconds ≤ b.nanoseconds := by
  simp only [Instant.le, Bool.or_eq_true, Bool.and_eq_true, decide_eq_true_eq]

/-! ### Certificates -/

namespace X509.Certificate

variable {c issuer : Certificate} {now : Instant}

/-- The certificate is valid at a moment, which may be the very end of its validity. -/
structure ValidAt (c : Certificate) (now : Instant) : Prop where
  begun : c.content.notBefore ≤ now.seconds
  not_over : now.seconds < c.content.notAfter ∨
    now.seconds = c.content.notAfter ∧ now.nanoseconds = 0

/-- The certificate names its issuer, whose key verifies the signature over the octets that were
received. -/
structure IssuedBy (c issuer : Certificate) : Prop where
  named : c.content.issuer = issuer.content.subject
  signed : ∃ algorithm key, signatureAlgorithm? c.signatureAlgorithm.algorithm = some algorithm ∧
    issuer.publicKey = .ok key ∧ c.signature.unused = 0 ∧
    verifySigned key algorithm c.signedOctets c.signature.octets = .ok true

/-- The certificate may issue others with this many authorities between it and the leaf: its basic
constraints can be read and make it an authority, and a limit among them is high enough. -/
def MayIssue (c : Certificate) (below : Nat) : Prop :=
  ∃ constraints, c.basicConstraints = .ok (some constraints) ∧ constraints.isCa = true ∧
    ∀ limit, constraints.pathLength = some limit → below ≤ limit

theorem isValidAt_iff : c.isValidAt now = true ↔ c.ValidAt now := by
  simp only [isValidAt, Bool.and_eq_true, Instant.le_iff, Instant.ofSeconds]
  constructor
  · rintro ⟨hb, ha⟩
    exact ⟨by omega, by omega⟩
  · rintro ⟨hb, ha⟩
    exact ⟨by omega, by omega⟩

theorem isIssuedBy_iff : c.isIssuedBy issuer = true ↔ c.IssuedBy issuer := by
  have hverified (result : Except SignatureError Bool) :
      result.toOption = some true ↔ result = .ok true := by
    cases result <;> simp [Except.toOption]
  have hsigned : c.isSignedBy issuer = true ↔
      ∃ algorithm key, signatureAlgorithm? c.signatureAlgorithm.algorithm = some algorithm ∧
        issuer.publicKey = .ok key ∧ c.signature.unused = 0 ∧
        verifySigned key algorithm c.signedOctets c.signature.octets = .ok true := by
    unfold isSignedBy
    cases signatureAlgorithm? c.signatureAlgorithm.algorithm with
    | none => simp
    | some algorithm =>
      cases issuer.publicKey with
      | error defect => simp
      | ok key => simp [hverified]
  simp only [isIssuedBy, Bool.and_eq_true, decide_eq_true_eq, hsigned]
  constructor
  · rintro ⟨hn, hs⟩
    exact ⟨hn, hs⟩
  · rintro ⟨hn, hs⟩
    exact ⟨hn, hs⟩

theorem checkIssuer_eq_ok {below : Nat} : checkIssuer c below = .ok () ↔ c.MayIssue below := by
  simp only [checkIssuer, isCa, pathLength, bind_eq_ok, mapError_eq_ok, map_eq_ok, throw_eq_error,
    error_bind, refuse_eq_ok, MayIssue]
  cases c.basicConstraints with
  | error defect => simp
  | ok constraints? =>
    cases constraints? with
    | none => simp
    | some constraints =>
      cases hl : constraints.pathLength with
      | none => simp [hl, pure_eq_ok]
      | some limit => simp [hl, refuse_eq_ok, pure_eq_ok]

end X509.Certificate

/-! ### Chains -/

open X509 (Certificate)

variable {chain roots : List Certificate} {now : Instant}

/-- A chain that leads to one of the roots: all of its certificates are valid, each is issued by the
next, every issuer may issue that many levels, and the last certificate is a root or is issued by a
valid root that may issue this many levels. -/
structure LeadsToRoot (chain roots : List Certificate) (now : Instant) : Prop where
  nonempty : chain ≠ []
  valid : ∀ c ∈ chain, c.ValidAt now
  linked : ∀ i c issuer, chain[i]? = some c → chain[i + 1]? = some issuer →
    c.IssuedBy issuer ∧ issuer.MayIssue i
  anchored : ∃ root ∈ roots, root.der = (chain.getLast nonempty).der ∨
    root.ValidAt now ∧ root.MayIssue (chain.length - 1) ∧
      (chain.getLast nonempty).IssuedBy root

theorem checkValidity_eq_ok {depth : Nat} :
    checkValidity now depth chain = .ok () ↔ ∀ c ∈ chain, c.ValidAt now := by
  induction chain generalizing depth with
  | nil => simp [checkValidity]
  | cons c rest ih =>
    simp only [checkValidity, require_eq_ok, ih, Certificate.isValidAt_iff, List.forall_mem_cons]

theorem checkLinks_cons_eq_ok {depth : Nat} {c issuer : Certificate} {rest : List Certificate} :
    checkLinks depth (c :: issuer :: rest) = .ok () ↔
      (c.IssuedBy issuer ∧ issuer.MayIssue depth) ∧
        checkLinks (depth + 1) (issuer :: rest) = .ok () := by
  simp only [checkLinks, throw_eq_error, error_bind, refuse_eq_ok, bind_eq_ok, exists_unit,
    mapError_eq_ok, Certificate.checkIssuer_eq_ok, Bool.not_eq_true', Bool.not_eq_false,
    Certificate.isIssuedBy_iff, and_assoc]

/-- The depth at which the checks of a chain begin is what its issuers have below them besides. -/
theorem checkLinks_eq_ok {depth : Nat} :
    checkLinks depth chain = .ok () ↔
      ∀ i c issuer, chain[i]? = some c → chain[i + 1]? = some issuer →
        c.IssuedBy issuer ∧ issuer.MayIssue (depth + i) := by
  induction chain generalizing depth with
  | nil => simp [checkLinks]
  | cons c rest ih =>
    cases rest with
    | nil => simp [checkLinks]
    | cons issuer rest =>
      rw [checkLinks_cons_eq_ok, ih]
      constructor
      · rintro ⟨hfirst, hrest⟩ i d e hd he
        cases i with
        | zero =>
          obtain rfl : c = d := Option.some.inj hd
          obtain rfl : issuer = e := Option.some.inj he
          exact hfirst
        | succ i =>
          obtain ⟨hissued, hmay⟩ := hrest i d e hd he
          exact ⟨hissued, by rwa [← Nat.add_right_comm] at hmay⟩
      · intro h
        refine ⟨h 0 c issuer rfl rfl, fun i d e hd he => ?_⟩
        obtain ⟨hissued, hmay⟩ := h (i + 1) d e hd he
        exact ⟨hissued, by rwa [Nat.add_right_comm]⟩

theorem anchors_iff {last root : Certificate} {below : Nat} :
    anchors now last below root = true ↔
      root.der = last.der ∨ root.ValidAt now ∧ root.MayIssue below ∧ last.IssuedBy root := by
  have hok : (checkIssuer root below).isOk = true ↔ root.MayIssue below := by
    rw [← Certificate.checkIssuer_eq_ok]
    cases checkIssuer root below <;> simp [Except.isOk, Except.toBool]
  simp only [anchors, Bool.or_eq_true, Bool.and_eq_true, decide_eq_true_eq, hok,
    Certificate.isValidAt_iff, Certificate.isIssuedBy_iff, and_assoc]

/-- A chain is validated exactly if it leads to one of the roots. -/
theorem validateChain_eq_ok :
    validateChain chain roots now = .ok () ↔ LeadsToRoot chain roots now := by
  by_cases hne : chain = []
  · subst hne
    constructor
    · intro h
      cases h
    · intro h
      exact absurd rfl h.nonempty
  · simp only [validateChain, List.getLast?_eq_some_getLast hne, throw_eq_error, error_bind,
      refuse_eq_ok, bind_eq_ok, exists_unit, pure_eq_ok, checkValidity_eq_ok, checkLinks_eq_ok,
      Nat.zero_add, Bool.not_eq_true', Bool.not_eq_false, List.any_eq_true, anchors_iff, and_true]
    constructor
    · rintro ⟨-, hv, hl, ha⟩
      exact ⟨hne, hv, hl, ha⟩
    · intro h
      obtain ⟨root, hr, -⟩ := h.anchored
      exact ⟨by simp [List.ne_nil_of_mem hr], h.valid, h.linked, h.anchored⟩

/-! ### Verdicts -/

variable {verdict : StatementVerdict} {format : AttestationFormat} {aaguid : Option Aaguid}
  {resolver : Option TrustRootResolver}

/-- What is said about a verdict besides whether it is trustworthy. There is one warning if nothing
can be said about the format, or if certificates are given that are not trusted. -/
structure AttestationVerdict.Reports (v : AttestationVerdict) (verdict : StatementVerdict)
    (format : AttestationFormat) : Prop where
  format_eq : v.format = format
  type_eq : v.type = verdict.type
  trustPath_eq : v.trustPath = verdict.trustPath
  warnings_length : v.warnings.length =
    if verdict.type = .uncertain ∨ verdict.type = .basic ∧ v.trustworthy = false then 1 else 0

/-- The resolver is asked for the roots of a verdict, and this is its answer. It is asked only if
the verdict rests on certificates. -/
def Consulted (verdict : StatementVerdict) (format : AttestationFormat) (aaguid : Option Aaguid)
    (resolver : Option TrustRootResolver) (answer : Except String (List Certificate)) : Prop :=
  verdict.type = .basic ∧ ∃ resolve, resolver = some resolve ∧ resolve aaguid format = answer

theorem Consulted.unique {answer answer' : Except String (List Certificate)}
    (h : Consulted verdict format aaguid resolver answer)
    (h' : Consulted verdict format aaguid resolver answer') : answer = answer' := by
  obtain ⟨-, resolve, hr, rfl⟩ := h
  obtain ⟨-, resolve', hr', rfl⟩ := h'
  rw [Option.some.inj (hr.symm.trans hr')]

theorem trustworthy_withoutRoots : (verdict.withoutRoots format).trustworthy = false := by
  unfold StatementVerdict.withoutRoots
  split <;> rfl

theorem reports_withoutRoots : (verdict.withoutRoots format).Reports verdict format := by
  have hlength : (verdict.withoutRoots format).warnings.length =
      if verdict.type = .uncertain ∨ verdict.type = .basic then 1 else 0 := by
    unfold StatementVerdict.withoutRoots
    cases verdict.type <;> rfl
  refine ⟨?_, ?_, ?_, by simp [hlength, trustworthy_withoutRoots]⟩
  all_goals
    unfold StatementVerdict.withoutRoots
    split <;> rfl

theorem trustworthy_withRoots :
    (verdict.withRoots format roots now).trustworthy = true ↔
      LeadsToRoot verdict.trustPath roots now := by
  rw [← validateChain_eq_ok, StatementVerdict.withRoots]
  cases validateChain verdict.trustPath roots now with
  | error defect => simp [StatementVerdict.untrusted]
  | ok _ => simp

theorem reports_withRoots (h : verdict.type = .basic) :
    (verdict.withRoots format roots now).Reports verdict format := by
  unfold StatementVerdict.withRoots
  cases validateChain verdict.trustPath roots now with
  | error defect => exact ⟨rfl, rfl, rfl, by simp [h, StatementVerdict.untrusted]⟩
  | ok _ => exact ⟨rfl, rfl, rfl, by simp [h]⟩

/-- The resolver is consulted and fails, or is not consulted at all, or gives roots under which the
chain is validated. -/
theorem evaluateTrust_cases (verdict : StatementVerdict) (format : AttestationFormat)
    (aaguid : Option Aaguid) (resolver : Option TrustRootResolver) (now : Instant) :
    (∃ reason, Consulted verdict format aaguid resolver (.error reason) ∧
        evaluateTrust verdict format aaguid resolver now = .error (.trustResolution reason)) ∨
      ((∀ answer, ¬ Consulted verdict format aaguid resolver answer) ∧
        evaluateTrust verdict format aaguid resolver now = .ok (verdict.withoutRoots format)) ∨
      ∃ roots, Consulted verdict format aaguid resolver (.ok roots) ∧
        evaluateTrust verdict format aaguid resolver now =
          .ok (verdict.withRoots format roots now) := by
  have hneeds : verdict.needsRoots = true ↔ verdict.type = .basic := by
    simp [StatementVerdict.needsRoots]
  cases resolver with
  | none => exact Or.inr (Or.inl ⟨fun _ ⟨_, _, h, _⟩ => (nomatch h), rfl⟩)
  | some resolve =>
    by_cases hn : verdict.needsRoots = true
    · have hasked (answer) (ha : resolve aaguid format = answer) :
          Consulted verdict format aaguid (some resolve) answer := ⟨hneeds.1 hn, resolve, rfl, ha⟩
      cases ha : resolve aaguid format with
      | error reason =>
        exact Or.inl ⟨reason, hasked _ ha, by simp only [evaluateTrust, if_pos hn, ha]⟩
      | ok roots =>
        exact Or.inr (Or.inr ⟨roots, hasked _ ha, by simp only [evaluateTrust, if_pos hn, ha]⟩)
    · refine Or.inr (Or.inl ⟨fun _ h => hn (hneeds.2 h.1), ?_⟩)
      simp only [evaluateTrust, if_neg hn]

/-- A verdict is trustworthy exactly if it rests on certificates, a resolver is there and gives
roots, and the chain leads to one of them. Evaluating fails exactly if the resolver is consulted and
fails; otherwise nothing is said but what there is to report. -/
theorem trust_decided (verdict : StatementVerdict) (format : AttestationFormat)
    (aaguid : Option Aaguid) (resolver : Option TrustRootResolver) (now : Instant) :
    ((∃ v, evaluateTrust verdict format aaguid resolver now = .ok v ∧ v.trustworthy = true) ↔
      ∃ roots, Consulted verdict format aaguid resolver (.ok roots) ∧
        LeadsToRoot verdict.trustPath roots now) ∧
    (∀ e, evaluateTrust verdict format aaguid resolver now = .error e ↔
      ∃ reason, Consulted verdict format aaguid resolver (.error reason) ∧
        e = .trustResolution reason) ∧
    ∀ v, evaluateTrust verdict format aaguid resolver now = .ok v → v.Reports verdict format := by
  rcases evaluateTrust_cases verdict format aaguid resolver now with
    ⟨reason, hc, he⟩ | ⟨hnever, he⟩ | ⟨roots, hc, he⟩
  · rw [he]
    refine ⟨⟨fun ⟨_, h, _⟩ => (nomatch h), fun ⟨roots, h, _⟩ => (nomatch hc.unique h)⟩, ?_,
      fun _ h => (nomatch h)⟩
    intro e
    constructor
    · intro h
      exact ⟨reason, hc, (Except.error.inj h).symm⟩
    · rintro ⟨reason', h, rfl⟩
      rw [Except.error.inj (hc.unique h)]
  · rw [he]
    refine ⟨⟨?_, fun ⟨roots, h, _⟩ => absurd h (hnever _)⟩, ?_, ?_⟩
    · rintro ⟨v, hv, ht⟩
      obtain rfl := Except.ok.inj hv
      rw [trustworthy_withoutRoots] at ht
      cases ht
    · intro e
      exact ⟨fun h => (nomatch h), fun ⟨reason, h, _⟩ => absurd h (hnever _)⟩
    · intro v hv
      obtain rfl := Except.ok.inj hv
      exact reports_withoutRoots
  · rw [he]
    refine ⟨⟨?_, ?_⟩, ?_, ?_⟩
    · rintro ⟨v, hv, ht⟩
      obtain rfl := Except.ok.inj hv
      exact ⟨roots, hc, trustworthy_withRoots.1 ht⟩
    · rintro ⟨roots', h, hl⟩
      obtain rfl : roots = roots' := Except.ok.inj (hc.unique h)
      exact ⟨_, rfl, trustworthy_withRoots.2 hl⟩
    · intro e
      exact ⟨fun h => (nomatch h), fun ⟨reason, h, _⟩ => (nomatch hc.unique h)⟩
    · intro v hv
      obtain rfl := Except.ok.inj hv
      exact reports_withRoots hc.1

end Passkey
