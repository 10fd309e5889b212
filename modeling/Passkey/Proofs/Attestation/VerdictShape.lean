import Passkey.Attestation.Verify
import Passkey.Proofs.Attestation.TrustPath

/-!
# What a verdict on a statement rests on

A verdict rests on certificates exactly if it is of the basic type, and then on those that the
statement brings, all of them and in their order (`Shape`). A packed statement without any
certificates is the only one that the credential's own key may vouch for. So the chain of a verdict
is never found empty when its trust is evaluated.
-/

namespace Passkey

open X509 (Certificate)

/-! ### Certificates in a statement -/

namespace X509.Certificate

theorem der_of_decode {der : Bytes} {c : Certificate} (h : decode der = .ok c) : c.der = der := by
  simp only [decode] at h
  split at h
  · next found hfound =>
    cases h
    simp only [ofDer?, Option.bind_eq_bind, Option.bind_eq_some_iff] at hfound
    obtain ⟨_, -, _, -, _, -, _, -, hmembers⟩ := hfound
    split at hmembers
    · simp only [Option.bind_eq_some_iff, Option.pure_def, Option.some.injEq] at hmembers
      obtain ⟨_, -, _, -, _, -, rfl⟩ := hmembers
      rfl
    · cases hmembers
  · cases h

/-- The certificate is what its octets spell. -/
def IsRead (c : Certificate) : Prop := decode c.der = .ok c

theorem decode_eq_ok {der : Bytes} {c : Certificate} :
    decode der = .ok c ↔ der = c.der ∧ c.IsRead := by
  constructor
  · intro h
    obtain rfl := der_of_decode h
    exact ⟨rfl, h⟩
  · rintro ⟨rfl, h⟩
    exact h

end X509.Certificate

namespace AttestationStatement

variable {s : AttestationStatement} {path : List Certificate}

theorem certificateOf_eq_ok (item : Cbor.Value) (c : Certificate) :
    certificateOf item = .ok c ↔ item = .bytes c.der ∧ c.IsRead := by
  unfold certificateOf
  split
  · rw [mapError_eq_ok, Certificate.decode_eq_ok, Cbor.Value.bytes.injEq]
  · next hnot =>
    constructor
    · intro h
      cases h
    · rintro ⟨rfl, -⟩
      exact absurd rfl (hnot _)

/-- The member `x5c` is an array of the octets of these certificates, in this order, and of nothing
else. -/
structure Brings (s : AttestationStatement) (path : List Certificate) : Prop where
  nonempty : path ≠ []
  member : s.get? "x5c" = some (.array (path.map fun c => .bytes c.der))
  read : ∀ c ∈ path, c.IsRead

theorem get?_eq_none {name : String} :
    s.get? name = none ↔ ∀ e ∈ s.entries, e.1 ≠ .text name := by
  have hkey (key : Cbor.Value) : key.isText name = true ↔ key = .text name := by
    cases key <;> simp [Cbor.Value.isText]
  simp [get?, Cbor.Entries.atText?, hkey]

theorem certificates?_eq_none : s.certificates? = .ok none ↔ s.get? "x5c" = none := by
  unfold certificates?
  split <;> simp_all [map_eq_ok]

theorem certificates?_eq_some : s.certificates? = .ok (some path) ↔ s.Brings path := by
  have hitems (items : List Cbor.Value) (found : List Certificate) :
      items.mapM certificateOf = .ok found ↔
        items = found.map (fun c => .bytes c.der) ∧ ∀ c ∈ found, c.IsRead := by
    simpa using mapM_eq_ok certificateOf_eq_ok
  unfold certificates?
  split
  · next hnone =>
    constructor
    · intro h
      cases h
    · intro h
      rw [h.member] at hnone
      cases hnone
  · next hempty =>
    constructor
    · intro h
      cases h
    · intro h
      rw [h.member] at hempty
      exact absurd (by simpa using hempty) h.nonempty
  · next items hne hsome =>
    simp only [map_eq_ok, hitems, Option.some.injEq]
    constructor
    · rintro ⟨_, ⟨rfl, hread⟩, rfl⟩
      exact ⟨by rintro rfl; exact hne rfl, hsome, hread⟩
    · intro h
      rw [h.member, Option.some.injEq, Cbor.Value.array.injEq] at hsome
      exact ⟨path, ⟨hsome.symm, h.read⟩, rfl⟩
  · next hother _ _ =>
    constructor
    · intro h
      cases h
    · intro h
      exact absurd h.member (by simp_all)

theorem certificates_eq_ok : s.certificates = .ok path ↔ s.Brings path := by
  rw [certificates, bind_eq_ok, ← certificates?_eq_some]
  constructor
  · rintro ⟨_ | _, hpath, h⟩
    · cases h
    · cases h
      exact hpath
  · intro h
    exact ⟨some path, h, rfl⟩

end AttestationStatement

/-! ### Certificates in a token -/

namespace Attestation

variable {s : AttestationStatement} {context : AttestationContext} {v : StatementVerdict}
  {path : List Certificate}

theorem tokenCertificate_eq_ok (text : String) (c : Certificate) :
    tokenCertificate text = .ok c ↔ Base64.decodeStandard? text = some c.der ∧ c.IsRead := by
  unfold tokenCertificate
  cases Base64.decodeStandard? text with
  | none => simp
  | some der => simp [mapError_eq_ok, Certificate.decode_eq_ok]

/-- The header of the statement's token lists the octets of these certificates as text, in this
order, and nothing else. -/
structure TokenBrings (s : AttestationStatement) (path : List Certificate) : Prop where
  nonempty : path ≠ []
  header : ∃ token header, tokenOf s = .ok token ∧
    readSegment TokenHeader.ofJson? token.header = .ok header ∧
    header.certificates.map Base64.decodeStandard? = path.map fun c => some c.der
  read : ∀ c ∈ path, c.IsRead

/-! ### Each format -/

/-- The formats whose statements have their certificates in a member of their own. -/
def memberFormats : List AttestationFormat := [.packed, .fidoU2f, .androidKey, .tpm]

/-- How a verdict on a statement comes about. -/
inductive Arises (s : AttestationStatement) : AttestationFormat → StatementVerdict → Prop where
  | none : Arises s .none .none
  | uncertain (name : String) : Arises s (.unknown name) .uncertain
  | self (h : s.get? "x5c" = .none) : Arises s .packed .selfAttested
  | member {format : AttestationFormat} {path : List Certificate} (hformat : format ∈ memberFormats)
    (h : s.Brings path) : Arises s format (.basic path)
  | token {path : List Certificate} (h : TokenBrings s path) :
    Arises s .androidSafetyNet (.basic path)

theorem verdict_of_verifySelf {algorithm : CoseAlgorithm} {signature : Bytes}
    (h : verifySelf algorithm signature context = .ok v) : v = .selfAttested := by
  simp only [verifySelf, bind_eq_ok, throw_eq_error, error_bind, refuse_eq_ok] at h
  obtain ⟨_, -, -, good, -, h⟩ := h
  cases good with
  | false => cases h
  | true => exact pure_eq_ok.1 h

theorem arises_of_verifyPacked (h : verifyPacked s context = .ok v) : Arises s .packed v := by
  simp only [verifyPacked, bind_eq_ok, throw_eq_error, error_bind, refuse_eq_ok] at h
  obtain ⟨_, -, _, -, -, path?, hpath, h⟩ := h
  cases path? with
  | none =>
    obtain rfl := verdict_of_verifySelf h
    exact .self (AttestationStatement.certificates?_eq_none.1 hpath)
  | some path =>
    simp only [bind_eq_ok, pure_eq_ok] at h
    obtain ⟨_, -, _, -, _, -, rfl⟩ := h
    exact .member (by decide) (AttestationStatement.certificates?_eq_some.1 hpath)

theorem arises_of_verifyU2f (h : verifyU2f s context = .ok v) : Arises s .fidoU2f v := by
  simp only [verifyU2f, bind_eq_ok] at h
  obtain ⟨_, -, path, hpath, _, -, _, -, h⟩ := h
  split at h
  · obtain ⟨_, -, h⟩ := bind_eq_ok.1 h
    obtain rfl := pure_eq_ok.1 h
    exact .member (by decide) (AttestationStatement.certificates_eq_ok.1 hpath)
  · cases h

theorem arises_of_verifyAndroidKey (h : verifyAndroidKey s context = .ok v) :
    Arises s .androidKey v := by
  simp only [verifyAndroidKey, bind_eq_ok, throw_eq_error, error_bind, refuse_eq_ok, pure_eq_ok]
    at h
  obtain ⟨_, -, _, -, path, hpath, _, -, _, -, _, -, _, -, -, _, -, rfl⟩ := h
  exact .member (by decide) (AttestationStatement.certificates_eq_ok.1 hpath)

theorem arises_of_verifyTpm (h : verifyTpm s context = .ok v) : Arises s .tpm v := by
  simp only [verifyTpm, bind_eq_ok, throw_eq_error, error_bind, refuse_eq_ok, pure_eq_ok] at h
  obtain ⟨-, _, -, _, -, path, hpath, h⟩ := h
  obtain ⟨_, -, _, -, _, -, _, -, -, _, -, _, -, _, -, _, -, _, -, _, -, rfl⟩ := h
  exact .member (by decide) (AttestationStatement.certificates_eq_ok.1 hpath)

theorem arises_of_verifySafetyNet (h : verifySafetyNet s context = .ok v) :
    Arises s .androidSafetyNet v := by
  simp only [verifySafetyNet, bind_eq_ok, throw_eq_error, error_bind, refuse_eq_ok] at h
  obtain ⟨token, htoken, header, hheader, -, path, hpath, leaf, hleaf, h⟩ := h
  obtain ⟨hcertificates, hread⟩ := (mapM_eq_ok tokenCertificate_eq_ok).1 hpath
  have hne : path ≠ [] := by
    rintro rfl
    cases hleaf
  have hbrings : TokenBrings s path :=
    ⟨hne, ⟨token, header, htoken, hheader, hcertificates⟩, hread⟩
  split at h
  · cases h
  · simp only [bind_eq_ok, refuse_eq_ok, pure_eq_ok] at h
    obtain ⟨_, -, -, _, -, _, -, _, -, rfl⟩ := h
    exact .token hbrings

theorem arises_of_verifyStatement {format : AttestationFormat}
    (h : verifyStatement format s context = .ok v) : Arises s format v := by
  cases format with
  | none =>
    cases h
    exact .none
  | packed => exact arises_of_verifyPacked h
  | fidoU2f => exact arises_of_verifyU2f h
  | androidKey => exact arises_of_verifyAndroidKey h
  | androidSafetyNet => exact arises_of_verifySafetyNet h
  | tpm => exact arises_of_verifyTpm h
  | unknown name =>
    cases h
    exact .uncertain name

end Attestation

/-! ### Empty chains -/

section EmptyChains

variable {chain roots : List Certificate} {now : Instant}

theorem errsWith_checkValidity (depth : Nat) :
    ErrsWith (· ≠ .empty) (checkValidity now depth chain) := by
  induction chain generalizing depth with
  | nil => exact errsWith_ok ()
  | cons c rest ih => exact errsWith_ite (ih _) (errsWith_error (by simp))

theorem errsWith_checkLinks (depth : Nat) : ErrsWith (· ≠ .empty) (checkLinks depth chain) := by
  induction chain generalizing depth with
  | nil => exact errsWith_ok ()
  | cons c rest ih =>
    cases rest with
    | nil => exact errsWith_ok ()
    | cons issuer rest =>
      refine errsWith_refuse (by simp) ?_
      exact (errsWith_mapError (by simp)).bind fun _ => ih _

/-- Only a chain without any certificate is found to be empty. -/
theorem validateChain_eq_empty : validateChain chain roots now = .error .empty ↔ chain = [] := by
  by_cases hne : chain = []
  · subst hne
    exact ⟨fun _ => rfl, fun _ => rfl⟩
  · have herrs : ErrsWith (· ≠ .empty) (validateChain chain roots now) := by
      simp only [validateChain, List.getLast?_eq_some_getLast hne]
      refine errsWith_refuse (by simp) ?_
      refine (errsWith_checkValidity 0).bind fun _ => (errsWith_checkLinks 0).bind fun _ => ?_
      exact errsWith_refuse (by simp) (errsWith_ok ())
    exact ⟨fun h => absurd rfl (herrs _ h), fun h => absurd h hne⟩

/-- Evaluating the trust in a verdict finds its chain empty only if it should rest on certificates
and has none. -/
theorem empty_of_warned {verdict : StatementVerdict} {format : AttestationFormat}
    {aaguid : Option Aaguid} {resolver : Option TrustRootResolver} {v : AttestationVerdict}
    (h : evaluateTrust verdict format aaguid resolver now = .ok v)
    (hwarned : .unverifiedChain .empty ∈ v.warnings) :
    verdict.type = .basic ∧ verdict.trustPath = [] := by
  rcases evaluateTrust_cases verdict format aaguid resolver now with
    ⟨reason, -, he⟩ | ⟨-, he⟩ | ⟨roots, hconsulted, he⟩
  · rw [he] at h
    cases h
  · rw [he] at h
    cases h
    unfold StatementVerdict.withoutRoots at hwarned
    split at hwarned <;> simp [StatementVerdict.untrusted] at hwarned
  · rw [he] at h
    cases h
    refine ⟨hconsulted.1, ?_⟩
    unfold StatementVerdict.withRoots at hwarned
    split at hwarned
    · simp at hwarned
    · next defect hdefect =>
      obtain rfl : ChainDefect.empty = defect := by
        simpa [StatementVerdict.untrusted] using hwarned
      exact validateChain_eq_empty.1 hdefect

end EmptyChains

/-! ### Verdicts -/

/-- What a verdict on a statement of some format can be. It rests on certificates exactly if there
are any, and these are all that the statement brings, in order; it is the empty or the uncertain one
exactly in the formats without a procedure; and the credential vouches for itself only in a packed
statement that has no entry `x5c` whatever. -/
structure StatementVerdict.Shape (v : StatementVerdict) (format : AttestationFormat)
    (s : AttestationStatement) : Prop where
  basic_iff : v.type = .basic ↔ v.trustPath ≠ []
  brought : v.type = .basic →
    if format = .androidSafetyNet then Attestation.TokenBrings s v.trustPath
    else s.Brings v.trustPath
  none_iff : v.type = .none ↔ format = .none
  uncertain_iff : v.type = .uncertain ↔ ∃ name, format = .unknown name
  self : v.type = .self → format = .packed ∧ ∀ e ∈ s.entries, e.1 ≠ .text "x5c"

theorem Attestation.Arises.shape {s : AttestationStatement} {format : AttestationFormat}
    {v : StatementVerdict} (h : Arises s format v) : v.Shape format s := by
  cases h with
  | none => constructor <;> simp [StatementVerdict.none]
  | uncertain name => constructor <;> simp [StatementVerdict.uncertain]
  | self h =>
    have hself : StatementVerdict.selfAttested.type = .self →
        AttestationFormat.packed = .packed ∧ ∀ e ∈ s.entries, e.1 ≠ .text "x5c" :=
      fun _ => ⟨rfl, AttestationStatement.get?_eq_none.1 h⟩
    exact ⟨by decide, by simp [StatementVerdict.selfAttested], by decide,
      by simp [StatementVerdict.selfAttested], hself⟩
  | member hformat h =>
    have hother : format ≠ .androidSafetyNet ∧ format ≠ .none ∧ ∀ name, format ≠ .unknown name := by
      simp only [memberFormats, List.mem_cons, List.not_mem_nil, or_false] at hformat
      rcases hformat with rfl | rfl | rfl | rfl <;> simp
    constructor <;> simp [StatementVerdict.basic, h.nonempty, h, hother]
  | token h => constructor <;> simp [StatementVerdict.basic, h.nonempty, h]

/-- Every verdict on a statement has its shape, and the formats without a procedure always have one.
When the trust in a verdict is evaluated, its chain is never found to be empty. -/
theorem verdict_shape (s : AttestationStatement) (context : AttestationContext) :
    Attestation.verifyStatement .none s context = .ok .none ∧
    (∀ name, Attestation.verifyStatement (.unknown name) s context = .ok .uncertain) ∧
    ∀ format v, Attestation.verifyStatement format s context = .ok v →
      v.Shape format s ∧
      ∀ evaluated aaguid resolver now verdict,
        evaluateTrust v evaluated aaguid resolver now = .ok verdict →
          .unverifiedChain .empty ∉ verdict.warnings := by
  refine ⟨rfl, fun _ => rfl, ?_⟩
  intro format v h
  have hshape : v.Shape format s := (Attestation.arises_of_verifyStatement h).shape
  refine ⟨hshape, ?_⟩
  intro evaluated aaguid resolver now verdict hverdict hwarned
  obtain ⟨hbasic, hempty⟩ := empty_of_warned hverdict hwarned
  exact hshape.basic_iff.1 hbasic hempty

end Passkey
