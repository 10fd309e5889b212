import Passkey.Attestation.Roots
import Passkey.Attestation.Statement
import Passkey.Text.Quoted

/-!
# Trust in an attestation

A statement that rests on certificates is trustworthy if its chain leads to a trusted root: every
certificate is valid now, each is issued by the next, every issuer may issue that many levels, and
the last certificate is a root or is issued by one. Why a chain is not trusted is a warning, not an
error; only a failing look-up of the roots is one.
-/

namespace Passkey

open X509 (Certificate CertificateDefect)

/-- Why a certificate may not issue the ones below it. -/
inductive IssuerDefect where
  | unreadable (defect : CertificateDefect)
  | notAnAuthority
  | pathTooLong (limit count : Nat)
  deriving DecidableEq, Repr

/-- Why a chain does not lead to a trusted root. Depth is counted from the leaf. -/
inductive ChainDefect where
  | empty
  | noRoots
  | notValid (depth : Nat)
  | notIssued (depth : Nat)
  | issuer (depth : Nat) (defect : IssuerDefect)
  | noTrustedRoot
  deriving DecidableEq, Repr

/-- What is to be said about a verdict. -/
inductive TrustWarning where
  | unknownFormat (name : String)
  | noResolver
  | unverifiedChain (defect : ChainDefect)
  deriving DecidableEq, Repr

/-- The wording of a defect. -/
def IssuerDefect.message : IssuerDefect → String
  | .unreadable defect => defect.errorMessage
  | .notAnAuthority => "is not a certificate authority"
  | .pathTooLong limit count =>
    s!"allows {limit} intermediate certificates below it but has {count}"

/-- The wording of a defect. -/
def ChainDefect.message : ChainDefect → String
  | .empty => "empty trust path"
  | .noRoots => "no trust roots for this authenticator"
  | .notValid depth => s!"certificate at depth {depth} is outside its validity period"
  | .notIssued depth => s!"certificate at depth {depth} is not issued by its successor"
  | .issuer depth defect => s!"certificate at depth {depth} {defect.message}"
  | .noTrustedRoot => "chain does not lead to a trusted root"

/-- The wording of a warning. -/
def TrustWarning.message : TrustWarning → String
  | .unknownFormat name => s!"unknown attestation format {Text.quoted name}"
  | .noResolver => "unverified chain: no trust root resolver configured"
  | .unverifiedChain defect => s!"unverified chain: {defect.message}"

/-! ### Chains -/

/-- Checks that a certificate may issue with this many authorities between it and the leaf. -/
def checkIssuer (issuer : Certificate) (below : Nat) : Except IssuerDefect Unit := do
  if !(← issuer.isCa.mapError .unreadable) then throw .notAnAuthority
  match ← issuer.pathLength.mapError .unreadable with
  | some limit => if limit < below then throw (.pathTooLong limit below)
  | none => return ()

/-- Checks that the certificates from a depth on are valid now. -/
def checkValidity (now : Instant) : (depth : Nat) → List Certificate → Except ChainDefect Unit
  | _, [] => .ok ()
  | depth, c :: rest =>
    if c.isValidAt now then checkValidity now (depth + 1) rest else .error (.notValid depth)

/-- Checks that each of the certificates from a depth on is issued by the next, which may do so. -/
def checkLinks : (depth : Nat) → List Certificate → Except ChainDefect Unit
  | depth, c :: issuer :: rest => do
    if !c.isIssuedBy issuer then throw (.notIssued depth)
    (checkIssuer issuer depth).mapError (.issuer (depth + 1))
    checkLinks (depth + 1) (issuer :: rest)
  | _, _ => .ok ()

/-- Whether the last certificate of a chain is this root or is issued by it. -/
def anchors (now : Instant) (last : Certificate) (below : Nat) (root : Certificate) : Bool :=
  root.der = last.der
    || (root.isValidAt now && (checkIssuer root below).isOk && last.isIssuedBy root)

/-- Checks that a chain leads to one of the roots. -/
def validateChain (chain roots : List Certificate) (now : Instant) : Except ChainDefect Unit :=
  match chain.getLast? with
  | none => .error .empty
  | some last => do
    if roots.isEmpty then throw .noRoots
    checkValidity now 0 chain
    checkLinks 0 chain
    if !roots.any (anchors now last (chain.length - 1)) then throw .noTrustedRoot

/-! ### Verdicts -/

/-- What is known about an attestation after its trust was evaluated. -/
structure AttestationVerdict where
  format : AttestationFormat
  type : AttestationType
  trustPath : List Certificate
  trustworthy : Bool
  warnings : List TrustWarning
  deriving Repr

namespace StatementVerdict

/-- Whether the verdict rests on certificates, so that roots are needed. -/
def needsRoots (v : StatementVerdict) : Bool := v.type = .basic

/-- The verdict without trust in it. -/
def untrusted (v : StatementVerdict) (format : AttestationFormat) (warnings : List TrustWarning) :
    AttestationVerdict :=
  ⟨format, v.type, v.trustPath, false, warnings⟩

/-- The verdict where no roots were looked up. -/
def withoutRoots (v : StatementVerdict) (format : AttestationFormat) : AttestationVerdict :=
  match v.type with
  | .none | .self => v.untrusted format []
  | .uncertain => v.untrusted format [.unknownFormat format.name]
  | .basic => v.untrusted format [.noResolver]

/-- The verdict on a chain under these roots. -/
def withRoots (v : StatementVerdict) (format : AttestationFormat) (roots : List Certificate)
    (now : Instant) : AttestationVerdict :=
  match validateChain v.trustPath roots now with
  | .ok () => ⟨format, v.type, v.trustPath, true, []⟩
  | .error defect => v.untrusted format [.unverifiedChain defect]

end StatementVerdict

/-- Decides whether a verdict is backed by a trusted root. The resolver is asked only about
verdicts that rest on certificates. -/
def evaluateTrust (verdict : StatementVerdict) (format : AttestationFormat)
    (aaguid : Option Aaguid) (resolver : Option TrustRootResolver) (now : Instant) :
    Except AttestationError AttestationVerdict :=
  match resolver with
  | some resolve =>
    if verdict.needsRoots then
      match resolve aaguid format with
      | .ok roots => .ok (verdict.withRoots format roots now)
      | .error reason => .error (.trustResolution reason)
    else .ok (verdict.withoutRoots format)
  | none => .ok (verdict.withoutRoots format)

end Passkey
