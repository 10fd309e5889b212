/-!
# Attestation formats
-/

namespace Passkey

/-- A format of attestation statements. -/
inductive AttestationFormat where
  | none
  | packed
  | fidoU2f
  | androidKey
  | androidSafetyNet
  | tpm
  /-- A format that is not understood, by its identifier. -/
  | unknown (name : String)
  deriving DecidableEq, Repr

namespace AttestationFormat

/-- The registered identifier. -/
def name : AttestationFormat → String
  | .none => "none"
  | .packed => "packed"
  | .fidoU2f => "fido-u2f"
  | .androidKey => "android-key"
  | .androidSafetyNet => "android-safetynet"
  | .tpm => "tpm"
  | .unknown name => name

/-- The formats that are understood. -/
def known : List AttestationFormat :=
  [.none, .packed, .fidoU2f, .androidKey, .androidSafetyNet, .tpm]

/-- The format with this identifier. -/
def ofName (name : String) : AttestationFormat :=
  (known.find? (·.name = name)).getD (.unknown name)

/-- Whether the format is understood. -/
def isKnown : AttestationFormat → Bool
  | .unknown _ => false
  | _ => true

@[simp] theorem name_ofName (name : String) : (ofName name).name = name := by
  unfold ofName
  cases h : known.find? (·.name = name) with
  | none => rfl
  | some f => simpa using List.find?_some h

end AttestationFormat

end Passkey
