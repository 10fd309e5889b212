import Passkey.Digest.Sha2

/-!
# Hash functions for signatures
-/

namespace Passkey

/-- The hash functions that signatures are made over. -/
inductive Hash where
  | sha256
  | sha384
  | sha512
  deriving DecidableEq, Repr

namespace Hash

/-- The digest of a message. -/
def digest : Hash → Bytes → Bytes
  | .sha256 => Passkey.sha256
  | .sha384 => Passkey.sha384
  | .sha512 => Passkey.sha512

/-- Bytes in a digest. -/
def size : Hash → Nat
  | .sha256 => 32
  | .sha384 => 48
  | .sha512 => 64

@[simp] theorem length_digest (h : Hash) (message : Bytes) :
    (h.digest message).length = h.size := by
  cases h <;> simp [digest, size]

end Hash

end Passkey
