import Passkey.Digest.Sha2

/-!
# HMAC over SHA-256
-/

namespace Passkey

/-- The key of a keyed digest, brought to one block of 64 bytes. -/
def hmacBlock (key : Bytes) : Bytes :=
  let short := if key.length ≤ 64 then key else sha256 key
  short ++ List.replicate (64 - short.length) 0

/-- The keyed digest of a message. -/
def hmacSha256 (key message : Bytes) : Bytes :=
  let block := hmacBlock key
  sha256 (block.map (· ^^^ 0x5c) ++ sha256 (block.map (· ^^^ 0x36) ++ message))

end Passkey
