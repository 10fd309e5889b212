import Passkey.Curve.Edwards
import Passkey.Digest.Sha2

/-!
# Ed25519

Verification without cofactor: the first half of a signature must be the encoding of the
recomputed point, octet for octet.
-/

namespace Passkey.Ed25519

/-- Whether the bytes are a signature over the message by the key with this encoding and point. -/
def verify (key : Bytes) (point : Edwards.Point) (message signature : Bytes) : Bool :=
  let commitment := signature.take 32
  let s := Edwards.littleEndian (signature.drop 32)
  let k := Edwards.littleEndian (sha512 (commitment ++ key ++ message)) % Edwards.order
  let recomputed :=
    Edwards.add (Edwards.mul s Edwards.base) (Edwards.mul k (Edwards.neg point))
  signature.length == 64 && s < Edwards.order && Edwards.encode recomputed == commitment

end Passkey.Ed25519
