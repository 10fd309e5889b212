import Passkey.Json.Record
import Passkey.Text.Base64

/-!
# A client in software

Collects client data the way a browser does.
-/

namespace Passkey

/-- The JSON text of client data, its members in the order of their names. -/
def clientDataJson (type : String) (challenge : Bytes) (origin : String) : Bytes :=
  (Json.ofMembers
    [("challenge", some (.ofText (Base64.encodeUrl challenge))),
      ("crossOrigin", some (.bool false)),
      ("origin", some (.ofText origin)),
      ("type", some (.ofText type))]).write

end Passkey
