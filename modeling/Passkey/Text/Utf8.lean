import Passkey.Bytes

/-!
# UTF-8

Text as bytes and back. Decoding is strict: a byte string is accepted only if it is the encoding
of some text, so `decode_encode` and `encode_of_decode` together make decoding the exact inverse.
-/

namespace Passkey.Utf8

/-- The UTF-8 bytes of a text. -/
def encode (text : String) : Bytes := text.toByteArray.data.toList

/-- The text that the bytes encode, if they are well-formed UTF-8. -/
def decode? (bs : Bytes) : Option String := String.fromUTF8? ⟨bs.toArray⟩

theorem decode_encode (text : String) : decode? (encode text) = some text := by
  have h : (⟨(encode text).toArray⟩ : ByteArray) = text.toByteArray := by
    simp [encode]
  simp [decode?, h, String.fromUTF8?, String.fromUTF8, text.isValidUTF8]

theorem encode_of_decode {bs : Bytes} {text : String} (h : decode? bs = some text) :
    encode text = bs := by
  unfold decode? String.fromUTF8? at h
  split at h
  · cases h; simp [encode, String.fromUTF8]
  · cases h

theorem encode_append (a b : String) : encode (a ++ b) = encode a ++ encode b := by
  simp [encode]

theorem encode_inj {a b : String} : encode a = encode b ↔ a = b := by
  refine ⟨fun h => ?_, congrArg encode⟩
  rw [← Option.some_inj, ← decode_encode a, h, decode_encode b]

theorem decode?_eq_some {bs : Bytes} {text : String} :
    decode? bs = some text ↔ bs = encode text := by
  refine ⟨fun h => (encode_of_decode h).symm, ?_⟩
  rintro rfl
  exact decode_encode text

end Passkey.Utf8
