import Passkey.Digest.Sha2

/-!
# SHA-1

Used for key identifiers in certificates only, never for signatures.
-/

namespace Passkey.Sha1

/-- The five working words. -/
structure State where
  a : UInt32
  b : UInt32
  c : UInt32
  d : UInt32
  e : UInt32

/-- Rotation to the left. -/
@[inline] def rotate (x : UInt32) (n : UInt32) : UInt32 := (x <<< n) ||| (x >>> (32 - n))

/-- The words of the message schedule; the list given holds the next sixteen of them. -/
def schedule : (rounds : Nat) → List UInt32 → List UInt32
  | 0, _ => []
  | n + 1, window =>
    let next := rotate (window.getD 13 0 ^^^ window.getD 8 0 ^^^ window.getD 2 0
      ^^^ window.getD 0 0) 1
    window.getD 0 0 :: schedule n (window.drop 1 ++ [next])

/-- The mixing function and constant of a round. -/
def mixing (i : Nat) (s : State) : UInt32 × UInt32 :=
  if i < 20 then ((s.b &&& s.c) ||| (~~~s.b &&& s.d), 0x5a827999)
  else if i < 40 then (s.b ^^^ s.c ^^^ s.d, 0x6ed9eba1)
  else if i < 60 then ((s.b &&& s.c) ||| (s.b &&& s.d) ||| (s.c &&& s.d), 0x8f1bbcdc)
  else (s.b ^^^ s.c ^^^ s.d, 0xca62c1d6)

/-- One round with its number and schedule word. -/
def round (s : State) (i : Nat) (w : UInt32) : State :=
  let (f, k) := mixing i s
  ⟨rotate s.a 5 + f + s.e + k + w, s.a, rotate s.b 30, s.c, s.d⟩

/-- All rounds of one block, added to the state that they started from. -/
def compress (s : State) (block : List UInt32) : State :=
  let t := (List.range 80 |>.zip (schedule 80 block)).foldl (fun t (i, w) => round t i w) s
  ⟨s.a + t.a, s.b + t.b, s.c + t.c, s.d + t.d, s.e + t.e⟩

/-- The state that the digest starts from. -/
def initial : State := ⟨0x67452301, 0xefcdab89, 0x98badcfe, 0x10325476, 0xc3d2e1f0⟩

end Passkey.Sha1

namespace Passkey

/-- The 20-byte SHA-1 digest. -/
def sha1 (message : Bytes) : Bytes :=
  let blocks := Sha2.chunks 64 (Sha2.pad 64 8 message)
  let words (block : Bytes) := (Sha2.chunks 4 block).map (UInt32.ofNat ∘ Bytes.toNat)
  let s := blocks.foldl (fun s block => Sha1.compress s (words block)) Sha1.initial
  [s.a, s.b, s.c, s.d, s.e].flatMap fun w => Bytes.ofNat 4 w.toNat

@[simp] theorem length_sha1 (message : Bytes) : (sha1 message).length = 20 := by
  simp [sha1]

end Passkey
