import Mathlib.Data.List.Basic
import Passkey.Proofs.Authenticator.KeyBytes

/-!
# Where a key ends

A key is read from bytes that hold nothing else, or off the front of bytes that go on. Both readings
agree on which bytes are the key: those bytes alone decide what is read off the front, and neither
reading accepts a part of them.
-/

namespace Passkey.CoseKey

variable {bs cut tail : Bytes} {key : CoseKey} {n : Nat}

theorem item_of_decode (h : decode bs = .ok key) : ∃ value, Cbor.decode bs = .ok value := by
  unfold decode at h
  cases hitem : Cbor.decode bs with
  | error defect =>
    rw [hitem] at h
    cases h
  | ok value => exact ⟨value, rfl⟩

theorem length_pos_of_decode (h : decode bs = .ok key) : 0 < bs.length := by
  obtain ⟨value, hitem⟩ := item_of_decode h
  exact Cbor.length_pos_of_decode hitem

/-- The bytes hold nothing but the key exactly if the key at their front takes all of them. -/
theorem decode_eq_ok_iff : decode bs = .ok key ↔ decodePrefix bs = .ok (key, bs.length) := by
  rw [decodePrefix_eq_ok]
  constructor
  · intro h
    exact ⟨bs, [], (List.append_nil bs).symm, rfl, h⟩
  · intro h
    obtain ⟨taken, rest, rfl, hlength, hkey⟩ := h
    have hrest : rest = [] := by
      rw [List.length_append] at hlength
      exact List.length_eq_zero_iff.1 (by omega)
    rwa [hrest, List.append_nil]

/-- Where the item under a key cannot be read, both readings say so. -/
theorem unreadable_of_item (h : Cbor.decodePrefix? bs = none) :
    decode bs = .error (.malformed (.item .unreadable)) ∧
      decodePrefix bs = .error (.malformed (.item .unreadable)) := by
  have hitem : Cbor.decode bs = .error .unreadable := Cbor.decode_eq_unreadable.2 h
  constructor
  · rw [decode, hitem]
  · rw [decodePrefix, h]

/-- A key that is cut short is unreadable, whether or not bytes may follow it. -/
theorem unreadable_of_cut (h : decode (cut ++ tail) = .ok key) (htail : tail ≠ []) :
    decode cut = .error (.malformed (.item .unreadable)) ∧
      decodePrefix cut = .error (.malformed (.item .unreadable)) := by
  obtain ⟨value, hitem⟩ := item_of_decode h
  exact unreadable_of_item (Cbor.decodePrefix?_eq_none_of_cut hitem htail)

/-- Once there is an item at the front, what follows it has no part in what is read there. -/
theorem decodePrefix_append (hitem : Cbor.decodePrefix? bs ≠ none) (tail : Bytes) :
    decodePrefix (bs ++ tail) = decodePrefix bs := by
  obtain ⟨⟨value, n⟩, hfound⟩ := Option.ne_none_iff_exists'.1 hitem
  rw [decodePrefix, decodePrefix, Cbor.decodePrefix?_append hfound tail, hfound]

/-- A key spans the bytes exactly if all of them are taken when it is read off their front. What is
read off the front takes some of the bytes, is read alike off whatever begins with those, and is not
read off less. -/
theorem key_extent (bs : Bytes) (key : CoseKey) :
    (decode bs = .ok key ↔ decodePrefix bs = .ok (key, bs.length)) ∧
    ∀ n, decodePrefix bs = .ok (key, n) →
      (0 < n ∧ n ≤ bs.length) ∧
      (∀ other, bs.take n <+: other → decodePrefix other = .ok (key, n)) ∧
      ∀ cut, cut <+: bs.take n → cut ≠ bs.take n →
        decode cut = .error (.malformed (.item .unreadable)) ∧
          decodePrefix cut = .error (.malformed (.item .unreadable)) := by
  refine ⟨decode_eq_ok_iff, ?_⟩
  intro n h
  obtain ⟨taken, rest, rfl, rfl, hkey⟩ := decodePrefix_eq_ok.1 h
  rw [List.take_left]
  refine ⟨⟨length_pos_of_decode hkey, by simp⟩, ?_, ?_⟩
  · intro other hother
    obtain ⟨tail, rfl⟩ := hother
    exact decodePrefix_eq_ok.2 ⟨taken, tail, rfl, rfl, hkey⟩
  · intro cut hcut hne
    obtain ⟨tail, htail, rfl⟩ := Reading.exists_tail_of_cut hcut hne
    exact unreadable_of_cut hkey htail

/-- A short RSA key. -/
def shortKey : CoseKey := ⟨.rs256, .rsa [0x0f] [0x03]⟩

/-- Before one more byte, a short key takes all of its own bytes, and its first byte is no key. -/
theorem shortKey_extent :
    decodePrefix (shortKey.encode ++ [0x00]) = .ok (shortKey, shortKey.encode.length) ∧
      decode (shortKey.encode.take 1) = .error (.malformed (.item .unreadable)) := by
  have hread : decodePrefix (shortKey.encode ++ [0x00]) =
      .ok (shortKey, shortKey.encode.length) := by decide +kernel
  have hcut : shortKey.encode.take 1 <+: (shortKey.encode ++ [0x00]).take shortKey.encode.length := by
    decide +kernel
  have hne : shortKey.encode.take 1 ≠ (shortKey.encode ++ [0x00]).take shortKey.encode.length := by
    decide +kernel
  obtain ⟨-, hextent⟩ := key_extent (shortKey.encode ++ [0x00]) shortKey
  obtain ⟨-, -, hshort⟩ := hextent _ hread
  exact ⟨hread, (hshort _ hcut hne).1⟩

end Passkey.CoseKey
