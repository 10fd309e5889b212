import Mathlib.Tactic.SplitIfs
import Passkey.Proofs.Cbor.Locality
import Passkey.Theory.Radix

/-!
# Items are read as they were written

Every integer and every length is written in a head of at most nine bytes. `Value.Plain` gathers the
items that are built from integers of the format, strings, truth values, arrays and maps. They are
read back from what is written for them if containers do not nest too deep and the whole is not
longer than a head can say.
-/

namespace Passkey.Cbor

open Reading

/-! ### Heads -/

theorem reads_ofNat {width n : Nat} (h : n < 256 ^ width) :
    (ofConsumed (readNat? width)).Reads (Bytes.ofNat width n) n := by
  have htake := (reads_take (Bytes.ofNat width n)).map Bytes.toNat
  rw [Bytes.length_ofNat, Bytes.toNat_ofNat h] at htake
  rw [readNat?_eq]
  exact htake

theorem reads_head_cons {first : UInt8} {bs : Bytes} {head : Head}
    (h : (headAfter first).Reads bs head) : (of readHead?).Reads (first :: bs) head := by
  intro rest
  rw [List.cons_append, run_readHead?_cons]
  exact h rest

/-- The first byte of a head holds the major type and what is said about the argument. -/
theorem toNat_firstByte {major info : Nat} (hmajor : major < 8) (hinfo : info < 32) :
    (UInt8.ofNat (major * 32 + info)).toNat / 32 = major ∧
      (UInt8.ofNat (major * 32 + info)).toNat % 32 = info := by
  rw [UInt8.toNat_ofNat']
  omega

/-- A small argument is in the first byte. -/
theorem headAfter_small {major info : Nat} (hmajor : major < 8) (hinfo : info < 24) :
    headAfter (UInt8.ofNat (major * 32 + info)) = pure (.ofArgument major info) := by
  obtain ⟨hhigh, hlow⟩ := toNat_firstByte hmajor (Nat.lt_trans hinfo (by omega))
  simp only [headAfter, hhigh, hlow, hinfo, if_true]

theorem headAfter_ofNat {major info : Nat} (hmajor : major < 7) (hlarge : 24 ≤ info)
    (hinfo : info < 31) :
    headAfter (UInt8.ofNat (major * 32 + info)) = (do
      let width ← StateT.lift (argumentWidth? info)
      let n ← ofConsumed (readNat? width)
      return .ofArgument major n) := by
  obtain ⟨hhigh, hlow⟩ := toNat_firstByte (Nat.lt_succ_of_lt hmajor) (Nat.lt_succ_of_lt hinfo)
  have hsmall : ¬ info < 24 := by omega
  have hstop : info ≠ 31 := by omega
  have hfloat : major ≠ 7 := by omega
  simp only [headAfter, hhigh, hlow, hsmall, hstop, hfloat, if_false, false_and]

/-- An argument of its own bytes is read back. -/
theorem reads_argument {major info width n : Nat} (hmajor : major < 7) (hinfo : 24 ≤ info)
    (hwidth : argumentWidth? info = some width) (hn : n < 256 ^ width) :
    (of readHead?).Reads (UInt8.ofNat (major * 32 + info) :: Bytes.ofNat width n)
      (.ofArgument major n) := by
  have hlt : info < 31 := by
    unfold argumentWidth? at hwidth
    split at hwidth <;> first | omega | cases hwidth
  refine reads_head_cons ?_
  rw [headAfter_ofNat hmajor hinfo hlt, hwidth]
  exact (reads_ofNat hn).map _

/-- A head is read as it was written, whichever width the argument takes. -/
theorem reads_writeHead {major n : Nat} (hmajor : major < 7) (hn : n < 2 ^ 64) :
    (of readHead?).Reads (writeHead major n) (.ofArgument major n) := by
  unfold writeHead
  split
  · next hsmall =>
    refine reads_head_cons ?_
    rw [headAfter_small (Nat.lt_succ_of_lt hmajor) hsmall]
    exact reads_pure _
  · split
    · next h => exact reads_argument hmajor (by omega) rfl (by omega)
    · split
      · next h => exact reads_argument hmajor (by omega) rfl (by omega)
      · split
        · next h => exact reads_argument hmajor (by omega) rfl (by omega)
        · exact reads_argument hmajor (by omega) rfl (by omega)

/-! ### Strings and containers -/

theorem reads_string (kind : StringKind) (bs : Bytes) :
    (ofConsumed (readString? kind (some bs.length))).Reads bs [bs] := by
  rw [readString?_some]
  exact (reads_take bs).map _

section Containers

variable {α β : Type} {one : (input : Bytes) → Option (Parsed α input)} {value : β → α}
  {spell : β → Bytes}

/-- Things in a row are read if each of them is. -/
theorem reads_parts {parts : List β} (h : ∀ p ∈ parts, (of one).Reads (spell p) (value p)) :
    (ofConsumed (readMany? one parts.length)).Reads (parts.flatMap spell) (parts.map value) := by
  induction parts with
  | nil => exact reads_pure []
  | cons p parts ih =>
    rw [List.length_cons, readMany?_succ, List.flatMap_cons, List.map_cons]
    refine (h p List.mem_cons_self).bind ?_
    exact (ih fun q hq => h q (List.mem_cons_of_mem p hq)).map _

theorem reads_many {spell : α → Bytes} {xs : List α} (h : ∀ x ∈ xs, (of one).Reads (spell x) x) :
    (ofConsumed (readMany? one xs.length)).Reads (xs.flatMap spell) xs := by
  have hparts : (ofConsumed (readMany? one xs.length)).Reads (xs.flatMap spell) (xs.map id) :=
    reads_parts h
  rwa [List.map_id] at hparts

theorem reads_pair {bs cs : Bytes} {x y : α} (hx : (of one).Reads bs x)
    (hy : (of one).Reads cs y) : (of (readPair? one)).Reads (bs ++ cs) (x, y) := by
  rw [readPair?_eq]
  exact hx.bind (hy.map _)

end Containers

theorem writeItems_eq (items : List Value) : writeItems items = items.flatMap Value.write := by
  induction items with
  | nil => rfl
  | cons v vs ih => rw [writeItems, ih, List.flatMap_cons]

theorem writeEntries_eq (entries : List (Value × Value)) :
    writeEntries entries = entries.flatMap fun e => e.1.write ++ e.2.write := by
  induction entries with
  | nil => rfl
  | cons e es ih => rw [writeEntries, ih, List.flatMap_cons, writeEntry]

/-! ### Items -/

/-- Items that are read as they are written: integers of the format, strings, truth values, and at
most `depth` arrays and maps around one another. -/
inductive Value.Plain : Nat → Value → Prop where
  | int {depth : Nat} {n : Int} (least : -2 ^ 64 ≤ n) (greatest : n < 2 ^ 64) : Plain depth (.int n)
  | bytes {depth : Nat} (bs : Bytes) : Plain depth (.bytes bs)
  | text {depth : Nat} (s : String) : Plain depth (.text s)
  | bool {depth : Nat} (b : Bool) : Plain depth (.bool b)
  | null {depth : Nat} : Plain depth .null
  | array {depth : Nat} {items : List Value} (plain : ∀ v ∈ items, Plain depth v) :
    Plain (depth + 1) (.array items)
  | map {depth : Nat} {entries : List (Value × Value)} (plain_key : ∀ e ∈ entries, Plain depth e.1)
    (plain : ∀ e ∈ entries, Plain depth e.2) : Plain (depth + 1) (.map entries)

/-- Fewer containers around one another are no hindrance. -/
theorem Value.Plain.mono {m n : Nat} {v : Value} (h : v.Plain m) (hle : m ≤ n) : v.Plain n := by
  induction h generalizing n with
  | int least greatest => exact .int least greatest
  | bytes bs => exact .bytes bs
  | text s => exact .text s
  | bool b => exact .bool b
  | null => exact .null
  | array plain ih =>
    obtain ⟨n, rfl⟩ := Nat.exists_eq_add_one_of_ne_zero (Nat.ne_zero_of_lt hle)
    exact .array fun v hv => ih v hv (Nat.le_of_succ_le_succ hle)
  | map plain_key plain ih_key ih =>
    obtain ⟨n, rfl⟩ := Nat.exists_eq_add_one_of_ne_zero (Nat.ne_zero_of_lt hle)
    have hinner := Nat.le_of_succ_le_succ hle
    exact .map (fun e he => ih_key e he hinner) (fun e he => ih e he hinner)

theorem length_writeHead (major n : Nat) :
    0 < (writeHead major n).length ∧ (writeHead major n).length ≤ 9 := by
  unfold writeHead
  split_ifs <;> simp

/-- Every item takes at least one byte. -/
theorem Value.Plain.length_pos {depth : Nat} {v : Value} (h : v.Plain depth) :
    0 < v.write.length := by
  have hhead := fun major n => (length_writeHead major n).1
  cases h with
  | @int depth n =>
    cases n with
    | ofNat n => exact hhead 0 n
    | negSucc n => exact hhead 1 n
  | bytes bs =>
    rw [write, List.length_append]
    exact Nat.add_pos_left (hhead ..) _
  | text s =>
    rw [write, List.length_append]
    exact Nat.add_pos_left (hhead ..) _
  | bool b => cases b <;> simp [write]
  | null => simp [write]
  | array =>
    rw [write, List.length_append]
    exact Nat.add_pos_left (hhead ..) _
  | map =>
    rw [write, List.length_append]
    exact Nat.add_pos_left (hhead ..) _

section Lengths

variable {α : Type} {spell : α → Bytes} {xs : List α}

theorem length_le_flatMap (spell : α → Bytes) {x : α} (h : x ∈ xs) :
    (spell x).length ≤ (xs.flatMap spell).length := by
  rw [List.flatMap_def]
  exact (List.sublist_flatten_of_mem (List.mem_map_of_mem h)).length_le

theorem length_le_length_flatMap (h : ∀ x ∈ xs, 0 < (spell x).length) :
    xs.length ≤ (xs.flatMap spell).length := by
  induction xs with
  | nil => exact Nat.zero_le _
  | cons x xs ih =>
    obtain ⟨hx, hxs⟩ := List.forall_mem_cons.1 h
    have := ih hxs
    rw [List.flatMap_cons, List.length_append, List.length_cons]
    omega

theorem length_flatMap_le {n : Nat} (h : ∀ x ∈ xs, (spell x).length ≤ n) :
    (xs.flatMap spell).length ≤ xs.length * n := by
  induction xs with
  | nil => exact Nat.zero_le _
  | cons x xs ih =>
    obtain ⟨hx, hxs⟩ := List.forall_mem_cons.1 h
    have := ih hxs
    rw [List.flatMap_cons, List.length_append, List.length_cons, Nat.succ_mul]
    omega

end Lengths

theorem length_write_int (n : Int) : (Value.int n).write.length ≤ 9 := by
  cases n with
  | ofNat n => exact (length_writeHead 0 n).2
  | negSucc n => exact (length_writeHead 1 n).2

theorem length_write_bytes (bs : Bytes) : (Value.bytes bs).write.length ≤ 9 + bs.length := by
  have := (length_writeHead 2 bs.length).2
  rw [Value.write, List.length_append]
  omega

theorem length_write_map {entries : List (Value × Value)} {n : Nat}
    (h : ∀ e ∈ entries, (e.1.write ++ e.2.write).length ≤ n) :
    (Value.map entries).write.length ≤ 9 + entries.length * n := by
  have hhead := (length_writeHead 5 entries.length).2
  have hentries := length_flatMap_le h
  rw [Value.write, List.length_append, writeEntries_eq]
  omega

/-- An item is read by its head and then by what the head announces. -/
theorem reads_item {depth major n : Nat} {bs : Bytes} {v : Value} (hmajor : major < 7)
    (hn : n < 2 ^ 64) (h : (itemAfter depth (.ofArgument major n)).Reads bs v) :
    (of (readItem? depth)).Reads (writeHead major n ++ bs) v := by
  rw [readItem?_eq]
  exact (reads_writeHead hmajor hn).bind h

/-- An item of one byte. -/
theorem reads_simple {depth : Nat} (info : Nat) {v : Value} (hinfo : info < 24)
    (hv : simpleValue? info = some v) :
    (of (readItem? depth)).Reads [UInt8.ofNat (7 * 32 + info)] v := by
  have hhead : headAfter (UInt8.ofNat (7 * 32 + info)) = pure (.simple info) :=
    headAfter_small (by omega) hinfo
  rw [readItem?_eq]
  refine Reads.bind_nil (reads_head_cons (hhead ▸ reads_pure _)) ?_
  rw [itemAfter, hv]
  exact reads_pure v

theorem reads_int {depth : Nat} {n : Int} (least : -(2 ^ 64 : Int) ≤ n) (greatest : n < 2 ^ 64) :
    (of (readItem? depth)).Reads (Value.int n).write (.int n) := by
  cases n with
  | ofNat n =>
    have hn : n < 2 ^ 64 := by
      rw [Int.ofNat_eq_natCast] at greatest
      omega
    have hafter : itemAfter depth (.ofArgument 0 n) = pure (.int (.ofNat n)) := by
      simp [Head.ofArgument, itemAfter]
    have hread := reads_item (by omega) hn (hafter ▸ reads_pure _)
    rwa [List.append_nil] at hread
  | negSucc n =>
    have hn : n < 2 ^ 64 := by omega
    have hvalue : Int.negSucc n = -1 - n := by omega
    have hafter : itemAfter depth (.ofArgument 1 n) = pure (.int (.negSucc n)) := by
      simp [Head.ofArgument, itemAfter, hvalue]
    have hread := reads_item (by omega) hn (hafter ▸ reads_pure _)
    rwa [List.append_nil] at hread

theorem reads_bytes {depth : Nat} {bs : Bytes} (hlength : bs.length < 2 ^ 64) :
    (of (readItem? depth)).Reads (Value.bytes bs).write (.bytes bs) := by
  refine reads_item (by omega) hlength ?_
  simp only [Head.ofArgument, itemAfter]
  refine (reads_string .bytes bs).bind_nil ?_
  simpa using reads_pure (Value.bytes bs)

theorem reads_text {depth : Nat} {s : String} (hlength : (Utf8.encode s).length < 2 ^ 64) :
    (of (readItem? depth)).Reads (Value.text s).write (.text s) := by
  refine reads_item (by omega) hlength ?_
  simp only [Head.ofArgument, itemAfter]
  refine (reads_string .text (Utf8.encode s)).bind_nil ?_
  have htexts : [Utf8.encode s].mapM Utf8.decode? = some [s] := by simp [Utf8.decode_encode]
  rw [htexts]
  refine Reads.bind_nil (a := [s]) (reads_pure [s]) ?_
  simpa using reads_pure (Value.text s)

/-- By induction on the item. No length in it exceeds that of the whole. -/
theorem reads_write {depth : Nat} {v : Value} (h : v.Plain depth) (hlength : v.write.length < 2 ^ 64) :
    (of (readItem? depth)).Reads v.write v := by
  induction h with
  | int least greatest => exact reads_int least greatest
  | bytes bs =>
    rw [Value.write, List.length_append] at hlength
    exact reads_bytes (by omega)
  | text s =>
    rw [Value.write, List.length_append] at hlength
    exact reads_text (by omega)
  | bool b =>
    cases b with
    | false => exact reads_simple 20 (by omega) rfl
    | true => exact reads_simple 21 (by omega) rfl
  | null => exact reads_simple 22 (by omega) rfl
  | @array depth items plain ih =>
    rw [Value.write, writeItems_eq] at hlength ⊢
    rw [List.length_append] at hlength
    have hcount := length_le_length_flatMap fun v hv => (plain v hv).length_pos
    have hitem {v : Value} (hv : v ∈ items) := length_le_flatMap Value.write hv
    refine reads_item (by omega) (by omega) ((reads_many fun v hv => ih v hv ?_).map Value.array)
    exact Nat.lt_of_le_of_lt (hitem hv) (by omega)
  | @map depth entries plain_key plain ih_key ih =>
    rw [Value.write, writeEntries_eq] at hlength ⊢
    rw [List.length_append] at hlength
    have hcount : entries.length ≤ (entries.flatMap fun e => e.1.write ++ e.2.write).length := by
      refine length_le_length_flatMap fun e he => ?_
      rw [List.length_append]
      exact Nat.add_pos_left (plain_key e he).length_pos _
    have hentry {e : Value × Value} (he : e ∈ entries) :
        (e.1.write ++ e.2.write).length < 2 ^ 64 :=
      Nat.lt_of_le_of_lt (length_le_flatMap (fun e => e.1.write ++ e.2.write) he) (by omega)
    simp only [List.length_append] at hentry
    refine reads_item (by omega) (by omega) (Reads.map (reads_many fun e he => ?_) Value.map)
    have hshort := hentry he
    exact reads_pair (ih_key e he (by omega)) (ih e he (by omega))

/-- A plain item is read back from its bytes, of which there are fewer than a length can say. -/
theorem decode_write {v : Value} (h : v.Plain maxDepth) (hlength : v.write.length < 2 ^ 64) :
    decode v.write = .ok v := by
  have hread := reads_write h hlength []
  rw [List.append_nil] at hread
  exact decode_eq_ok.2 hread

end Passkey.Cbor
