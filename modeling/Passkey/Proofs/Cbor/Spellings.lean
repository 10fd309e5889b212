import Passkey.Proofs.Cbor.RoundTrip

/-!
# The spellings of an item

An item is not spelled in one way only. The argument of a head may take more bytes than it needs, a
string may come in pieces, and a container may be closed by a mark instead of telling its size.
`Spells` is the grammar of these spellings, apart from how they are read, and every spelling is read
as the item that it stands for (`decode_of_spells`).
-/

namespace Passkey.Cbor

open Reading

/-! ### Heads -/

/-- The bytes of a head. An argument is in the first byte, where there is room for it, or in bytes of
its own, any number of which may be zero. -/
inductive SpellsHead : Head → Bytes → Prop where
  | small {major n : Nat} (major_lt : major < 8) (small : n < 24) :
    SpellsHead (.ofArgument major n) [UInt8.ofNat (major * 32 + n)]
  | wide {major info width n : Nat} (major_lt : major < 7) (large : 24 ≤ info)
    (width_eq : argumentWidth? info = some width) (fits : n < 256 ^ width) :
    SpellsHead (.ofArgument major n) (UInt8.ofNat (major * 32 + info) :: Bytes.ofNat width n)
  | simple {n : Nat} (fits : n < 256 ^ 1) : SpellsHead (.simple n) (0xf8 :: Bytes.ofNat 1 n)
  | half {n : Nat} (fits : n < 256 ^ 2) :
    SpellsHead (.float (FloatForm.half.widen n)) (0xf9 :: Bytes.ofNat 2 n)
  | single {n : Nat} (fits : n < 256 ^ 4) :
    SpellsHead (.float (FloatForm.single.widen n)) (0xfa :: Bytes.ofNat 4 n)
  | double {n : Nat} (fits : n < 256 ^ 8) :
    SpellsHead (.float (UInt64.ofNat n)) (0xfb :: Bytes.ofNat 8 n)
  | indefinite {major : Nat} {head : Head} (marked : Head.indefinite? major = some head) :
    SpellsHead head [UInt8.ofNat (major * 32 + 31)]

theorem lt_of_indefinite? {major : Nat} {head : Head} (h : Head.indefinite? major = some head) :
    major < 8 := by
  unfold Head.indefinite? at h
  split at h <;> first | omega | cases h

theorem SpellsHead.reads {head : Head} {hd : Bytes} (h : SpellsHead head hd) :
    (of readHead?).Reads hd head := by
  cases h with
  | small major_lt small =>
    refine reads_head_cons ?_
    rw [headAfter_small major_lt small]
    exact reads_pure _
  | wide major_lt large width_eq fits => exact reads_argument major_lt large width_eq fits
  | simple fits => exact reads_head_cons ((reads_ofNat fits).map Head.simple)
  | half fits =>
    exact reads_head_cons ((reads_ofNat fits).map fun n => Head.float (FloatForm.half.widen n))
  | single fits =>
    exact reads_head_cons ((reads_ofNat fits).map fun n => Head.float (FloatForm.single.widen n))
  | double fits => exact reads_head_cons ((reads_ofNat fits).map fun n => Head.float (UInt64.ofNat n))
  | @indefinite major _ marked =>
    obtain ⟨hhigh, hlow⟩ := toNat_firstByte (lt_of_indefinite? marked) (by decide : 31 < 32)
    refine reads_head_cons ?_
    simp only [headAfter, hhigh, hlow, marked]
    exact reads_pure _

/-! ### Strings -/

/-- Pieces of a string without a length, which may stand in such strings themselves. -/
inductive SpellsPieces (kind : StringKind) : List Bytes → Bytes → Prop where
  | none : SpellsPieces kind [] []
  | piece {content hd bs : Bytes} {pieces : List Bytes}
    (head : SpellsHead (.string kind (some content.length)) hd)
    (rest : SpellsPieces kind pieces bs) :
    SpellsPieces kind (content :: pieces) (hd ++ (content ++ bs))
  | nested {hd bs cs : Bytes} {inner pieces : List Bytes} (head : SpellsHead (.string kind none) hd)
    (within : SpellsPieces kind inner bs) (rest : SpellsPieces kind pieces cs) :
    SpellsPieces kind (inner ++ pieces) (hd ++ (bs ++ 0xff :: cs))

/-- A string, whole or in pieces. -/
inductive SpellsString (kind : StringKind) : List Bytes → Bytes → Prop where
  | whole {content hd : Bytes} (head : SpellsHead (.string kind (some content.length)) hd) :
    SpellsString kind [content] (hd ++ content)
  | marked {hd bs : Bytes} {pieces : List Bytes} (head : SpellsHead (.string kind none) hd)
    (within : SpellsPieces kind pieces bs) : SpellsString kind pieces (hd ++ (bs ++ [0xff]))

/-- Pieces are read wherever they stand, in front of what is read after them. -/
theorem SpellsPieces.run {kind : StringKind} {pieces : List Bytes} {bs : Bytes}
    (h : SpellsPieces kind pieces bs) (level : Nat) (rest : Bytes) :
    (of (readPieces? kind level)).run (bs ++ rest) =
      ((of (readPieces? kind level)).run rest).map fun p => (pieces ++ p.1, p.2) := by
  induction h generalizing level rest with
  | none => simp
  | @piece content hd bs pieces head _ ih =>
    rw [readPieces?_eq, StateT.run_bind, List.append_assoc, head.reads, ← readPieces?_eq,
      List.append_assoc]
    simp [piecesAfter, ih, Option.map_map, Function.comp_def]
  | @nested hd bs cs inner pieces head _ _ ih_within ih =>
    have hstop : (of (readPieces? kind (level + 1))).run (0xff :: (cs ++ rest)) =
        (of (readPieces? kind level)).run (cs ++ rest) := by
      rw [readPieces?_eq, StateT.run_bind, run_readHead?_cons]
      rfl
    rw [readPieces?_eq, StateT.run_bind, List.append_assoc, head.reads, ← readPieces?_eq]
    simp [piecesAfter, ih_within, hstop, ih, Option.map_map, Function.comp_def]

theorem mapM_decode?_encode (pieces : List String) :
    (pieces.map Utf8.encode).mapM Utf8.decode? = some pieces := by
  induction pieces with
  | nil => rfl
  | cons piece pieces ih => simp [Utf8.decode_encode, ih]

/-- After the head of a string come its pieces. -/
theorem SpellsString.exists_head {kind : StringKind} {pieces : List Bytes} {bs : Bytes}
    (h : SpellsString kind pieces bs) : ∃ length hd rest, bs = hd ++ rest ∧
      SpellsHead (.string kind length) hd ∧
      (ofConsumed (readString? kind length)).Reads rest pieces ∧
      ∀ n, length = some n → rest.length = n := by
  cases h with
  | @whole content hd head =>
    refine ⟨_, hd, content, rfl, head, reads_string kind content, ?_⟩
    rintro n ⟨⟩
    rfl
  | @marked hd bs _ head within =>
    refine ⟨none, hd, bs ++ [0xff], rfl, head, ?_, nofun⟩
    intro rest
    have hstop : (of (readPieces? kind 0)).run (0xff :: rest) = some ([], rest) := by
      rw [readPieces?_eq, StateT.run_bind, run_readHead?_cons]
      rfl
    rw [readString?_none, List.append_assoc, List.singleton_append, within.run, hstop]
    simp

/-! ### Containers -/

/-- A container with this many parts tells so and ends by itself, or tells nothing and is closed by
a mark. -/
inductive Closes (count : Nat) : Option Nat → Bytes → Prop where
  | counted : Closes count (some count) []
  | marked : Closes count none [0xff]

section Containers

variable {α β : Type} {one : (input : Bytes) → Option (Parsed α input)} {value : β → α}
  {spell : β → Bytes} {parts : List β}

/-- Parts are read up to the mark after them, which no part begins with. -/
theorem reads_untilStop (hstop : ∀ rest, (of one).run (0xff :: rest) = none)
    (h : ∀ p ∈ parts, (of one).Reads (spell p) (value p)) :
    (ofConsumed (readUntilStop? one)).Reads (parts.flatMap spell ++ [0xff]) (parts.map value) := by
  induction parts with
  | nil => exact run_readUntilStop?_stop
  | cons p parts ih =>
    intro rest
    obtain ⟨hp, hparts⟩ := List.forall_mem_cons.1 h
    have hread := hp (parts.flatMap spell ++ [0xff] ++ rest)
    have hsplit : (p :: parts).flatMap spell ++ [0xff] ++ rest =
        spell p ++ (parts.flatMap spell ++ [0xff] ++ rest) := by simp
    rw [hsplit, run_readUntilStop?_more, StateT.run_bind, hread]
    · have hparts := ih hparts rest
      rw [List.append_assoc, List.singleton_append] at hparts
      simp [hparts]
    · intro tail hmark
      rw [hmark, hstop] at hread
      cases hread

theorem reads_all (hstop : ∀ rest, (of one).run (0xff :: rest) = none)
    (h : ∀ p ∈ parts, (of one).Reads (spell p) (value p)) {length : Option Nat} {stop : Bytes}
    (hcloses : Closes parts.length length stop) :
    (ofConsumed (readAll? one length)).Reads (parts.flatMap spell ++ stop) (parts.map value) := by
  cases hcloses with
  | counted =>
    rw [List.append_nil]
    exact reads_parts h
  | marked => exact reads_untilStop hstop h

end Containers

theorem run_readItem?_stop (depth : Nat) (rest : Bytes) :
    (of (readItem? depth)).run (0xff :: rest) = none := by
  rw [readItem?_eq, StateT.run_bind, run_readHead?_cons]
  cases depth <;> rfl

theorem run_readPair?_stop (depth : Nat) (rest : Bytes) :
    (of (readPair? (readItem? depth))).run (0xff :: rest) = none := by
  rw [readPair?_eq, StateT.run_bind, run_readItem?_stop]
  rfl

/-! ### Items -/

/-- The bytes are a byte string that makes a big number of a tag with this number in front of it. -/
def IsBigContent (number : Nat) (bs : Bytes) : Prop :=
  (number = 2 ∨ number = 3) ∧ ∃ hd content : Bytes,
    SpellsHead (.string .bytes (some content.length)) hd ∧ content.length ≤ 16 ∧ bs = hd ++ content

/-- The bytes spell the item, with at most `depth` containers and tags around one another. -/
inductive Spells : Nat → Value → Bytes → Prop where
  | positive {depth n : Nat} {hd : Bytes} (head : SpellsHead (.positive n) hd) :
    Spells depth (.int n) hd
  | negative {depth n : Nat} {hd : Bytes} (head : SpellsHead (.negative n) hd) :
    Spells depth (.int (-1 - n)) hd
  | float {depth : Nat} {bits : UInt64} {hd : Bytes} (head : SpellsHead (.float bits) hd) :
    Spells depth (.float bits) hd
  | simple {depth n : Nat} {v : Value} {hd : Bytes} (head : SpellsHead (.simple n) hd)
    (value : simpleValue? n = some v) : Spells depth v hd
  | bytes {depth : Nat} {pieces : List Bytes} {bs : Bytes}
    (string : SpellsString .bytes pieces bs) : Spells depth (.bytes pieces.flatten) bs
  | text {depth : Nat} {pieces : List String} {bs : Bytes}
    (string : SpellsString .text (pieces.map Utf8.encode) bs) :
    Spells depth (.text (String.join pieces)) bs
  | array {depth : Nat} {parts : List (Value × Bytes)} {length : Option Nat} {hd stop : Bytes}
    (head : SpellsHead (.array length) hd) (closes : Closes parts.length length stop)
    (items : ∀ p ∈ parts, Spells depth p.1 p.2) :
    Spells (depth + 1) (.array (parts.map (·.1))) (hd ++ (parts.flatMap (·.2) ++ stop))
  | map {depth : Nat} {parts : List ((Value × Bytes) × (Value × Bytes))} {length : Option Nat}
    {hd stop : Bytes} (head : SpellsHead (.map length) hd)
    (closes : Closes parts.length length stop) (keys : ∀ p ∈ parts, Spells depth p.1.1 p.1.2)
    (values : ∀ p ∈ parts, Spells depth p.2.1 p.2.2) :
    Spells (depth + 1) (.map (parts.map fun p => (p.1.1, p.2.1)))
      (hd ++ ((parts.flatMap fun p => p.1.2 ++ p.2.2) ++ stop))
  | tag {depth number : Nat} {v : Value} {hd bs : Bytes} (head : SpellsHead (.tag number) hd)
    (content : Spells depth v bs) (plain : ¬ IsBigContent number bs) :
    Spells (depth + 1) (.tag number v) (hd ++ bs)
  | bigNumber {depth number : Nat} {v : Value} {hd inner content : Bytes}
    (head : SpellsHead (.tag number) hd) (number_eq : number = 2 ∨ number = 3)
    (content_head : SpellsHead (.string .bytes (some content.length)) inner)
    (short : content.length ≤ 16) (value : bigNumber? (number = 3) content = some v) :
    Spells depth v (hd ++ (inner ++ content))

/-- A spelling begins with a head, and the rest of it is what is read after this head. What follows
the head of a byte string that tells its length has this length. -/
def Headed (depth : Nat) (v : Value) (bs : Bytes) : Prop :=
  ∃ head hd rest, bs = hd ++ rest ∧ SpellsHead head hd ∧ (itemAfter depth head).Reads rest v ∧
    ∀ n, head = .string .bytes (some n) → rest.length = n

section Headed

variable {depth : Nat} {head : Head} {v : Value} {hd bs : Bytes}

theorem Headed.reads (h : Headed depth v bs) : (of (readItem? depth)).Reads bs v := by
  obtain ⟨head, hd, rest, rfl, hhead, hrest, -⟩ := h
  rw [readItem?_eq]
  exact hhead.reads.bind hrest

/-- All of the item is in its head. -/
theorem Headed.of_head (hhead : SpellsHead head hd) (hread : (itemAfter depth head).Reads [] v)
    (hstring : ∀ n, head ≠ .string .bytes (some n)) : Headed depth v hd :=
  ⟨head, hd, [], (List.append_nil hd).symm, hhead, hread, fun n hn => absurd hn (hstring n)⟩

/-- Under a tag an item is read by its own head, unless it makes a big number of the tag. -/
theorem Headed.tagged {number : Nat} (h : Headed depth v bs) (hplain : ¬ IsBigContent number bs) :
    (taggedAfter number fun head => .tag number <$> itemAfter depth head).Reads bs
      (.tag number v) := by
  obtain ⟨head, hd, rest, rfl, hhead, hrest, hlength⟩ := h
  have hbig : head.bigLength? number = none := by
    rw [Option.eq_none_iff_forall_ne_some]
    intro n hn
    obtain rfl := Head.bigLength?_eq_some hn
    obtain ⟨⟨hnumber, hshort⟩, -⟩ := Option.ite_none_right_eq_some.1 hn
    obtain rfl := hlength n rfl
    exact hplain ⟨hnumber, hd, rest, hhead, hshort, rfl⟩
  refine hhead.reads.bind ?_
  rw [hbig]
  exact hrest.map _

/-- A big number is read from the bytes under its tag. -/
theorem reads_bigNumber {number : Nat} {after : Head → Reading Value} {inner content : Bytes}
    (hnumber : number = 2 ∨ number = 3)
    (hhead : SpellsHead (.string .bytes (some content.length)) inner)
    (hshort : content.length ≤ 16) (hvalue : bigNumber? (number = 3) content = some v) :
    (taggedAfter number after).Reads (inner ++ content) v := by
  have hbig : (Head.string .bytes (some content.length)).bigLength? number = some content.length :=
    if_pos ⟨hnumber, hshort⟩
  refine hhead.reads.bind ?_
  rw [hbig]
  refine (reads_take content).bind_nil ?_
  rw [hvalue]
  exact reads_pure v

end Headed

/-- By induction on the spelling, in which the items in a container are spelled one by one. -/
theorem Spells.headed {depth : Nat} {v : Value} {bs : Bytes} (h : Spells depth v bs) :
    Headed depth v bs := by
  induction h with
  | positive head => exact .of_head head (by simpa only [itemAfter] using reads_pure _) (by simp)
  | negative head => exact .of_head head (by simpa only [itemAfter] using reads_pure _) (by simp)
  | float head => exact .of_head head (by simpa only [itemAfter] using reads_pure _) (by simp)
  | simple head value =>
    refine .of_head head ?_ (by simp)
    rw [itemAfter, value]
    exact reads_pure _
  | @bytes depth pieces bs string =>
    obtain ⟨length, hd, rest, rfl, hhead, hpieces, hlength⟩ := string.exists_head
    refine ⟨_, hd, rest, rfl, hhead, ?_, ?_⟩
    · rw [itemAfter]
      exact hpieces.bind_nil (reads_pure _)
    · intro n hn
      exact hlength n (by simpa using hn)
  | @text depth pieces bs string =>
    obtain ⟨length, hd, rest, rfl, hhead, hpieces, -⟩ := string.exists_head
    refine ⟨_, hd, rest, rfl, hhead, ?_, by simp⟩
    rw [itemAfter]
    refine hpieces.bind_nil ?_
    rw [mapM_decode?_encode]
    exact (reads_pure pieces).bind_nil (reads_pure _)
  | array head closes items ih =>
    refine ⟨_, _, _, rfl, head, ?_, by simp⟩
    exact (reads_all (run_readItem?_stop _) (fun p hp => (ih p hp).reads) closes).map Value.array
  | map head closes keys values ih_keys ih_values =>
    refine ⟨_, _, _, rfl, head, ?_, by simp⟩
    refine Reads.map (reads_all (run_readPair?_stop _) (fun p hp => ?_) closes) Value.map
    exact reads_pair (ih_keys p hp).reads (ih_values p hp).reads
  | tag head content plain ih => exact ⟨_, _, _, rfl, head, ih.tagged plain, by simp⟩
  | @bigNumber depth number v hd inner content head number_eq content_head short value =>
    refine ⟨_, hd, inner ++ content, rfl, head, ?_, by simp⟩
    cases depth with
    | zero => exact reads_bigNumber number_eq content_head short value
    | succ depth => exact reads_bigNumber number_eq content_head short value

/-- However an item is spelled, it is read. -/
theorem decode_of_spells {v : Value} {bs : Bytes} (h : Spells maxDepth v bs) : decode bs = .ok v := by
  have hread := h.headed.reads []
  rw [List.append_nil] at hread
  exact decode_eq_ok.2 hread

end Passkey.Cbor
