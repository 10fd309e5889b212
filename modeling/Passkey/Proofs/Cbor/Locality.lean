import Passkey.Cbor.Reader
import Passkey.Proofs.Reading

/-!
# What the bytes of an item decide

Reading CBOR is local: the bytes that a reader takes off an input decide what it reads, whatever
follows them. Each reader is stated as a sequence of smaller readings first. The locality of the
sequence then follows from that of its parts, through every nesting and through items whose end is
only marked.
-/

namespace Passkey.Cbor

open Reading

variable {α : Type}

/-! ### Heads -/

theorem readNat?_eq (width : Nat) : ofConsumed (readNat? width) = Bytes.toNat <$> take width := by
  refine StateT.ext fun input => ?_
  rw [run_ofConsumed, readNat?, StateT.run_map, run_take]
  split <;> rfl

theorem isLocal_readNat (width : Nat) : (ofConsumed (readNat? width)).IsLocal := by
  rw [readNat?_eq]
  exact (isLocal_take width).map _

/-- What is read after the first byte of a head. -/
def headAfter (first : UInt8) : Reading Head :=
  let major := first.toNat / 32
  let info := first.toNat % 32
  if info < 24 then pure (.ofArgument major info)
  else if info = 31 then StateT.lift (Head.indefinite? major)
  else do
    let width ← StateT.lift (argumentWidth? info)
    let n ← ofConsumed (readNat? width)
    return if major = 7 ∧ width = 2 then .float (FloatForm.half.widen n)
      else if major = 7 ∧ width = 4 then .float (FloatForm.single.widen n)
      else if major = 7 ∧ width = 8 then .float (UInt64.ofNat n)
      else .ofArgument major n

theorem run_readHead?_cons (first : UInt8) (rest : Bytes) :
    (of readHead?).run (first :: rest) = (headAfter first).run rest := by
  simp only [run_of, readHead?, headAfter]
  split
  · rfl
  · split
    · cases Head.indefinite? (first.toNat / 32) <;> rfl
    · cases argumentWidth? (first.toNat % 32) with
      | none => rfl
      | some width => cases hn : readNat? width rest <;> simp [run_ofConsumed, hn]

theorem isLocal_headAfter (first : UInt8) : (headAfter first).IsLocal := by
  simp only [headAfter]
  split
  · exact isLocal_pure _
  · split
    · exact isLocal_lift _
    · refine (isLocal_lift _).bind fun width => ?_
      exact (isLocal_readNat width).bind fun n => isLocal_pure _

theorem isLocal_readHead : (of readHead?).IsLocal := by
  intro input head rest h
  cases input with
  | nil => cases h
  | cons first tail =>
    rw [run_readHead?_cons] at h
    obtain ⟨taken, rfl, ht⟩ := isLocal_headAfter first tail head rest h
    exact ⟨first :: taken, rfl, fun rest' => (run_readHead?_cons ..).trans (ht rest')⟩

/-! ### Strings -/

/-- What is read after a head inside an indefinite string. -/
def piecesAfter (kind : StringKind) (level : Nat) (head : Head) : Reading (List Bytes) :=
  match head with
  | .stop =>
    match level with
    | 0 => pure []
    | level + 1 => of (readPieces? kind level)
  | .string other length =>
    if other ≠ kind then failure
    else match length with
      | none => of (readPieces? kind (level + 1))
      | some n => do
        let piece ← take n
        return piece :: (← of (readPieces? kind level))
  | _ => failure

theorem readPieces?_eq (kind : StringKind) (level : Nat) :
    of (readPieces? kind level) = of readHead? >>= piecesAfter kind level := by
  refine StateT.ext fun input => ?_
  rw [run_of_bind, run_of, readPieces?]
  cases readHead? input with
  | none => rfl
  | some p =>
    obtain ⟨head, rest, h⟩ := p
    cases head with
    | stop =>
      cases level with
      | zero => rfl
      | succ level => simp [piecesAfter, run_of, Function.comp_def]
    | string other length =>
      by_cases hk : other = kind
      · cases length with
        | none => simp [piecesAfter, hk, run_of, Function.comp_def]
        | some n =>
          by_cases hn : n ≤ rest.length
          · simp [piecesAfter, hk, hn, run_of, Function.comp_def]
          · simp [piecesAfter, hk, hn]
      · simp [piecesAfter, hk]
    | _ => rfl

theorem isLocal_readPieces (kind : StringKind) (level : Nat) :
    (of (readPieces? kind level)).IsLocal := by
  intro input
  induction hn : input.length using Nat.strongRecOn generalizing level input with
  | _ n ih =>
    subst hn
    rw [readPieces?_eq]
    refine (isLocal_readHead input).bind fun head rest hhead => ?_
    -- The head took at least one byte, so whatever is read after it has a shorter input.
    have later : ∀ level tail, tail.length ≤ rest.length →
        (of (readPieces? kind level)).LocalAt tail := fun level tail ht =>
      ih tail.length (Nat.lt_of_le_of_lt ht (length_of hhead)) level tail rfl
    unfold piecesAfter
    split
    · split
      · exact isLocal_pure _ _
      · exact later _ _ (Nat.le_refl _)
    · split
      · exact isLocal_failure _
      · split
        · exact later _ _ (Nat.le_refl _)
        · refine (isLocal_take _ rest).bind fun piece tail htake => ?_
          refine LocalAt.bind ?_ fun _ _ _ => isLocal_pure _ _
          exact later _ _ (length_take htake)
    · exact isLocal_failure _

theorem readString?_some (kind : StringKind) (n : Nat) :
    ofConsumed (readString? kind (some n)) = (fun piece => [piece]) <$> take n := by
  refine StateT.ext fun input => ?_
  rw [run_ofConsumed, readString?, StateT.run_map, run_take]
  split <;> rfl

theorem readString?_none (kind : StringKind) :
    ofConsumed (readString? kind none) = of (readPieces? kind 0) := by
  refine StateT.ext fun input => ?_
  rw [run_ofConsumed, readString?, run_of, Option.map_map]
  rfl

theorem isLocal_readString (kind : StringKind) (length : Option Nat) :
    (ofConsumed (readString? kind length)).IsLocal := by
  cases length with
  | none =>
    rw [readString?_none]
    exact isLocal_readPieces kind 0
  | some n =>
    rw [readString?_some]
    exact (isLocal_take n).map _

/-! ### Containers -/

section Containers

variable {one : (input : Bytes) → Option (Parsed α input)}

theorem readMany?_succ (n : Nat) : ofConsumed (readMany? one (n + 1)) =
    (do return (← of one) :: (← ofConsumed (readMany? one n))) := by
  refine StateT.ext fun input => ?_
  rw [run_of_bind, run_ofConsumed, readMany?]
  cases one input with
  | none => rfl
  | some p => simp [run_ofConsumed, Function.comp_def]

theorem isLocal_readMany (hone : (of one).IsLocal) (n : Nat) :
    (ofConsumed (readMany? one n)).IsLocal := by
  induction n with
  | zero => exact isLocal_pure []
  | succ n ih =>
    rw [readMany?_succ]
    exact hone.bind fun _ => ih.bind fun _ => isLocal_pure _

theorem run_readUntilStop?_stop (rest : Bytes) :
    (ofConsumed (readUntilStop? one)).run (0xff :: rest) = some ([], rest) := by
  rw [run_ofConsumed, readUntilStop?]
  rfl

theorem run_readUntilStop?_more {input : Bytes} (h : ∀ rest, input ≠ 0xff :: rest) :
    (ofConsumed (readUntilStop? one)).run input =
      (do return (← of one) :: (← ofConsumed (readUntilStop? one)) : Reading (List α)).run
        input := by
  rw [run_of_bind, run_ofConsumed, readUntilStop?]
  · cases one input with
    | none => rfl
    | some p => simp [run_ofConsumed, Function.comp_def]
  · exact h

/-- The mark at the end is looked for before each thing. The bytes of a thing do not begin with it,
so it is not found there whatever follows them. -/
theorem isLocal_readUntilStop (hone : (of one).IsLocal) :
    (ofConsumed (readUntilStop? one)).IsLocal := by
  intro input
  induction hn : input.length using Nat.strongRecOn generalizing input with
  | _ n ih =>
    subst hn
    intro items rest h
    by_cases hstop : ∃ tail, input = 0xff :: tail
    · obtain ⟨tail, rfl⟩ := hstop
      rw [run_readUntilStop?_stop] at h
      cases h
      exact ⟨[0xff], rfl, fun rest' => run_readUntilStop?_stop rest'⟩
    · rw [run_readUntilStop?_more fun tail ht => hstop ⟨tail, ht⟩, StateT.run_bind] at h
      obtain ⟨⟨x, middle⟩, hx, hmore⟩ := Option.bind_eq_some_iff.1 h
      have hlt : middle.length < input.length := length_of hx
      obtain ⟨first, rfl, hfirst⟩ := hone input x middle hx
      rw [StateT.run_bind] at hmore
      obtain ⟨⟨xs, last⟩, hxs, hpure⟩ := Option.bind_eq_some_iff.1 hmore
      cases hpure
      obtain ⟨second, rfl, hsecond⟩ := ih middle.length hlt middle rfl xs last hxs
      refine ⟨first ++ second, (List.append_assoc ..).symm, fun rest' => ?_⟩
      -- `first` is not empty, so the byte that is no mark also begins what is read now.
      have hfront : ∀ tail, first ++ (second ++ rest') ≠ 0xff :: tail := by
        cases first with
        | nil => exact absurd hlt (Nat.lt_irrefl _)
        | cons b bs =>
          intro tail hcons
          cases hcons
          exact hstop ⟨_, rfl⟩
      rw [List.append_assoc, run_readUntilStop?_more hfront, StateT.run_bind, hfirst]
      simp [hsecond]

theorem isLocal_readAll (hone : (of one).IsLocal) (length : Option Nat) :
    (ofConsumed (readAll? one length)).IsLocal := by
  cases length with
  | none => exact isLocal_readUntilStop hone
  | some n => exact isLocal_readMany hone n

theorem readPair?_eq : of (readPair? one) = (do return (← of one, ← of one)) := by
  refine StateT.ext fun input => ?_
  rw [run_of_bind, run_of, readPair?]
  cases one input with
  | none => rfl
  | some p => simp [run_of, Function.comp_def]

theorem isLocal_readPair (hone : (of one).IsLocal) : (of (readPair? one)).IsLocal := by
  rw [readPair?_eq]
  exact hone.bind fun _ => hone.bind fun _ => isLocal_pure _

end Containers

/-! ### Items -/

/-- How many bytes a big number takes, if a head under a tag begins one. -/
def Head.bigLength? (number : Nat) : Head → Option Nat
  | .string .bytes (some n) => if (number = 2 ∨ number = 3) ∧ n ≤ 16 then some n else none
  | _ => none

theorem readBigContent?_eq (number : Nat) : ofConsumed (readBigContent? number) = (do
    let head ← of readHead?
    let n ← StateT.lift (head.bigLength? number)
    take n) := by
  refine StateT.ext fun input => ?_
  rw [run_of_bind, run_ofConsumed, readBigContent?]
  cases readHead? input with
  | none => split <;> rfl
  | some p =>
    obtain ⟨head, rest, h⟩ := p
    by_cases hbig : ∃ n, head = .string .bytes (some n)
    · obtain ⟨n, rfl⟩ := hbig
      by_cases hnumber : number = 2 ∨ number = 3
      · by_cases hn : n ≤ 16
        · by_cases hr : n ≤ rest.length
          · simp [Head.bigLength?, hnumber, hn, hr]
          · simp [Head.bigLength?, hnumber, hn, hr]
        · simp [Head.bigLength?, hnumber, hn]
      · simp [Head.bigLength?, hnumber]
    · have hnone : head.bigLength? number = none := by
        unfold Head.bigLength?
        split
        · exact absurd ⟨_, rfl⟩ hbig
        · rfl
      simp only [hnone, Option.bind_some]
      split
      · split
        · rename_i heq
          cases heq
          exact absurd ⟨_, rfl⟩ hbig
        · rfl
      · rfl

theorem Head.bigLength?_eq_some {number n : Nat} {head : Head}
    (h : head.bigLength? number = some n) : head = .string .bytes (some n) := by
  unfold Head.bigLength? at h
  split at h
  · split at h
    · cases h
      rfl
    · cases h
  · cases h

/-- The item under a tag, read after its head: a big number where one begins, and otherwise what is
read after the next head. -/
def taggedAfter (number : Nat) (after : Head → Reading Value) : Reading Value := do
  let head ← of readHead?
  match head.bigLength? number with
  | some n =>
    let content ← take n
    StateT.lift (bigNumber? (number = 3) content)
  | none => after head

/-- What is read after the head of an item. -/
def itemAfter : Nat → Head → Reading Value
  | _, .positive n => pure (.int n)
  | _, .negative n => pure (.int (-1 - n))
  | _, .float bits => pure (.float bits)
  | _, .simple n => StateT.lift (simpleValue? n)
  | _, .stop => failure
  | _, .string .bytes length => do
    let pieces ← ofConsumed (readString? .bytes length)
    return .bytes pieces.flatten
  | _, .string .text length => do
    let pieces ← ofConsumed (readString? .text length)
    let texts ← StateT.lift (pieces.mapM Utf8.decode?)
    return .text (String.join texts)
  | 0, .array _ => failure
  | depth + 1, .array length => .array <$> ofConsumed (readAll? (readItem? depth) length)
  | 0, .map _ => failure
  | depth + 1, .map length => .map <$> ofConsumed (readAll? (readPair? (readItem? depth)) length)
  | 0, .tag number => taggedAfter number fun _ => failure
  | depth + 1, .tag number => taggedAfter number fun head => .tag number <$> itemAfter depth head

/-- Where the length of a big number is too great for the input, nothing else reads it either. -/
theorem run_taggedAfter {number : Nat} {after : Head → Reading Value}
    (hafter : ∀ n rest, ¬ n ≤ rest.length → (after (.string .bytes (some n))).run rest = none)
    (input : Bytes) : (taggedAfter number after).run input =
      match readBigContent? number input with
      | some big => (bigNumber? (number = 3) big.value).map fun v => (v, big.rest)
      | none => (of readHead? >>= after).run input := by
  -- `readBigContent?` looks at the same head that is read here first.
  have hbig := congrArg (fun r => r.run input) (readBigContent?_eq number)
  simp only [run_of_bind, run_ofConsumed] at hbig
  rw [taggedAfter, run_of_bind, run_of_bind]
  cases hhead : readHead? input with
  | none =>
    have hnone : readBigContent? number input = none := by simpa [hhead] using hbig
    rw [hnone]
    rfl
  | some p =>
    obtain ⟨head, rest, h⟩ := p
    rw [hhead] at hbig
    simp only [Option.bind_some] at hbig ⊢
    cases hlength : head.bigLength? number with
    | none =>
      have hnone : readBigContent? number input = none := by simpa [hlength] using hbig
      rw [hnone]
    | some n =>
      cases Head.bigLength?_eq_some hlength
      by_cases hn : n ≤ rest.length
      · cases hcontent : readBigContent? number input with
        | none => simp [hlength, hcontent, hn] at hbig
        | some big =>
          obtain ⟨hvalue, hrest⟩ : big.value = rest.take n ∧ big.rest = rest.drop n := by
            simpa [hlength, hcontent, hn] using hbig
          simp only [StateT.run_bind, run_take, if_pos hn, hvalue, hrest]
          cases hv : bigNumber? (number = 3) (rest.take n) <;> simp [hv]
      · have hnone : readBigContent? number input = none := by simpa [hlength, hn] using hbig
        rw [hnone]
        simp [hafter, hn]

theorem readItem?_eq (depth : Nat) : of (readItem? depth) = of readHead? >>= itemAfter depth := by
  induction depth using Nat.strongRecOn with
  | _ depth ih =>
    -- Only a tag goes on with an item of lesser depth by its head; containers hold whole items.
    refine StateT.ext fun input => ?_
    rw [run_of_bind, run_of, readItem?]
    cases readHead? input with
    | none => rfl
    | some p =>
      obtain ⟨head, rest, h⟩ := p
      cases head with
      | simple n => cases hv : simpleValue? n <;> simp [itemAfter, hv]
      | string kind length =>
        cases kind with
        | bytes => simp [itemAfter, run_ofConsumed, Function.comp_def]
        | text =>
          cases hr : readString? .text length rest with
          | none => simp [itemAfter, run_ofConsumed, hr]
          | some r =>
            cases ht : r.value.mapM Utf8.decode? <;> simp [itemAfter, run_ofConsumed, hr, ht]
      | array length =>
        cases depth with
        | zero => rfl
        | succ depth => simp [itemAfter, run_ofConsumed, Function.comp_def]
      | map length =>
        cases depth with
        | zero => rfl
        | succ depth => simp [itemAfter, run_ofConsumed, Function.comp_def]
      | tag number =>
        cases depth with
        | zero =>
          rw [Option.bind_some, itemAfter, run_taggedAfter fun _ _ _ => rfl]
          cases hbig : readBigContent? number rest with
          | some big => simp [hbig, Function.comp_def]
          | none => simp [hbig]
        | succ depth =>
          rw [Option.bind_some, itemAfter, run_taggedAfter fun n tail hn => by
            simp [itemAfter, run_ofConsumed, readString?, hn]]
          cases hbig : readBigContent? number rest with
          | some big => simp [hbig, Function.comp_def]
          | none =>
            have hinner : (of readHead? >>= fun head => Value.tag number <$> itemAfter depth head)
                = Value.tag number <$> of (readItem? depth) := by
              rw [ih depth (Nat.lt_succ_self depth), map_bind]
            rw [hinner]
            simp [hbig, run_of, Function.comp_def]
      | _ => simp [itemAfter]

theorem isLocal_taggedAfter (number : Nat) {after : Head → Reading Value}
    (hafter : ∀ head, (after head).IsLocal) : (taggedAfter number after).IsLocal := by
  refine isLocal_readHead.bind fun head => ?_
  split
  · exact (isLocal_take _).bind fun content => isLocal_lift _
  · exact hafter head

theorem isLocal_itemAfter (depth : Nat) (head : Head) : (itemAfter depth head).IsLocal := by
  induction depth using Nat.strongRecOn generalizing head with
  | _ depth ih =>
    have inner : ∀ d, d < depth → (of (readItem? d)).IsLocal := fun d hd => by
      rw [readItem?_eq]
      exact isLocal_readHead.bind (ih d hd)
    cases head with
    | positive n => simpa only [itemAfter] using isLocal_pure _
    | negative n => simpa only [itemAfter] using isLocal_pure _
    | float bits => simpa only [itemAfter] using isLocal_pure _
    | simple n => simpa only [itemAfter] using isLocal_lift _
    | stop => simpa only [itemAfter] using isLocal_failure
    | string kind length =>
      have hpieces := isLocal_readString kind length
      cases kind with
      | bytes =>
        rw [itemAfter]
        exact hpieces.bind fun _ => isLocal_pure _
      | text =>
        rw [itemAfter]
        exact hpieces.bind fun _ => (isLocal_lift _).bind fun _ => isLocal_pure _
    | array length =>
      cases depth with
      | zero => exact isLocal_failure
      | succ depth => exact (isLocal_readAll (inner depth (Nat.lt_succ_self depth)) length).map _
    | map length =>
      cases depth with
      | zero => exact isLocal_failure
      | succ depth =>
        have hpair := isLocal_readPair (inner depth (Nat.lt_succ_self depth))
        exact (isLocal_readAll hpair length).map _
    | tag number =>
      cases depth with
      | zero => exact isLocal_taggedAfter number fun _ => isLocal_failure
      | succ depth =>
        exact isLocal_taggedAfter number fun head => (ih depth (Nat.lt_succ_self depth) head).map _

/-- Whatever follows an item, its own bytes read as that item. -/
theorem isLocal_readItem (depth : Nat) : (of (readItem? depth)).IsLocal := by
  rw [readItem?_eq]
  exact isLocal_readHead.bind (isLocal_itemAfter depth)

/-! ### Whole inputs and fronts of inputs -/

theorem decode_eq_ok {input : Bytes} {v : Value} :
    decode input = .ok v ↔ (of (readItem? maxDepth)).run input = some (v, []) := by
  rw [decode, run_of]
  cases readItem? maxDepth input with
  | none => simp
  | some p =>
    by_cases h : p.rest = []
    · simp [h]
    · simp [h]

theorem decodePrefix?_eq_some {input : Bytes} {v : Value} {n : Nat} :
    decodePrefix? input = some (v, n) ↔
      ∃ rest, (of (readItem? maxDepth)).run input = some (v, rest)
        ∧ n = input.length - rest.length := by
  rw [decodePrefix?, run_of]
  cases readItem? maxDepth input with
  | none => simp
  | some p =>
    constructor
    · intro h
      cases h
      exact ⟨p.rest, rfl, rfl⟩
    · rintro ⟨rest, h, rfl⟩
      cases h
      rfl

/-- The bytes that an item at the front takes are, by themselves, that item. -/
theorem decode_take_of_decodePrefix? {input : Bytes} {v : Value} {n : Nat}
    (h : decodePrefix? input = some (v, n)) : decode (input.take n) = .ok v := by
  obtain ⟨rest, hrun, rfl⟩ := decodePrefix?_eq_some.1 h
  exact decode_eq_ok.2 ((isLocal_readItem maxDepth).run_take hrun)

/-- An item is read off the front exactly if the input goes on after bytes that are the item. -/
theorem decodePrefix?_eq_some_iff {input : Bytes} {v : Value} {n : Nat} :
    decodePrefix? input = some (v, n) ↔
      ∃ taken rest, input = taken ++ rest ∧ taken.length = n ∧ decode taken = .ok v := by
  constructor
  · intro h
    obtain ⟨rest, -, hn⟩ := decodePrefix?_eq_some.1 h
    have hle : n ≤ input.length := hn ▸ Nat.sub_le ..
    exact ⟨input.take n, input.drop n, (List.take_append_drop n input).symm,
      List.length_take_of_le hle, decode_take_of_decodePrefix? h⟩
  · rintro ⟨taken, rest, rfl, rfl, h⟩
    obtain ⟨first, hfirst, hlocal⟩ := isLocal_readItem maxDepth taken v [] (decode_eq_ok.1 h)
    rw [List.append_nil] at hfirst
    subst hfirst
    exact decodePrefix?_eq_some.2 ⟨rest, hlocal rest, by simp⟩

/-! ### Where an item ends -/

variable {input tail : Bytes} {v : Value} {n : Nat}

/-- An item takes at least one byte. -/
theorem length_pos_of_decode (h : decode input = .ok v) : 0 < input.length :=
  length_of (decode_eq_ok.1 h)

/-- The item at the front of an input is at the front of every longer one. -/
theorem decodePrefix?_append (h : decodePrefix? input = some (v, n)) (tail : Bytes) :
    decodePrefix? (input ++ tail) = some (v, n) := by
  obtain ⟨taken, rest, rfl, hlength, hitem⟩ := decodePrefix?_eq_some_iff.1 h
  exact decodePrefix?_eq_some_iff.2
    ⟨taken, rest ++ tail, List.append_assoc .., hlength, hitem⟩

/-- What follows an item is trailing. -/
theorem decode_append (h : decode input = .ok v) (htail : tail ≠ []) :
    decode (input ++ tail) = .error (.trailing tail.length) := by
  have hrun := (isLocal_readItem maxDepth).run_append (decode_eq_ok.1 h) tail
  obtain ⟨hlt, hread⟩ := run_of_eq_some.1 hrun
  rw [decode, hread]
  exact if_neg htail

/-- There is no item at the front of an input exactly if decoding it finds it unreadable. -/
theorem decode_eq_unreadable : decode input = .error .unreadable ↔ decodePrefix? input = none := by
  rw [decode, decodePrefix?]
  cases readItem? maxDepth input with
  | none => simp
  | some p => by_cases h : p.rest = [] <;> simp [h]

/-- An item that is cut short is unreadable: no other item ends before it does. -/
theorem decodePrefix?_eq_none_of_cut (h : decode (input ++ tail) = .ok v) (htail : tail ≠ []) :
    decodePrefix? input = none := by
  have hshort : ([] : Bytes).length < tail.length := List.length_pos_iff.2 htail
  have hrun := (isLocal_readItem maxDepth).run_eq_none (decode_eq_ok.1 h) hshort
  have hread : readItem? maxDepth input = none := Option.map_eq_none_iff.1 hrun
  rw [decodePrefix?, hread]
  rfl

end Passkey.Cbor
