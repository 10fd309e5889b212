/-!
# Sets of origins

A finite set of texts as its members in rising order, so that equal sets are equal values.
-/

namespace Passkey

/-- A set of origins. -/
structure OriginSet where
  toList : List String
  increasing : toList.Pairwise (· < ·)
  deriving DecidableEq, Repr

namespace OriginSet

/-- Puts a text in its place in a rising list, unless it is there. -/
def place (s : String) : List String → List String
  | [] => [s]
  | t :: rest => if s < t then s :: t :: rest else if s = t then t :: rest else t :: place s rest

@[simp] theorem mem_place {s t : String} {l : List String} : t ∈ place s l ↔ t = s ∨ t ∈ l := by
  induction l with
  | nil => simp [place]
  | cons u rest ih => grind [place]

theorem pairwise_place {s : String} {l : List String} (h : l.Pairwise (· < ·)) :
    (place s l).Pairwise (· < ·) := by
  induction l with
  | nil => simp [place]
  | cons t rest ih =>
    obtain ⟨ht, hrest⟩ := List.pairwise_cons.1 h
    unfold place
    split
    · rename_i hst
      exact List.pairwise_cons.2
        ⟨fun u hu => (List.mem_cons.1 hu).elim (· ▸ hst) fun hu => String.lt_trans hst (ht u hu), h⟩
    · split
      · exact h
      · rename_i hst hne
        refine List.pairwise_cons.2 ⟨fun u hu => ?_, ih hrest⟩
        rcases mem_place.1 hu with rfl | hu
        · exact Std.lt_of_le_of_ne (String.not_lt.1 hst) fun h => hne h.symm
        · exact ht u hu

/-- The set without members. -/
def empty : OriginSet := ⟨[], .nil⟩

/-- The set with one more member. -/
def insert (o : OriginSet) (s : String) : OriginSet :=
  ⟨place s o.toList, pairwise_place o.increasing⟩

/-- The set of these members. -/
def ofList (members : List String) : OriginSet := members.foldl insert empty

/-- Whether a text is a member. -/
def contains (o : OriginSet) (s : String) : Bool := o.toList.contains s

/-- Whether there is no member. -/
def isEmpty (o : OriginSet) : Bool := o.toList.isEmpty

@[simp] theorem contains_insert (o : OriginSet) (s t : String) :
    (o.insert s).contains t = (t == s || o.contains t) := by
  rw [Bool.eq_iff_iff]
  simp [contains, insert]

end OriginSet

end Passkey
