import Passkey.Proofs.Attestation.TrustPath

/-!
# Roots inside and outside of a chain

A chain may end at a root or right below one. A root at its end is checked with the certificates of
the chain, as the issuer of the one before it, and a root above it is checked by itself; both ask the
same of it, so it makes no difference whether a root is sent. Of the roots only their set counts, and
more of them never do harm.
-/

namespace Passkey

open X509 (Certificate)

variable {chain roots : List Certificate} {root : Certificate} {now : Instant}

/-! ### Chains by themselves -/

/-- A chain that holds together, whatever the roots are: all of its certificates are valid, each is
issued by the next, and every issuer may issue that many levels. -/
structure HoldsTogether (chain : List Certificate) (now : Instant) : Prop where
  valid : ∀ c ∈ chain, c.ValidAt now
  linked : ∀ i c issuer, chain[i]? = some c → chain[i + 1]? = some issuer →
    c.IssuedBy issuer ∧ issuer.MayIssue i

/-- The root stands above a chain: it is valid, has issued the last certificate and may do so with
all of the chain but the leaf between them. -/
structure StandsAbove (root : Certificate) (chain : List Certificate) (hne : chain ≠ [])
    (now : Instant) : Prop where
  valid : root.ValidAt now
  issued : (chain.getLast hne).IssuedBy root
  may_issue : root.MayIssue (chain.length - 1)

theorem holdsTogether_iff :
    HoldsTogether chain now ↔ checkValidity now 0 chain = .ok () ∧ checkLinks 0 chain = .ok () := by
  simp only [checkValidity_eq_ok, checkLinks_eq_ok, Nat.zero_add]
  constructor
  · intro h
    exact ⟨h.valid, h.linked⟩
  · intro ⟨hv, hl⟩
    exact ⟨hv, hl⟩

theorem leadsToRoot_iff (hne : chain ≠ []) :
    LeadsToRoot chain roots now ↔ HoldsTogether chain now ∧
      ((∃ root ∈ roots, root.der = (chain.getLast hne).der) ∨
        ∃ root ∈ roots, StandsAbove root chain hne now) := by
  constructor
  · intro h
    refine ⟨⟨h.valid, h.linked⟩, ?_⟩
    obtain ⟨root, hroot, hsame | ⟨hvalid, hmay, hissued⟩⟩ := h.anchored
    · exact Or.inl ⟨root, hroot, hsame⟩
    · exact Or.inr ⟨root, hroot, hvalid, hissued, hmay⟩
  · intro ⟨hholds, hanchored⟩
    refine ⟨hne, hholds.valid, hholds.linked, ?_⟩
    rcases hanchored with ⟨root, hroot, hsame⟩ | ⟨root, hroot, habove⟩
    · exact ⟨root, hroot, Or.inl hsame⟩
    · exact ⟨root, hroot, Or.inr ⟨habove.valid, habove.may_issue, habove.issued⟩⟩

/-! ### One more certificate -/

/-- By induction on the certificates before the last one. A certificate at the end adds one link,
from what was the last one before. -/
theorem checkLinks_append_root {depth : Nat} {c : Certificate} {rest : List Certificate} :
    checkLinks depth (c :: rest ++ [root]) = .ok () ↔
      checkLinks depth (c :: rest) = .ok () ∧
        ((c :: rest).getLast (List.cons_ne_nil c rest)).IssuedBy root ∧
          root.MayIssue (depth + rest.length) := by
  induction rest generalizing depth c with
  | nil =>
    have hnone (d : Certificate) (k : Nat) : checkLinks k [d] = .ok () := rfl
    rw [List.singleton_append, checkLinks_cons_eq_ok]
    simp [hnone]
  | cons issuer rest ih =>
    have hdepth : depth + 1 + rest.length = depth + (issuer :: rest).length := by
      rw [List.length_cons]
      omega
    have hlast : (c :: issuer :: rest).getLast (List.cons_ne_nil c _) =
        (issuer :: rest).getLast (List.cons_ne_nil issuer rest) := List.getLast_cons _
    rw [hlast, List.cons_append, List.cons_append, checkLinks_cons_eq_ok, ← List.cons_append, ih,
      checkLinks_cons_eq_ok, hdepth]
    simp only [and_assoc]

theorem holdsTogether_append_root (hne : chain ≠ []) :
    HoldsTogether (chain ++ [root]) now ↔
      HoldsTogether chain now ∧ StandsAbove root chain hne now := by
  obtain ⟨c, rest, rfl⟩ := List.exists_cons_of_ne_nil hne
  rw [holdsTogether_iff, holdsTogether_iff, checkLinks_append_root, checkValidity_eq_ok,
    checkValidity_eq_ok, Nat.zero_add]
  simp only [List.mem_append, List.mem_singleton]
  constructor
  · intro ⟨hvalid, hlinks, hissued, hmay⟩
    exact ⟨⟨fun d hd => hvalid d (Or.inl hd), hlinks⟩, hvalid root (Or.inr rfl), hissued, hmay⟩
  · intro ⟨⟨hvalid, hlinks⟩, habove⟩
    refine ⟨?_, hlinks, habove.issued, habove.may_issue⟩
    rintro d (hd | rfl)
    · exact hvalid d hd
    · exact habove.valid

/-- A chain that goes on to one of the roots leads to it exactly if that root stands above it. -/
theorem leadsToRoot_append_root (hne : chain ≠ []) (hroot : root ∈ roots) :
    LeadsToRoot (chain ++ [root]) roots now ↔
      HoldsTogether chain now ∧ StandsAbove root chain hne now := by
  have hlong : chain ++ [root] ≠ [] := List.append_ne_nil_of_right_ne_nil _ (List.cons_ne_nil _ _)
  have hend : (chain ++ [root]).getLast hlong = root := List.getLast_concat
  rw [leadsToRoot_iff hlong, holdsTogether_append_root hne, hend]
  constructor
  · intro h
    exact h.1
  · intro h
    exact ⟨h, Or.inl ⟨root, hroot, rfl⟩⟩

/-! ### The set of roots -/

theorem LeadsToRoot.mono {more : List Certificate} (h : LeadsToRoot chain roots now)
    (hsub : roots ⊆ more) : LeadsToRoot chain more now := by
  obtain ⟨root, hroot, hanchor⟩ := h.anchored
  exact { h with anchored := ⟨root, hsub hroot, hanchor⟩ }

/-- What is found wrong with a chain, too, depends only on which certificates are roots. -/
theorem validateChain_congr {other : List Certificate} (h : ∀ root, root ∈ roots ↔ root ∈ other) :
    validateChain chain roots now = validateChain chain other now := by
  have hempty : roots.isEmpty = other.isEmpty := by
    rw [Bool.eq_iff_iff, List.isEmpty_iff, List.isEmpty_iff, List.eq_nil_iff_forall_not_mem,
      List.eq_nil_iff_forall_not_mem]
    simp only [h]
  have hany (p : Certificate → Bool) : roots.any p = other.any p := by
    rw [Bool.eq_iff_iff, List.any_eq_true, List.any_eq_true]
    simp only [h]
  unfold validateChain
  simp only [hempty, hany]

/-- A chain is validated exactly if it holds together and ends at a root, or is validated with one of
the roots at its end. More roots never do harm, and their order and number do not count. -/
theorem root_set (now : Instant) (roots : List Certificate) :
    (∀ (chain : List Certificate) (hne : chain ≠ []),
      validateChain chain roots now = .ok () ↔
        ((∃ root ∈ roots, root.der = (chain.getLast hne).der) ∧ HoldsTogether chain now) ∨
          ∃ root ∈ roots, validateChain (chain ++ [root]) roots now = .ok ()) ∧
    (∀ chain more : List Certificate, roots ⊆ more →
      validateChain chain roots now = .ok () → validateChain chain more now = .ok ()) ∧
    ∀ chain other : List Certificate, (∀ root, root ∈ roots ↔ root ∈ other) →
      validateChain chain roots now = validateChain chain other now := by
  refine ⟨?_, ?_, fun chain other h => validateChain_congr h⟩
  · intro chain hne
    rw [validateChain_eq_ok, leadsToRoot_iff hne]
    constructor
    · intro ⟨hholds, hanchored⟩
      rcases hanchored with hend | ⟨root, hroot, habove⟩
      · exact Or.inl ⟨hend, hholds⟩
      · refine Or.inr ⟨root, hroot, ?_⟩
        exact validateChain_eq_ok.2 ((leadsToRoot_append_root hne hroot).2 ⟨hholds, habove⟩)
    · intro h
      rcases h with ⟨hend, hholds⟩ | ⟨root, hroot, hlonger⟩
      · exact ⟨hholds, Or.inl hend⟩
      · obtain ⟨hholds, habove⟩ :=
          (leadsToRoot_append_root hne hroot).1 (validateChain_eq_ok.1 hlonger)
        exact ⟨hholds, Or.inr ⟨root, hroot, habove⟩⟩
  · intro chain more hsub h
    exact validateChain_eq_ok.2 ((validateChain_eq_ok.1 h).mono hsub)

end Passkey
