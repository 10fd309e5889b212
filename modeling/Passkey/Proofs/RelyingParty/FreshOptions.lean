import Passkey.Proofs.RelyingParty.OriginScope

/-!
# What options are made of

Options carry the next bytes of the random source as their challenge, unless these would be too few:
then nothing is drawn. Of the descriptors with one identifier they keep the first, and all else they
copy (`options_made`). A relying party that was set up asks for enough bytes.
-/

namespace Passkey

/-! ### One descriptor for each identifier -/

/-- The descriptor at this position has an identifier that is not among those seen, and no earlier
descriptor has it. -/
structure IsFirstAt (seen : List Bytes) (ds : List CredentialDescriptor) (i : Nat)
    (d : CredentialDescriptor) : Prop where
  here : ds[i]? = some d
  not_seen : d.id ∉ seen
  first : ∀ j < i, ∀ e, ds[j]? = some e → e.id ≠ d.id

variable {seen : List Bytes} {ds : List CredentialDescriptor} {c d : CredentialDescriptor} {i : Nat}

theorem isFirstAt_zero : IsFirstAt seen (c :: ds) 0 d ↔ c = d ∧ c.id ∉ seen := by
  constructor
  · intro h
    obtain rfl : c = d := Option.some.inj h.here
    exact ⟨rfl, h.not_seen⟩
  · rintro ⟨rfl, hseen⟩
    exact ⟨rfl, hseen, fun j hj => absurd hj (Nat.not_lt_zero j)⟩

/-- After a descriptor its identifier counts as seen. -/
theorem isFirstAt_succ :
    IsFirstAt seen (c :: ds) (i + 1) d ↔ IsFirstAt (c.id :: seen) ds i d := by
  constructor
  · intro h
    have hne : c.id ≠ d.id := h.first 0 (Nat.succ_pos i) c rfl
    refine ⟨h.here, ?_, fun j hj e he => h.first (j + 1) (Nat.succ_lt_succ hj) e he⟩
    rw [List.mem_cons, not_or]
    exact ⟨hne.symm, h.not_seen⟩
  · intro h
    have hnew := h.not_seen
    rw [List.mem_cons, not_or] at hnew
    refine ⟨h.here, hnew.2, fun j hj e he => ?_⟩
    cases j with
    | zero =>
      obtain rfl : c = e := Option.some.inj he
      exact Ne.symm hnew.1
    | succ j => exact h.first j (Nat.lt_of_succ_lt_succ hj) e he

theorem isFirstAt_cons_of_mem {id : Bytes} (hid : id ∈ seen) :
    IsFirstAt (id :: seen) ds i d ↔ IsFirstAt seen ds i d := by
  have hsame : d.id ∉ id :: seen ↔ d.id ∉ seen := by
    rw [List.mem_cons, not_or]
    refine and_iff_right_of_imp fun hnew heq => hnew ?_
    rwa [heq]
  constructor
  · intro h
    exact ⟨h.here, hsame.1 h.not_seen, h.first⟩
  · intro h
    exact ⟨h.here, hsame.2 h.not_seen, h.first⟩

/-- The list consists of the first descriptor with each identifier that is not among those seen, in
the order of their positions. -/
def ConsistsOfFirsts (seen : List Bytes) (ds kept : List CredentialDescriptor) : Prop :=
  ∃ positions : List Nat, positions.Pairwise (· < ·) ∧
    (∀ i, i ∈ positions ↔ ∃ d, IsFirstAt seen ds i d) ∧ positions.map (ds[·]?) = kept.map some

theorem ConsistsOfFirsts.mem_iff {kept : List CredentialDescriptor}
    (h : ConsistsOfFirsts seen ds kept) : d ∈ kept ↔ ∃ i, IsFirstAt seen ds i d := by
  obtain ⟨positions, -, hpositions, hkept⟩ := h
  have hmem : d ∈ kept ↔ ∃ i ∈ positions, ds[i]? = some d := by
    have hsome : some d ∈ kept.map some ↔ d ∈ kept := by simp
    rw [← hsome, ← hkept, List.mem_map]
  rw [hmem]
  constructor
  · rintro ⟨i, hi, hd⟩
    obtain ⟨e, he⟩ := (hpositions i).1 hi
    obtain rfl : d = e := Option.some.inj (hd.symm.trans he.here)
    exact ⟨i, he⟩
  · rintro ⟨i, hi⟩
    exact ⟨i, (hpositions i).2 ⟨d, hi⟩, hi.here⟩

/-- By induction along the list. Whether the first descriptor is kept or not, the positions of the
others move up by one. -/
theorem consistsOfFirsts_dedupFrom (seen : List Bytes) (ds : List CredentialDescriptor) :
    ConsistsOfFirsts seen ds (dedupFrom seen ds) := by
  induction ds generalizing seen with
  | nil =>
    refine ⟨[], .nil, fun i => ⟨?_, ?_⟩, rfl⟩
    · intro hi
      cases hi
    · rintro ⟨d, hd⟩
      cases hd.here
  | cons c ds ih =>
    have hincreasing {positions : List Nat} (h : positions.Pairwise (· < ·)) :
        (positions.map (· + 1)).Pairwise (· < ·) :=
      h.map _ fun _ _ => Nat.succ_lt_succ
    have hshift (positions : List Nat) :
        (positions.map (· + 1)).map ((c :: ds)[·]?) = positions.map (ds[·]?) :=
      List.map_map
    by_cases hseen : c.id ∈ seen
    · rw [dedupFrom, if_pos (List.contains_iff_mem.2 hseen)]
      obtain ⟨positions, hpairwise, hpositions, hkept⟩ := ih seen
      refine ⟨positions.map (· + 1), hincreasing hpairwise, fun i => ?_, (hshift _).trans hkept⟩
      cases i with
      | zero => simp [isFirstAt_zero, hseen]
      | succ i => simp [isFirstAt_succ, isFirstAt_cons_of_mem hseen, hpositions]
    · rw [dedupFrom, if_neg (mt List.contains_iff_mem.1 hseen)]
      obtain ⟨positions, hpairwise, hpositions, hkept⟩ := ih (c.id :: seen)
      refine ⟨0 :: positions.map (· + 1), ?_, fun i => ?_, ?_⟩
      · refine List.pairwise_cons.2 ⟨?_, hincreasing hpairwise⟩
        intro j hj
        obtain ⟨i, -, rfl⟩ := List.mem_map.1 hj
        exact Nat.succ_pos i
      · cases i with
        | zero => simp [isFirstAt_zero, hseen]
        | succ i => simp [isFirstAt_succ, hpositions]
      · exact congrArg (some c :: ·) ((hshift positions).trans hkept)

theorem dedupFrom_sublist (seen : List Bytes) (ds : List CredentialDescriptor) :
    (dedupFrom seen ds).Sublist ds := by
  induction ds generalizing seen with
  | nil => exact .slnil
  | cons c ds ih =>
    rw [dedupFrom]
    split
    · exact (ih seen).cons c
    · exact (ih (c.id :: seen)).cons_cons c

theorem not_mem_of_mem_dedupFrom (hd : d ∈ dedupFrom seen ds) : d.id ∉ seen := by
  obtain ⟨i, hi⟩ := (consistsOfFirsts_dedupFrom seen ds).mem_iff.1 hd
  exact hi.not_seen

theorem nodup_dedupFrom (seen : List Bytes) (ds : List CredentialDescriptor) :
    ((dedupFrom seen ds).map (·.id)).Nodup := by
  induction ds generalizing seen with
  | nil => exact .nil
  | cons c ds ih =>
    rw [dedupFrom]
    split
    · exact ih seen
    · rw [List.map_cons, List.nodup_cons]
      refine ⟨?_, ih (c.id :: seen)⟩
      intro hmem
      obtain ⟨d, hd, heq⟩ := List.mem_map.1 hmem
      refine not_mem_of_mem_dedupFrom hd ?_
      rw [heq]
      exact List.mem_cons_self

theorem exists_mem_dedupFrom (hd : d ∈ ds) (hnew : d.id ∉ seen) :
    ∃ e ∈ dedupFrom seen ds, e.id = d.id := by
  induction ds generalizing seen with
  | nil => cases hd
  | cons c ds ih =>
    rw [dedupFrom]
    by_cases hsame : c.id = d.id
    · rw [← hsame] at hnew
      rw [if_neg (mt List.contains_iff_mem.1 hnew)]
      exact ⟨c, List.mem_cons_self, hsame⟩
    · obtain rfl | hd := List.mem_cons.1 hd
      · exact absurd rfl hsame
      split
      · exact ih hd hnew
      · obtain ⟨e, he, heq⟩ := ih hd (List.not_mem_cons_of_ne_of_not_mem (Ne.symm hsame) hnew)
        exact ⟨e, List.mem_cons_of_mem c he, heq⟩

theorem dedupFrom_eq_self (hnew : ∀ d ∈ ds, d.id ∉ seen) (hnodup : (ds.map (·.id)).Nodup) :
    dedupFrom seen ds = ds := by
  induction ds generalizing seen with
  | nil => rfl
  | cons c ds ih =>
    obtain ⟨hc, hrest⟩ := List.forall_mem_cons.1 hnew
    rw [List.map_cons, List.nodup_cons] at hnodup
    rw [dedupFrom, if_neg (mt List.contains_iff_mem.1 hc), ih _ hnodup.2]
    intro d hd
    rw [List.mem_cons, not_or]
    refine ⟨?_, hrest d hd⟩
    intro heq
    exact hnodup.1 (heq ▸ List.mem_map_of_mem hd)

/-- What the list of descriptors in options is, compared with the one that was asked for: the first
descriptor with each identifier, in the same order. So no identifier stands there twice, none is
lost, and nothing is left to be taken out. -/
structure KeepsFirsts (ds kept : List CredentialDescriptor) : Prop where
  firsts : ConsistsOfFirsts [] ds kept
  sublist : kept.Sublist ds
  distinct : (kept.map (·.id)).Nodup
  complete : ∀ d ∈ ds, ∃ e ∈ kept, e.id = d.id
  stable : dedup kept = kept

theorem keepsFirsts_dedup (ds : List CredentialDescriptor) : KeepsFirsts ds (dedup ds) where
  firsts := consistsOfFirsts_dedupFrom [] ds
  sublist := dedupFrom_sublist [] ds
  distinct := nodup_dedupFrom [] ds
  complete _ hd := exists_mem_dedupFrom hd List.not_mem_nil
  stable := dedupFrom_eq_self (fun _ _ => List.not_mem_nil) (nodup_dedupFrom [] ds)

/-! ### Challenges -/

section Challenges

variable {σ : Type} {random : RandomSource σ} {s : σ}

/-- Whatever options are made with a fresh challenge. -/
theorem map_freshChallenge {ω : Type} (make : Bytes → ω) (length : UInt64) :
    ((freshChallenge random s length).1.map make, (freshChallenge random s length).2) =
      if length.toNat < 16 then (.error (.challengeTooShort length.toNat), s)
      else (.ok (make (random.draw s length.toNat).1), (random.draw s length.toNat).2) := by
  unfold freshChallenge minChallengeLength
  by_cases h : length.toNat < 16
  · rw [if_pos h, if_pos h]
    rfl
  · rw [if_neg h, if_neg h]
    rfl

theorem startRegistration_eq (r : RegistrationRequest) :
    startRegistration random s r =
      if r.challengeLength.toNat < 16 then
        (.error (.challengeTooShort r.challengeLength.toNat), s)
      else
        (.ok (r.options (random.draw s r.challengeLength.toNat).1),
          (random.draw s r.challengeLength.toNat).2) :=
  map_freshChallenge r.options r.challengeLength

theorem startAssertion_eq (r : AssertionRequest) :
    startAssertion random s r =
      if r.challengeLength.toNat < 16 then
        (.error (.challengeTooShort r.challengeLength.toNat), s)
      else
        (.ok (r.options (random.draw s r.challengeLength.toNat).1),
          (random.draw s r.challengeLength.toNat).2) :=
  map_freshChallenge r.options r.challengeLength

/-- What is refused under a condition, or else succeeds, is refused only under that condition. -/
theorem refused_iff {ε α : Type} {p : Prop} [Decidable p] {e : ε} {a : α} {s t : σ} :
    (if p then (Except.error e, s) else (.ok a, t)) = (.error e, s) ↔ p := by
  by_cases h : p
  · simp [h]
  · simp [h]

end Challenges

theorem RelyingParty.challengeLength_ge {config : RelyingPartyConfig} {party : RelyingParty}
    (h : RelyingParty.ofConfig config = .ok party) : 16 ≤ config.challengeLength.toNat := by
  obtain rfl := RelyingParty.config_of_ofConfig h
  exact (RelyingPartyConfig.validate_eq_ok.1 party.isValid).2.2

/-- Options are refused exactly if their challenge would be shorter than 16 bytes, and then nothing
is drawn. Otherwise the challenge is what is drawn next, each identifier of the list of descriptors
stays with its first descriptor, and all else is as in the request. What a relying party that was set
up asks for by itself is never refused. -/
theorem options_made {σ : Type} (random : RandomSource σ) (s : σ) :
    (∀ r : RegistrationRequest,
      (startRegistration random s r = (.error (.challengeTooShort r.challengeLength.toNat), s) ↔
        r.challengeLength.toNat < 16) ∧
      (16 ≤ r.challengeLength.toNat →
        ∃ kept, KeepsFirsts r.excludeCredentials kept ∧
          startRegistration random s r =
            (.ok {
              rp := r.rp
              user := r.user
              challenge := (random.draw s r.challengeLength.toNat).1
              algorithms := r.algorithms
              timeout := r.timeout
              excludeCredentials := kept
              selection := r.selection
              attestation := r.attestation
              extensions := r.extensions },
            (random.draw s r.challengeLength.toNat).2))) ∧
    (∀ r : AssertionRequest,
      (startAssertion random s r = (.error (.challengeTooShort r.challengeLength.toNat), s) ↔
        r.challengeLength.toNat < 16) ∧
      (16 ≤ r.challengeLength.toNat →
        ∃ kept, KeepsFirsts r.allowCredentials kept ∧
          startAssertion random s r =
            (.ok {
              challenge := (random.draw s r.challengeLength.toNat).1
              timeout := r.timeout
              rpId := r.rpId
              allowCredentials := kept
              userVerification := r.userVerification
              extensions := r.extensions },
            (random.draw s r.challengeLength.toNat).2))) ∧
    ∀ config party, RelyingParty.ofConfig config = .ok party →
      (∀ user, ∃ options,
        (startRegistration random s (config.registrationRequest user)).1 = .ok options) ∧
      ∃ options, (startAssertion random s config.assertionRequest).1 = .ok options := by
  refine ⟨fun r => ⟨?_, fun h => ?_⟩, fun r => ⟨?_, fun h => ?_⟩,
    fun config party hparty => ⟨fun user => ?_, ?_⟩⟩
  · rw [startRegistration_eq, refused_iff]
  · refine ⟨_, keepsFirsts_dedup r.excludeCredentials, ?_⟩
    rw [startRegistration_eq, if_neg (Nat.not_lt.2 h)]
    rfl
  · rw [startAssertion_eq, refused_iff]
  · refine ⟨_, keepsFirsts_dedup r.allowCredentials, ?_⟩
    rw [startAssertion_eq, if_neg (Nat.not_lt.2 h)]
    rfl
  · have hlong : 16 ≤ (config.registrationRequest user).challengeLength.toNat :=
      RelyingParty.challengeLength_ge hparty
    rw [startRegistration_eq, if_neg (Nat.not_lt.2 hlong)]
    exact ⟨_, rfl⟩
  · have hlong : 16 ≤ config.assertionRequest.challengeLength.toNat :=
      RelyingParty.challengeLength_ge hparty
    rw [startAssertion_eq, if_neg (Nat.not_lt.2 hlong)]
    exact ⟨_, rfl⟩

end Passkey
